import PageComposer.Proofs.Loading.Naming
import PageComposer.Proofs.Site.Failure
import PageComposer.Proofs.Site.Transfer

/-!
# Grafted trees

A tree that is copied stands below the target as it stands below the source, entry by entry, and nothing else has
changed (`grafts_copyInto`). Where two parts are copied one after the other, the second one leaves the first as it is,
since what stands at a place is known from the source (`Grafts.bind`).
-/

namespace PageComposer

open FileTree Workspace

namespace Site
variable {origin : FileTree} {src tgt l : Location} {names : List Text} {t : Workspace}

/-- An action that copies entries: what it changes are the places of the entries that it covers, and if it is done these
stand there, and what comes out satisfies a condition. -/
structure Grafts {α : Type} (origin : FileTree) (src tgt : Location) (covered : List Text → Prop) (P : α → Prop)
    (t : Workspace) (x : Action α) : Prop where
  published : Published tgt t (t.after x)
  kept : ∀ l, (∀ rest, l = tgt ++ rest → covered rest → origin.find? (src ++ rest) = none) →
    (t.after x).tree.find? l = t.tree.find? l
  done : ∀ a, t.outcome x = .ok a → P a ∧ ∀ rest e, covered rest → origin.find? (src ++ rest) = some e →
    (t.after x).tree.find? (tgt ++ rest) = some e

namespace Grafts
variable {α β : Type} {x : Action α} {f : α → Action β} {covered covered' : List Text → Prop} {P : α → Prop}
    {Q : β → Prop}

theorem of_reads (reads : Reads x) (gives : ∀ a, t.outcome x = .ok a → P a) :
    Grafts origin src tgt (fun _ => False) P t x where
  published := .of_sameFiles (reads.keeps t)
  kept l _ := by rw [(reads.keeps t).tree]
  done a done := ⟨gives a done, fun _ _ none => none.elim⟩

theorem covering (h : Grafts origin src tgt covered P t x) (covers : ∀ rest, (origin.find? (src ++ rest)).isSome →
    (covered rest ↔ covered' rest)) : Grafts origin src tgt covered' P t x := by
  refine ⟨h.published, fun l other => h.kept l fun rest same isCovered => ?_, fun a done => ?_⟩
  · by_contra there
    have there' := Option.isSome_iff_ne_none.2 there
    exact there (other rest same ((covers rest there').1 isCovered))
  · obtain ⟨gives, made⟩ := h.done a done
    refine ⟨gives, fun rest e isCovered there => made rest e ((covers rest ?_).2 isCovered) there⟩
    rw [there]
    rfl

theorem kept_below (h : Grafts origin src tgt covered P t x) {rest : List Text} (other : ¬covered rest) :
    (t.after x).tree.find? (tgt ++ rest) = t.tree.find? (tgt ++ rest) := by
  apply h.kept
  intro rest' same isCovered
  cases List.append_cancel_left same
  exact absurd isCovered other

theorem copied_or_kept (h : Grafts origin src tgt ([] <+: ·) P t x) (l : Location) :
    (∃ names, l = tgt ++ names ∧ origin.find? (src ++ names) ≠ none) ∨ (t.after x).tree.find? l = t.tree.find? l := by
  by_cases copied : ∃ names, l = tgt ++ names ∧ origin.find? (src ++ names) ≠ none
  · exact .inl copied
  · refine .inr (h.kept l fun names same _ => ?_)
    by_contra there
    exact copied ⟨names, same, there⟩

theorem bind (first : Grafts origin src tgt covered P t x)
    (next : ∀ a, t.outcome x = .ok a → P a → Grafts origin src tgt covered' Q (t.after x) (f a)) :
    Grafts origin src tgt (fun rest => covered rest ∨ covered' rest) Q t (x >>= f) := by
  refine ⟨related_bind first.published fun a done => (next a done (first.done a done).1).published,
    fun l other => ?_, fun b done => ?_⟩
  · have kept := first.kept l fun rest same isCovered => other rest same (.inl isCovered)
    rw [after_bind]
    cases done : t.outcome x with
    | error e => exact kept
    | ok a =>
      have later :=
        (next a done (first.done a done).1).kept l fun rest same isCovered => other rest same (.inr isCovered)
      exact later.trans kept
  · obtain ⟨a, done, doneNext⟩ := outcome_bind_eq_ok.1 done
    obtain ⟨given, made⟩ := first.done a done
    have next := next a done given
    obtain ⟨gives, madeNext⟩ := next.done b doneNext
    rw [after_bind_of_ok done]
    refine ⟨gives, fun rest e isCovered there => ?_⟩
    by_cases again : covered' rest
    · exact madeNext rest e again there
    · rw [next.kept_below again]
      exact made rest e (isCovered.resolve_right again) there

theorem after_reads (reads : Reads x)
    (next : ∀ a, t.outcome x = .ok a → Grafts origin src tgt covered Q (t.after x) (f a)) :
    Grafts origin src tgt covered Q t (x >>= f) :=
  ((of_reads (P := fun _ => True) reads fun _ _ => trivial).bind fun a done _ => next a done).covering fun _ _ => by
    simp

theorem then_pure {g : α → β} (first : Grafts origin src tgt covered P t x) (gives : ∀ a, P a → Q (g a)) :
    Grafts origin src tgt covered Q t (x >>= fun a => pure (g a)) := by
  refine (first.bind fun a _ given => of_reads (.pure _) fun b same => ?_).covering fun _ _ => by simp
  cases same
  exact gives a given

end Grafts

section Copying
variable {source target : Path} {here : Location} {part : Text}

structure Grafting (origin : FileTree) (source target : Path) (here : Location) (names : List Text) (w : Workspace) :
    Prop where
  underway : Underway origin source target here names w
  clear : ∀ rest content changed, origin.find? (source.resolve here ++ rest) = some (.file content changed) →
    w.tree.find? (target.resolve here ++ rest) ≠ some .directory

variable (elsewhere : ∀ names, ¬target.resolve here <+: source.resolve here ++ names) (proper : target.Proper)
  (sound : origin.Sound)

include elsewhere in
theorem Grafting.then {α : Type} {x : Action α} {covered : List Text → Prop} {P : α → Prop} {a : α}
    (grafting : Grafting origin source target here names t)
    (grafts : Grafts origin (source.resolve here) (target.resolve here) covered P t x) (done : t.outcome x = .ok a) :
    Grafting origin source target here names (t.after x) := by
  refine ⟨grafting.underway.published elsewhere grafts.published, fun rest content changed file => ?_⟩
  by_cases isCovered : covered rest
  · rw [(grafts.done a done).2 rest _ isCovered file]
    simp
  · rw [grafts.kept_below isCovered]
    exact grafting.clear rest content changed file

include elsewhere in
theorem Grafting.of_sameFiles {t' : Workspace} (grafting : Grafting origin source target here names t)
    (files : t.SameFiles t') : Grafting origin source target here names t' :=
  ⟨grafting.underway.published elsewhere (.of_sameFiles files), by rw [files.tree]; exact grafting.clear⟩

include proper in
theorem grafts_ensureDirectory (isHere : t.here = here) (named : ∀ part ∈ names, IsName part)
    (ready : Ready t (target.below names)) (found : origin.find? (src ++ names) = some .directory) :
    Grafts origin src (target.resolve here) (· = names) (fun _ => True) t
      (Files.ensureDirectory (target.below names)) := by
  have properHere := proper.below named
  have lies : (target.below names).resolve t.here = target.resolve here ++ names := by
    rw [isHere, Path.resolve_below fun part member => (named part member).notUp]
  refine ⟨published_ensureDirectory ready properHere (lies ▸ List.prefix_append _ _), fun l other => ?_, fun u done =>
    ⟨trivial, ?_⟩⟩
  · apply find?_ensureDirectory ready
    rintro rfl
    have free := other names lies rfl
    rw [found] at free
    cases free
  · rintro rest e rfl there
    rw [found] at there
    cases there
    have made := (Files.hasDirectory_of_ensured properHere done).found
    rwa [lies] at made

include elsewhere proper sound in
theorem grafts_copy (grafting : Grafting origin source target here names t) (named : IsName part) :
    Grafts origin (source.resolve here) (target.resolve here) (names ++ [part] <+: ·)
      (fun _ =>
        ∃ content changed, origin.find? (source.resolve here ++ (names ++ [part])) = some (.file content changed)) t
      (Files.copy ((source.below names).child part) (target.below (names ++ [part]))) := by
  have targetLies := grafting.underway.copying.copyLies named
  have published := (transfers_copy elsewhere proper grafting.underway named).published
  rcases Files.copy_cases t ((source.below names).child part) (target.below (names ++ [part])) with
    ⟨l, content, changed, copies, -, files⟩ | ⟨-, ⟨e, refused⟩, run⟩
  · obtain ⟨-, file⟩ := stat_eq_ok.1 copies.read
    rw [grafting.underway.copying.entryLies named, grafting.underway.unchanged] at file
    have absent : ¬t.tree.HasDirectory t.here (target.below (names ++ [part])) := fun present =>
      grafting.clear _ content changed file (targetLies ▸ present.found)
    obtain rfl : l = target.resolve here ++ (names ++ [part]) := by
      obtain ⟨-, lies⟩ := (copies.lands (by rwa [Path.name_child])).resolve_right fun there => absent there.1
      exact lies.trans targetLies
    have there (m : Location) : (t.after (Files.copy ((source.below names).child part)
        (target.below (names ++ [part])))).tree.find? m =
          if m = target.resolve here ++ (names ++ [part]) then some (.file content changed) else t.tree.find? m := by
      rw [← files.tree, tree_put]
      by_cases top : m = []
      · subst top
        simp
      · exact find?_put _ _ _ _ top
    refine ⟨published, fun m other => ?_, fun u _ => ⟨⟨content, changed, file⟩, ?_⟩⟩
    · rw [there, if_neg]
      intro same
      rw [other _ same (List.prefix_refl _)] at file
      cases file
    · rintro rest e ⟨more, rfl⟩ found
      by_cases last : more = []
      · rw [last, List.append_nil] at found ⊢
        rw [there, if_pos rfl, ← file, found]
      · rw [← List.append_assoc] at found
        rw [sound.directory_of_below last found] at file
        cases file
  · refine ⟨published, fun m _ => by rw [run], fun u done => ?_⟩
    rw [refused] at done
    cases done

def waysFrom (origin : FileTree) (src : Location) (names : List Text) (part : Text) : List (List Text) :=
  (origin.filesFrom (src ++ names) part).map fun f => names ++ f.1

def waysBelow (origin : FileTree) (src : Location) (names : List Text) : List (List Text) :=
  (origin.filesBelow (src ++ names)).map fun f => names ++ f.1

theorem waysFrom_file {content : List UInt8} {changed : Int}
    (file : origin.find? (src ++ (names ++ [part])) = some (.file content changed)) :
    waysFrom origin src names part = [names ++ [part]] := by
  simp [waysFrom, filesFrom, file]

theorem waysFrom_directory (directory : origin.find? (src ++ (names ++ [part])) = some .directory) :
    waysFrom origin src names part = waysBelow origin src (names ++ [part]) := by
  simp [waysFrom, waysBelow, filesFrom, directory]

include sound in
theorem waysBelow_eq_flatMap : waysBelow origin src names =
    (origin.names (src ++ names)).flatMap (waysFrom origin src names) := by
  rw [waysBelow, filesBelow_eq_flatMap sound, List.map_flatMap]
  rfl

include sound in
theorem mem_waysBelow (directory : origin.find? src = some .directory) :
    names ∈ waysBelow origin src [] ↔
      ∃ content changed, origin.find? (src ++ names) = some (.file content changed) := by
  simp only [waysBelow, List.append_nil, List.nil_append, List.mem_map, Prod.exists]
  constructor
  · rintro ⟨names, content, changed, member, rfl⟩
    exact ⟨content, changed, ((mem_filesBelow sound).1 member).2⟩
  · rintro ⟨content, changed, file⟩
    refine ⟨names, content, changed, (mem_filesBelow sound).2 ⟨?_, file⟩, rfl⟩
    rintro rfl
    rw [List.append_nil, directory] at file
    cases file

include sound in
theorem sorted_waysBelow : (waysBelow origin src []).Pairwise (· < ·) := by
  simpa [waysBelow, List.pairwise_map] using sorted_filesBelow (l := src) sound

include sound in
theorem named_of_mem_waysBelow (directory : origin.find? src = some .directory)
    (member : names ∈ waysBelow origin src []) :
    names ≠ [] ∧ ∀ part ∈ names, IsName part := by
  obtain ⟨content, changed, file⟩ := (mem_waysBelow sound directory).1 member
  refine ⟨?_, fun part inside => sound.name file (List.mem_append_right _ inside)⟩
  rintro rfl
  rw [List.append_nil, directory] at file
  cases file

include elsewhere proper sound in
theorem grafts_copyEntry {deeper : List Text → Action (List (List Text))}
    (grafting : Grafting origin source target here names t) (named : IsName part)
    (deeperGrafts : ∀ t', Grafting origin source target here names t' →
      t'.tree.HasDirectory here (source.below (names ++ [part])) →
      Grafts origin (source.resolve here) (target.resolve here) (names ++ [part] <+: ·)
        (· = waysBelow origin (source.resolve here) (names ++ [part])) t' (deeper (names ++ [part]))) :
    Grafts origin (source.resolve here) (target.resolve here) (names ++ [part] <+: ·)
      (· = waysFrom origin (source.resolve here) names part) t
      (Files.copyInto.copyEntry target deeper (names ++ [part]) ((source.below names).child part)) := by
  refine .after_reads (.isDirectory _) fun isDirectory asked => ?_
  have files := (Reads.isDirectory ((source.below names).child part)).keeps t
  have grafting' := grafting.of_sameFiles elsewhere files
  cases isDirectory with
  | true =>
    have present := Files.isDirectory_iff.1 asked
    rw [grafting.underway.copying.isHere, Path.below_child] at present
    have directory := present.found
    rw [Path.resolve_below fun q inside => (grafting.underway.copying.namedWith named q inside).notUp,
      grafting.underway.unchanged] at directory
    rw [waysFrom_directory directory]
    exact deeperGrafts _ grafting' (files.tree ▸ present)
  | false =>
    apply (grafts_copy elsewhere proper sound grafting' named).then_pure
    rintro u ⟨content, changed, file⟩
    exact (waysFrom_file file).symm

include elsewhere proper sound in
theorem grafts_copyEntries {deeper : List Text → Action (List (List Text))} {parts : List Text}
    (grafting : Grafting origin source target here names t) (named : ∀ part ∈ parts, IsName part)
    (deeperGrafts : ∀ t', ∀ part ∈ parts, Grafting origin source target here names t' →
      t'.tree.HasDirectory here (source.below (names ++ [part])) →
      Grafts origin (source.resolve here) (target.resolve here) (names ++ [part] <+: ·)
        (· = waysBelow origin (source.resolve here) (names ++ [part])) t' (deeper (names ++ [part]))) :
    Grafts origin (source.resolve here) (target.resolve here) (fun rest => ∃ part ∈ parts, names ++ [part] <+: rest)
      (· = parts.flatMap (waysFrom origin (source.resolve here) names)) t
      (Files.copyInto.copyEntries target deeper names (parts.map (source.below names).child)) := by
  induction parts generalizing t with
  | nil =>
    refine (Grafts.of_reads (.pure []) fun a same => ?_).covering fun rest _ => by simp
    cases same
    rfl
  | cons part parts ih =>
    obtain ⟨namedFirst, namedLater⟩ := List.forall_mem_cons.1 named
    have first := grafts_copyEntry elsewhere proper sound grafting namedFirst fun t' grafting' =>
      deeperGrafts t' part List.mem_cons_self grafting'
    rw [List.map_cons, Files.copyInto.copyEntries, Path.name_child]
    have later (copied) (done : t.outcome _ = .ok copied) := ih (grafting.then elsewhere first done) namedLater
      fun t' part member => deeperGrafts t' part (List.mem_cons_of_mem _ member)
    refine (first.bind fun copied done isCopied => (later copied done).then_pure fun more isMore => ?_).covering
      fun rest _ => by simp
    rw [isCopied, isMore, List.flatMap_cons]

include elsewhere proper sound in
theorem grafts_entries {deeper : List Text → Action (List (List Text))}
    (grafting : Grafting origin source target here names t)
    (deeperGrafts : ∀ t' part, (∀ q ∈ names ++ [part], IsName q) → Grafting origin source target here names t' →
      t'.tree.HasDirectory here (source.below (names ++ [part])) →
      Grafts origin (source.resolve here) (target.resolve here) (names ++ [part] <+: ·)
        (· = waysBelow origin (source.resolve here) (names ++ [part])) t' (deeper (names ++ [part]))) :
    Grafts origin (source.resolve here) (target.resolve here) (fun rest => names <+: rest ∧ rest ≠ names)
      (· = waysBelow origin (source.resolve here) names) t
      (Files.list (source.below names) >>= Files.copyInto.copyEntries target deeper names) := by
  refine .after_reads (Loading.reads_list _) fun entries asked => ?_
  obtain ⟨-, rfl⟩ := Files.list_iff.1 asked
  have grafting' := grafting.of_sameFiles elsewhere ((Loading.reads_list (source.below names)).keeps t)
  rw [grafting.underway.names_eq sound, waysBelow_eq_flatMap sound]
  apply (grafts_copyEntries elsewhere proper sound grafting' (fun part => isName_of_mem_names sound) ?_).covering
  · exact fun rest there => mem_names_iff sound there
  · exact fun t' part member =>
      deeperGrafts t' part (grafting.underway.copying.namedWith (isName_of_mem_names sound member))

include elsewhere proper sound in
theorem grafts_copyInto {room : Nat} (soundNow : t.Sound) (isHere : t.here = here) (named : ∀ part ∈ names, IsName part)
    (present : t.tree.HasDirectory here (source.below names)) (ready : Ready t (target.below names))
    (unchanged : ∀ rest, t.tree.find? (source.resolve here ++ rest) = origin.find? (source.resolve here ++ rest))
    (clear : ∀ rest content changed, origin.find? (source.resolve here ++ rest) = some (.file content changed) →
      t.tree.find? (target.resolve here ++ rest) ≠ some .directory) :
    Grafts origin (source.resolve here) (target.resolve here) (names <+: ·)
      (· = waysBelow origin (source.resolve here) names) t (Files.copyInto source target room names) := by
  -- By induction on the depth that is left: each directory is made, and then its entries are copied one by one.
  induction room generalizing t names with
  | zero => exact ⟨refl_of _ t, fun _ _ => rfl, fun _ done => nomatch done⟩
  | succ room ih =>
    have up : ∀ part ∈ names, part ≠ ['.', '.'] := fun part member => (named part member).notUp
    have directory := present.found
    rw [Path.resolve_below up, unchanged] at directory
    have made := grafts_ensureDirectory proper isHere named ready directory
    have begun (u) (done : t.outcome (Files.ensureDirectory (target.below names)) = .ok u) :
        Grafting origin source target here names (t.after (Files.ensureDirectory (target.below names))) := by
      refine ⟨⟨.of_made proper soundNow isHere named present made.published done, fun rest => ?_⟩,
        fun rest content changed file => ?_⟩
      · rw [made.published.apart _ (elsewhere rest), unchanged]
      · have other : rest ≠ names := by
          rintro rfl
          rw [directory] at file
          cases file
        rw [made.kept_below other]
        exact clear rest content changed file
    refine (made.bind fun u done _ => grafts_entries elsewhere proper sound (begun u done) ?_).covering fun rest _ => ?_
    · intro t' part namedDeeper grafting deeper
      have copying := grafting.underway.copying
      exact ih copying.sound copying.isHere namedDeeper deeper
        (copying.ready part) grafting.underway.unchanged grafting.clear
    constructor
    · rintro (rfl | ⟨below, -⟩)
      · exact List.prefix_refl _
      · exact below
    · intro below
      exact or_iff_not_imp_left.2 fun other => ⟨below, other⟩

end Copying
end Site

namespace Files
open Site
variable {w : Workspace} {source target : Path} {names : List Text} {result : CopyResult}

theorem copyInto_ensured (source : Path) (room : Nat) (proper : (target.below names).Proper)
    (made : w.outcome (ensureDirectory (target.below names)) = .ok ()) :
    w.outcome (copyInto source target (room + 1) names) =
        (w.after (ensureDirectory (target.below names))).outcome (copyInto source target (room + 1) names) ∧
      w.after (copyInto source target (room + 1) names) =
        (w.after (ensureDirectory (target.below names))).after (copyInto source target (room + 1) names) := by
  have present := hasDirectory_of_ensured proper made
  rw [← (furnished_ensureDirectory proper w).here] at present
  obtain ⟨made', kept⟩ := ensureDirectory_of_hasDirectory present
  change w.outcome (ensureDirectory (target.below names) >>= _) =
    Workspace.outcome _ (ensureDirectory (target.below names) >>= _) ∧
    w.after (ensureDirectory (target.below names) >>= _) =
      Workspace.after _ (ensureDirectory (target.below names) >>= _)
  rw [outcome_bind_of_ok made, outcome_bind_of_ok made', after_bind_of_ok made, after_bind_of_ok made', kept]
  exact ⟨rfl, rfl⟩

theorem foldl_add (ways : List (List Text)) (result : CopyResult) :
    ways.foldl .add result = ⟨result.copied + ways.length, result.files ++ ways.map (Text.join ['/'])⟩ := by
  induction ways generalizing result with
  | nil => simp
  | cons names ways ih =>
    rw [List.foldl_cons, ih]
    simp [CopyResult.add]
    omega

/-- The one path leads to a place on the way to the other. -/
def OnWay (here : Location) (p : Path) (l : Location) : Prop := ∃ q, Path.AtOrAbove q p ∧ q.resolve here = l

/-- What a copied tree looks like. Besides the copies, directories can be new that are on the way to the target, and the
copies of those among them that are in the source. -/
structure Copied (w w' : Workspace) (source target : Path) (result : CopyResult) : Prop where
  copies : ∀ names e, w.tree.find? (source.resolve w.here ++ names) = some e →
    w'.tree.find? (target.resolve w.here ++ names) = some e
  others : ∀ l e, w.tree.find? l = some e →
    (∀ names, l = target.resolve w.here ++ names → w.tree.find? (source.resolve w.here ++ names) = none) →
    w'.tree.find? l = some e
  new : ∀ l, w.tree.find? l = none → w'.tree.find? l = none ∨
    (∃ names, l = target.resolve w.here ++ names ∧ (w.tree.find? (source.resolve w.here ++ names)).isSome) ∨
    w'.tree.find? l = some .directory ∧ (OnWay w.here target l ∨
      ∃ names, l = target.resolve w.here ++ names ∧ OnWay w.here target (source.resolve w.here ++ names))
  listed : ∃ ways : List (List Text), ways.Pairwise (· < ·) ∧
    (∀ names, names ∈ ways ↔
      ∃ content changed, w.tree.find? (source.resolve w.here ++ names) = some (.file content changed)) ∧
    result.files = ways.map (Text.join ['/'])
  once : result.files.Nodup
  counted : result.copied = result.files.length

theorem kind?_of_find? {tree : FileTree} {l : Location} {e : Entry} (there : tree.find? l = some e) :
    tree.kind? l = some e.isDirectory := by
  rw [kind?, there]
  rfl

theorem onWay_of_furnished {u : Workspace} (furnished : FurnishedFor [target] w u) {l : Location}
    (free : w.tree.find? l = none) :
    u.tree.find? l = none ∨ u.tree.find? l = some .directory ∧ OnWay w.here target l := by
  rcases furnished.found l with same | ⟨-, isMade, p, member, q, above, lies⟩
  · exact .inl (same.trans free)
  · rw [List.mem_singleton.1 member] at above
    exact .inr ⟨isMade, q, above, lies⟩

theorem copied_of_grafts {u : Workspace} (soundMade : u.Sound)
    (furnished : FurnishedFor [target] w u)
    (present : w.tree.HasDirectory w.here source) {x : Action (List (List Text))}
    (grafts : Grafts u.tree (source.resolve w.here) (target.resolve w.here) ([] <+: ·)
      (· = waysBelow u.tree (source.resolve w.here) []) u x) {ways : List (List Text)} (done : u.outcome x = .ok ways) :
    Copied w (u.after x) source target (ways.foldl .add .empty) := by
  -- The directories that have been made in advance come with the tree.
  obtain ⟨rfl, made⟩ := grafts.done ways done
  have directory := furnished.kept present.found
  have sorted : (waysBelow u.tree (source.resolve w.here) []).Pairwise (· < ·) := sorted_waysBelow soundMade.tree
  have listed (names : List Text) : names ∈ waysBelow u.tree (source.resolve w.here) [] ↔
      ∃ content changed, w.tree.find? (source.resolve w.here ++ names) = some (.file content changed) := by
    simp only [mem_waysBelow soundMade.tree directory, furnished.file_iff]
  rw [foldl_add]
  refine ⟨fun names e there => made names e List.nil_prefix (furnished.kept there), fun l e there other => ?_,
    fun l free => ?_, ⟨_, sorted, listed, rfl⟩,
    Text.nodup_map_join (sorted.imp ne_of_lt) fun _ => named_of_mem_waysBelow soundMade.tree directory, by
      simp [CopyResult.empty]⟩
  · rcases grafts.copied_or_kept l with ⟨names, rfl, copied⟩ | kept
    · -- what is copied here is a directory on the way to the target, and it has found a directory
      obtain ⟨isMade, -⟩ := (onWay_of_furnished furnished (other names rfl)).resolve_left copied
      have there' := made names _ List.nil_prefix isMade
      have kind := grafts.published.grows _ _ (kind?_of_find? (furnished.kept there))
      rw [kind?_eq_true.2 there'] at kind
      cases e with
      | directory => exact there'
      | file => cases kind
    · rw [kept, furnished.kept there]
  · rcases grafts.copied_or_kept l with ⟨names, rfl, copied⟩ | kept
    · right
      cases there : w.tree.find? (source.resolve w.here ++ names) with
      | some e => exact .inl ⟨names, rfl, by rw [there]; rfl⟩
      | none =>
        obtain ⟨isMade, way⟩ := (onWay_of_furnished furnished there).resolve_left copied
        exact .inr ⟨made names _ List.nil_prefix isMade, .inr ⟨names, rfl, way⟩⟩
    · rw [kept]
      exact (onWay_of_furnished furnished free).imp_right fun ⟨isMade, way⟩ => .inr ⟨isMade, .inl way⟩

theorem copyTree_of_directory (target : Path) (present : w.tree.HasDirectory w.here source) :
    w.outcome (copyTree source target) = w.outcome (copyInto source target walkLimit []) ∧
      w.after (copyTree source target) = w.after (copyInto source target walkLimit []) := by
  have asked := isDirectory_iff.2 present
  have kept : w.after (Action.isDirectory source) = w := by
    rw [Action.isDirectory, after_storage, Storage.after_isDirectory]
  unfold copyTree
  rw [outcome_bind_of_ok asked, after_bind_of_ok asked, kept, if_pos rfl]
  exact ⟨rfl, rfl⟩

theorem copyTree_of_absent (target : Path) (absent : ¬w.tree.HasDirectory w.here source)
    (short : w.tree.locate w.here source ≠ .error (.system .nameTooLong)) :
    w.outcome (copyTree source target) = .ok [] ∧ w.SameFiles (w.after (copyTree source target)) := by
  have asked : w.outcome (Action.isDirectory source) = .ok false := by
    cases asked : w.outcome (Action.isDirectory source) with
    | error e => exact absurd (isDirectory_refused asked).1 short
    | ok answer =>
      cases answer with
      | true => exact absurd (isDirectory_iff.1 asked) absent
      | false => rfl
  unfold copyTree
  rw [outcome_bind_of_ok asked, after_bind_of_ok asked, if_neg Bool.false_ne_true]
  exact ⟨rfl, (Reads.isDirectory source).keeps w⟩

theorem copied_copyTree (sound : w.Sound) (proper : target.Proper) (present : w.tree.HasDirectory w.here source)
    (notInside : ¬source.resolve w.here <+: target.resolve w.here)
    (notAround : ¬target.resolve w.here <+: source.resolve w.here)
    (clear : ∀ names content changed, w.tree.find? (source.resolve w.here ++ names) = some (.file content changed) →
      (w.after (ensureDirectory target)).tree.find? (target.resolve w.here ++ names) ≠ some .directory)
    {ways : List (List Text)} (done : w.outcome (copyTree source target) = .ok ways) :
    Copied w (w.after (copyTree source target)) source target (ways.foldl .add .empty) := by
  have elsewhere (names : List Text) : ¬target.resolve w.here <+: source.resolve w.here ++ names := by
    intro inside
    rcases List.prefix_or_prefix_of_prefix inside (List.prefix_append _ names) with around | inside
    · exact notAround around
    · exact notInside inside
  obtain ⟨asTree, asTree'⟩ := copyTree_of_directory target present
  rw [asTree] at done
  rw [asTree']
  have made : w.outcome (ensureDirectory (target.below [])) = .ok () := by
    obtain ⟨_, made, -⟩ := outcome_bind_eq_ok.1 done
    exact made
  obtain ⟨same, same'⟩ := copyInto_ensured source 959 ((Path.below_nil target).symm ▸ proper) made
  rw [Path.below_nil] at made same same'
  have furnished := furnished_ensureDirectory proper w
  have isHere := furnished.here
  have directory := hasDirectory_of_ensured proper made
  have soundMade := furnished.sound sound
  have forTarget : FurnishedFor [target] w (w.after (ensureDirectory target)) :=
    furnishedFor_ensureDirectory List.mem_cons_self w
  have grafts :
    Grafts (w.after (ensureDirectory target)).tree (source.resolve w.here) (target.resolve w.here) ([] <+: ·)
      (· = waysBelow (w.after (ensureDirectory target)).tree (source.resolve w.here) [])
        (w.after (ensureDirectory target))
      (copyInto source target walkLimit []) := by
    refine grafts_copyInto elsewhere proper soundMade.tree soundMade isHere (by simp) ?_ (.inl ?_) (fun _ => rfl) ?_
    · rw [Path.below_nil]
      exact present.mono furnished.grows.directories
    · rw [Path.below_nil, isHere]
      exact directory
    · intro names content changed file
      exact clear names content changed ((forTarget.file_iff _ _ _).1 file)
  rw [show walkLimit = 959 + 1 from rfl, same] at done
  rw [show walkLimit = 959 + 1 from rfl, same']
  exact copied_of_grafts soundMade forTarget present grafts done

/-- Copying a tree is faithful, and where there is no source it does nothing. -/
theorem copyAssets_faithful (sound : w.Sound) (proper : target.Proper) :
    (∀ result, w.tree.HasDirectory w.here source → ¬source.resolve w.here <+: target.resolve w.here →
      ¬target.resolve w.here <+: source.resolve w.here →
      (∀ names content changed, w.tree.find? (source.resolve w.here ++ names) = some (.file content changed) →
        (w.after (ensureDirectory target)).tree.find? (target.resolve w.here ++ names) ≠ some .directory) →
      w.outcome (copyAssets source target) = .ok result →
      Copied w (w.after (copyAssets source target)) source target result) ∧
    (¬w.tree.HasDirectory w.here source → w.tree.locate w.here source ≠ .error (.system .nameTooLong) →
      w.outcome (copyAssets source target) = .ok .empty ∧ w.SameFiles (w.after (copyAssets source target))) := by
  constructor
  · intro result present notInside notAround clear done
    obtain ⟨ways, copied, same⟩ := outcome_bind_eq_ok.1 done
    cases same
    unfold copyAssets
    rw [after_bind_of_ok copied]
    exact copied_copyTree sound proper present notInside notAround clear copied
  · intro absent short
    obtain ⟨nothing, kept⟩ := copyTree_of_absent target absent short
    unfold copyAssets
    rw [outcome_bind_of_ok nothing, after_bind_of_ok nothing]
    exact ⟨rfl, kept⟩

def logos : Workspace :=
  .holding [("assets", none), ("assets/css", none), ("assets/css/site.css", some "p"), ("assets/fonts", none),
    ("assets/logo.svg", some "new"), ("public", none), ("public/index.html", some "A"), ("public/logo.svg", some "old")]

theorem copyAssets_faithful_logos :
    Copied logos (logos.after (copyAssets (.ofText "assets".toList) (.ofText "public".toList)))
    (.ofText "assets".toList)
        (.ofText "public".toList) ⟨2, ["css/site.css".toList, "logo.svg".toList]⟩ ∧
      logos.outcome (copyAssets (.ofText "fonts".toList) (.ofText "public".toList)) = .ok .empty ∧
      logos.SameFiles (logos.after (copyAssets (.ofText "fonts".toList) (.ofText "public".toList))) := by
  have sound : logos.Sound := by decide +kernel
  have proper : (Path.ofText "public".toList).Proper := Path.proper_ofText _
  have files : ∀ f ∈ logos.tree.filesBelow ["assets".toList],
      (logos.after (ensureDirectory (.ofText "public".toList))).tree.find?
        (["public".toList] ++ f.1) ≠ some .directory := by
    decide +kernel
  have copied : (logos.outcome (copyAssets (.ofText "assets".toList) (.ofText "public".toList))).toOption =
      some ⟨2, ["css/site.css".toList, "logo.svg".toList]⟩ := by decide +kernel
  constructor
  · apply (copyAssets_faithful sound proper).1 _ (by decide +kernel) (by decide) (by decide)
    · intro names content changed file
      refine files (names, content, changed) ((mem_filesBelow sound.tree).2 ⟨?_, file⟩)
      rintro rfl
      have directory : logos.tree.find? (["assets".toList] ++ []) = some .directory := by decide +kernel
      cases directory.symm.trans file
    · generalize logos.outcome (copyAssets (.ofText "assets".toList) (.ofText "public".toList)) = done at copied ⊢
      cases done with
      | error e => cases copied
      | ok result => exact congrArg Except.ok (Option.some.inj copied)
  · exact (copyAssets_faithful sound proper).2 (by decide +kernel) (by decide +kernel)

/-- Making a target that winds leaves a directory where a file is to be copied, and the file is put into it. A source
with a name that is too long is refused and not taken for missing. -/
theorem not_copied_of_winding :
    let w := Workspace.holding [("assets", none), ("assets/a.txt", some "A")]
    let winding := Path.ofText "out/a.txt/..".toList
    let long := Path.ofText (List.replicate 300 'x')
    (w.tree.find? (winding.resolve w.here ++ ["a.txt".toList]) = none ∧
      (w.outcome (copyAssets (.ofText "assets".toList) winding)).toOption = some ⟨1, ["a.txt".toList]⟩ ∧
      (w.after (copyAssets (.ofText "assets".toList) winding)).tree.find? (winding.resolve w.here ++ ["a.txt".toList]) =
        some .directory) ∧
    ¬w.tree.HasDirectory w.here long ∧ (w.outcome (copyAssets long winding)).toOption = none := by
  decide +kernel

end Files
end PageComposer
