import PageComposer.Proofs.Site.Publish

/-!
# Copied files

A tree is copied file by file, and what changes on the way are the contents of the places where its files land. Each
place belongs to one file (`Lands.unique`), so that a file which has landed stays as it is while others follow
(`Transfers.bind`), and when the copying is done all files have landed (`transfers_copyTree`).
-/

namespace PageComposer

open FileTree Workspace

namespace Site
variable {origin : FileTree} {src tgt l : Location} {names : List Text} {content content' : List UInt8} {changed : Int}
  {t : Workspace}

/-- A file lands at its own place below the target, or in the directory that is there, under its own name. -/
def LandsAt (tgt : Location) (names : List Text) (l : Location) : Prop :=
  l = tgt ++ names ∨ ∃ last, names.getLast? = some last ∧ l = tgt ++ names ++ [last]

def Lands (origin : FileTree) (src tgt l : Location) (content : List UInt8) : Prop :=
  ∃ names changed, origin.find? (src ++ names) = some (.file content changed) ∧ LandsAt tgt names l

theorem Lands.unique (sound : origin.Sound) (h : Lands origin src tgt l content)
    (h' : Lands origin src tgt l content') :
    content' = content := by
  obtain ⟨names, changed, file, place⟩ := h
  obtain ⟨names', changed', file', place'⟩ := h'
  have same : names = names' := by
    rcases place with rfl | ⟨last, isLast, rfl⟩ <;> rcases place' with place' | ⟨last', isLast', place'⟩
    · exact List.append_cancel_left place'
    · rw [List.append_assoc] at place'
      rw [List.append_cancel_left place', ← List.append_assoc] at file
      rw [sound.closed _ _ _ file] at file'
      cases file'
    · rw [List.append_assoc] at place'
      rw [← List.append_cancel_left place', ← List.append_assoc] at file'
      rw [sound.closed _ _ _ file'] at file
      cases file
    · rw [List.append_assoc, List.append_assoc] at place'
      exact (List.append_inj' (List.append_cancel_left place') rfl).1
  subst same
  rw [file] at file'
  cases file'
  rfl

/-- An action that copies files: what it changes are places where files land, and if it is done, the files that it
covers have landed. -/
structure Transfers {α : Type} (origin : FileTree) (src tgt : Location) (covered : List Text → Prop) (t : Workspace)
    (x : Action α) : Prop where
  published : Published tgt t (t.after x)
  contents : ∀ l, (t.after x).tree.content? l = t.tree.content? l ∨
    ∃ content, Lands origin src tgt l content ∧ (t.after x).tree.content? l = some content
  landed : ∀ a, t.outcome x = .ok a → ∀ names content changed, covered names →
    origin.find? (src ++ names) = some (.file content changed) →
    ∃ l, LandsAt tgt names l ∧ (t.after x).tree.content? l = some content

namespace Transfers
variable {α β : Type} {x : Action α} {f : α → Action β} {covered covered' : List Text → Prop}

theorem of_reads (reads : Reads x) : Transfers origin src tgt (fun _ => False) t x where
  published := .of_sameFiles (reads.keeps t)
  contents l := .inl (by rw [(reads.keeps t).tree])
  landed := fun _ _ _ _ _ none => none.elim

theorem covering (h : Transfers origin src tgt covered t x) (covers : ∀ names content changed, covered' names →
    origin.find? (src ++ names) = some (.file content changed) → covered names) :
      Transfers origin src tgt covered' t x :=
  ⟨h.published, h.contents, fun a done names content changed isCovered file =>
    h.landed a done names content changed (covers names content changed isCovered file) file⟩

theorem bind (sound : origin.Sound) (first : Transfers origin src tgt covered t x)
    (next : ∀ a, t.outcome x = .ok a → Transfers origin src tgt covered' (t.after x) (f a)) :
    Transfers origin src tgt (fun names => covered names ∨ covered' names) t (x >>= f) := by
  refine ⟨related_bind first.published fun a done => (next a done).published, fun l => ?_,
    fun b done names content changed isCovered file => ?_⟩
  · rw [after_bind]
    cases done : t.outcome x with
    | error e => exact first.contents l
    | ok a =>
        rcases (next a done).contents l with same | landed
        · rw [same]
          exact first.contents l
        · exact .inr landed
  · obtain ⟨a, done, doneNext⟩ := outcome_bind_eq_ok.1 done
    rw [after_bind_of_ok done]
    rcases isCovered with isCovered | isCovered
    · obtain ⟨l, place, there⟩ := first.landed a done names content changed isCovered file
      refine ⟨l, place, ?_⟩
      rcases (next a done).contents l with same | ⟨content', lands, there'⟩
      · rw [same, there]
      · rw [there', lands.unique sound ⟨names, changed, file, place⟩]
    · exact (next a done).landed b doneNext names content changed isCovered file

theorem after_reads (sound : origin.Sound) (reads : Reads x)
    (next : ∀ a, t.outcome x = .ok a → Transfers origin src tgt covered (t.after x) (f a)) :
    Transfers origin src tgt covered t (x >>= f) :=
  ((of_reads reads).bind sound next).covering fun _ _ _ isCovered _ => .inr isCovered

theorem then_reads (sound : origin.Sound) (first : Transfers origin src tgt covered t x) (reads : ∀ a, Reads (f a)) :
    Transfers origin src tgt covered t (x >>= f) :=
  (first.bind sound fun a _ => of_reads (reads a)).covering fun _ _ _ isCovered _ => .inl isCovered

end Transfers

section Copying
variable {source target : Path} {here : Location} {part : Text}

structure Underway (origin : FileTree) (source target : Path) (here : Location) (names : List Text) (w : Workspace) :
    Prop where
  copying : Copying source target here names w
  unchanged : ∀ rest, w.tree.find? (source.resolve here ++ rest) = origin.find? (source.resolve here ++ rest)

variable (sound : origin.Sound) (elsewhere : ∀ names, ¬target.resolve here <+: source.resolve here ++ names)
  (proper : target.Proper)

include elsewhere in
theorem Underway.published {w w' : Workspace} (underway : Underway origin source target here names w)
    (published : Published (target.resolve here) w w') : Underway origin source target here names w' :=
  ⟨underway.copying.published published, fun rest => by rw [published.apart _ (elsewhere rest), underway.unchanged]⟩

include elsewhere proper in
theorem transfers_copy (underway : Underway origin source target here names t) (named : IsName part) :
    Transfers origin (source.resolve here) (target.resolve here) (fun rest => rest = names ++ [part]) t
      (Files.copy ((source.below names).child part) (target.below (names ++ [part]))) := by
  have sourceLies := underway.copying.entryLies named
  have targetLies := underway.copying.copyLies named
  have named' : IsName ((source.below names).child part).name := by rwa [Path.name_child]
  have published := (Stores.replays (stores_copy (proper.below (underway.copying.namedWith named)) named'
    (sourceLies ▸ elsewhere _) (targetLies ▸ List.prefix_append _ _))).published
  rcases Files.copy_cases t ((source.below names).child part) (target.below (names ++ [part])) with
    ⟨l, content, changed, copies, done, files⟩ | ⟨-, ⟨e, refused⟩, run⟩
  · obtain ⟨-, file⟩ := stat_eq_ok.1 copies.read
    rw [sourceLies, underway.unchanged] at file
    have rooted : l ≠ [] := by
      rintro rfl
      exact copies.accepts.free (find?_root _)
    have place : LandsAt (target.resolve here) (names ++ [part]) l := by
      rcases copies.lands named' with ⟨-, lies⟩ | ⟨-, lies⟩
      · exact .inl (lies.trans targetLies)
      · exact .inr ⟨part, by simp, by rw [lies, targetLies, Path.name_child]⟩
    have there (m : Location) : (t.after (Files.copy ((source.below names).child part)
        (target.below (names ++ [part])))).tree.content? m = if m = l then some content else t.tree.content? m := by
      rw [← files.tree, tree_put, content?_put rooted]
      rfl
    refine ⟨published, fun m => ?_, fun u _ rest content' changed' isHere file' => ⟨l, isHere ▸ place, ?_⟩⟩
    · rw [there]
      split
      · rename_i same
        exact .inr ⟨content, ⟨_, changed, file, same ▸ place⟩, rfl⟩
      · exact .inl rfl
    · rw [isHere, file] at file'
      cases file'
      rw [there, if_pos rfl]
  · refine ⟨published, fun m => .inl (by rw [run]), fun u done => ?_⟩
    rw [refused] at done
    cases done

include sound elsewhere proper in
theorem transfers_copyEntry {deeper : List Text → Action (List (List Text))}
    (underway : Underway origin source target here names t) (named : IsName part)
    (deeperTransfers : ∀ t', Underway origin source target here names t' →
      t'.tree.HasDirectory here (source.below (names ++ [part])) →
      Transfers origin (source.resolve here) (target.resolve here) (names ++ [part] <+: ·) t'
        (deeper (names ++ [part]))) :
    Transfers origin (source.resolve here) (target.resolve here) (names ++ [part] <+: ·) t
      (Files.copyInto.copyEntry target deeper (names ++ [part]) ((source.below names).child part)) := by
  refine .after_reads sound (.isDirectory _) fun isDirectory asked => ?_
  have files := (Reads.isDirectory ((source.below names).child part)).keeps t
  have underway' := underway.published elsewhere (.of_sameFiles files)
  cases isDirectory with
  | true =>
      have present := Files.isDirectory_iff.1 asked
      rw [underway.copying.isHere, Path.below_child] at present
      exact deeperTransfers _ underway' (files.tree ▸ present)
  | false =>
      have present := underway.copying.source
      rw [← underway.copying.isHere] at present
      have file : origin.find? (source.resolve here ++ (names ++ [part])) ≠ some .directory := by
        intro directory
        rw [← underway.unchanged, ← List.append_assoc, ← underway.copying.sourceLies] at directory
        exact Bool.false_ne_true ((Files.isDirectory_child present named asked).2.2 directory)
      apply ((transfers_copy elsewhere proper underway' named).then_reads sound fun _ => .pure _).covering
      rintro rest content changed ⟨more, rfl⟩ found
      by_cases last : more = []
      · rw [last, List.append_nil]
      · rw [← List.append_assoc] at found
        exact absurd (sound.directory_of_below last found) file

include sound elsewhere proper in
theorem transfers_copyEntries {deeper : List Text → Action (List (List Text))} {parts : List Text}
    (underway : Underway origin source target here names t) (named : ∀ part ∈ parts, IsName part)
    (deeperTransfers : ∀ t', ∀ part ∈ parts, Underway origin source target here names t' →
      t'.tree.HasDirectory here (source.below (names ++ [part])) →
      Transfers origin (source.resolve here) (target.resolve here) (names ++ [part] <+: ·) t'
        (deeper (names ++ [part]))) :
    Transfers origin (source.resolve here) (target.resolve here)
    (fun rest => ∃ part ∈ parts, names ++ [part] <+: rest) t
      (Files.copyInto.copyEntries target deeper names (parts.map (source.below names).child)) := by
  induction parts generalizing t with
  | nil =>
      apply (Transfers.of_reads (.pure _)).covering
      rintro rest content changed ⟨part, member, -⟩
      cases member
  | cons part parts ih =>
      obtain ⟨namedFirst, namedLater⟩ := List.forall_mem_cons.1 named
      have first := transfers_copyEntry sound elsewhere proper underway namedFirst fun t' underway' =>
        deeperTransfers t' part List.mem_cons_self underway'
      have later := ih (underway.published elsewhere first.published) namedLater fun t' part member =>
        deeperTransfers t' part (List.mem_cons_of_mem _ member)
      rw [List.map_cons, Files.copyInto.copyEntries, Path.name_child]
      apply (first.bind sound fun _ _ => later.then_reads sound fun _ => .pure _).covering
      rintro rest content changed ⟨part', member, below⟩ -
      rcases List.mem_cons.1 member with rfl | member
      · exact .inl below
      · exact .inr ⟨part', member, below⟩

include sound in
theorem mem_names_iff {rest : List Text} (there : (origin.find? (src ++ rest)).isSome) :
    (∃ part ∈ origin.names (src ++ names), names ++ [part] <+: rest) ↔ names <+: rest ∧ rest ≠ names := by
  constructor
  · rintro ⟨part, -, more, rfl⟩
    rw [List.append_assoc]
    exact ⟨List.prefix_append _ _, by simp⟩
  · rintro ⟨⟨more, rfl⟩, other⟩
    obtain ⟨part, more, rfl⟩ := List.exists_cons_of_ne_nil (l := more) (by simpa using other)
    have split : src ++ (names ++ part :: more) = src ++ names ++ [part] ++ more := by simp
    rw [split] at there
    refine ⟨part, (mem_names sound).2 ?_, ⟨more, by simp⟩⟩
    by_cases last : more = []
    · simpa [last] using there
    · obtain ⟨e, found⟩ := Option.isSome_iff_exists.1 there
      rw [sound.directory_of_below last found]
      rfl

include sound in
theorem Underway.names_eq (underway : Underway origin source target here names t) :
    t.tree.names ((source.below names).resolve t.here) = origin.names (source.resolve here ++ names) := by
  rw [underway.copying.sourceLies]
  exact names_congr underway.copying.sound.tree sound fun part => by rw [List.append_assoc, underway.unchanged]

include sound elsewhere proper in
theorem transfers_copyInto {room : Nat} (soundNow : t.Sound) (isHere : t.here = here)
    (named : ∀ part ∈ names, IsName part)
    (present : t.tree.HasDirectory here (source.below names)) (ready : Ready t (target.below names))
    (unchanged : ∀ rest, t.tree.find? (source.resolve here ++ rest) = origin.find? (source.resolve here ++ rest)) :
    Transfers origin (source.resolve here) (target.resolve here) (fun rest => names <+: rest ∧ rest ≠ names) t
      (Files.copyInto source target room names) := by
  induction room generalizing t names with
  | zero => exact ⟨refl_of _ t, fun _ => .inl rfl, fun _ done => nomatch done⟩
  | succ room ih =>
      have properHere := proper.below named
      have inside : target.resolve here <+: (target.below names).resolve t.here :=
        isHere ▸ inside_below (List.prefix_refl _) named
      have made : Transfers origin (source.resolve here) (target.resolve here) (fun _ => False) t
          (Files.ensureDirectory (target.below names)) :=
        ⟨published_ensureDirectory ready properHere inside,
          fun l => .inl ((Files.furnished_ensureDirectory properHere t).content l), fun _ _ _ _ _ none => none.elim⟩
      refine (made.bind sound fun _ done => ?_).covering fun _ _ _ isCovered _ => .inr isCovered
      have underway : Underway origin source target here names (t.after (Files.ensureDirectory (target.below names))) :=
        ⟨.of_made proper soundNow isHere named present made.published done, fun rest => by
          rw [made.published.apart _ (elsewhere rest), unchanged]⟩
      refine .after_reads sound (Loading.reads_list _) fun entries listed => ?_
      obtain rfl : entries = (origin.names (source.resolve here ++ names)).map (source.below names).child :=
        (Files.list_iff.1 listed).2.trans (congrArg (List.map (source.below names).child) (underway.names_eq sound))
      have underway' := underway.published elsewhere (.of_sameFiles ((Loading.reads_list (source.below names)).keeps _))
      apply (transfers_copyEntries sound elsewhere proper underway' (fun part => isName_of_mem_names sound) ?_).covering
      · exact fun rest content changed below file => (mem_names_iff sound (by rw [file]; rfl)).2 below
      · intro t' part member underway'' deeper
        have namedDeeper := underway''.copying.namedWith (isName_of_mem_names sound member)
        refine (ih underway''.copying.sound underway''.copying.isHere namedDeeper deeper (underway''.copying.ready part)
          underway''.unchanged).covering fun rest content changed below file => ⟨below, ?_⟩
        rintro rfl
        have directory := deeper.found
        rw [Path.resolve_below fun q isPart => (namedDeeper q isPart).notUp, underway''.unchanged, file] at directory
        cases directory

end Copying

theorem transfers_copyTree {assets output : Path} (sound : t.Sound) (proper : output.Proper)
    (elsewhere : ∀ names, ¬output.resolve t.here <+: assets.resolve t.here ++ names)
    (source : t.tree.HasDirectory t.here assets) (target : t.tree.HasDirectory t.here output) :
    Transfers t.tree (assets.resolve t.here) (output.resolve t.here) (· ≠ []) t (Files.copyTree assets output) := by
  refine .after_reads sound.tree (.isDirectory assets) fun isDirectory asked => ?_
  rw [Files.isDirectory_iff.2 source, Except.ok.injEq] at asked
  subst asked
  rw [if_pos rfl]
  have files := (Reads.isDirectory assets).keeps t
  refine (transfers_copyInto sound.tree elsewhere proper (sound.of_sameFiles files) files.here (by simp) ?_ (.inl ?_)
    ?_).covering fun rest _ _ nonempty _ => ⟨List.nil_prefix, nonempty⟩
  · rw [Path.below_nil, files.tree]
    exact source
  · rw [Path.below_nil, files.tree, files.here]
    exact target
  · intro rest
    rw [files.tree]

theorem transfers_copyAssets {assets output : Path} (sound : t.Sound) (proper : output.Proper)
    (elsewhere : ∀ names, ¬output.resolve t.here <+: assets.resolve t.here ++ names)
    (target : t.tree.HasDirectory t.here output) :
    Transfers t.tree (assets.resolve t.here) (output.resolve t.here)
      (fun names => names ≠ [] ∧ t.tree.HasDirectory t.here assets) t (copyAssets assets output) := by
  by_cases source : t.tree.HasDirectory t.here assets
  · have copies : Transfers t.tree (assets.resolve t.here) (output.resolve t.here) (· ≠ []) t
        (copyAssets assets output) := by
      refine .after_reads sound.tree (.isDirectory assets) fun isDirectory asked => ?_
      rw [Files.isDirectory_iff.2 source, Except.ok.injEq] at asked
      subst asked
      rw [if_pos rfl]
      refine .after_reads sound.tree (Fileless.record _).reads fun _ _ => ?_
      have files :
          t.SameFiles ((t.after (Action.isDirectory assets)).after (Action.log .info "Copying assets...".toList)) :=
        trans_of _ ((Reads.isDirectory assets).keeps t) ((Fileless.record _).keeps _)
      refine .then_reads sound.tree ?_ fun copied => ?_
      · rw [← files.tree, ← files.here]
        apply transfers_copyTree (sound.of_sameFiles files) proper
        all_goals rw [files.here]
        · exact elsewhere
        · rwa [files.tree]
        · rwa [files.tree]
      · dsimp only
        split
        · exact .bind (Fileless.record _).reads fun _ => .pure _
        · exact .pure _
    exact copies.covering fun _ _ _ isCovered _ => isCovered.1
  · have idle := (copyAssets_of_absent output source).2
    exact ⟨.of_sameFiles idle, fun l => .inl (by rw [idle.tree]), fun _ _ _ _ _ isCovered => absurd isCovered.2 source⟩

end Site
end PageComposer
