import PageComposer.Proofs.Site.Replay

/-!
# Publishing

Publishing makes directories, looks at the assets and writes files, and all of this replays, so that publishing settles
(`settles_publish`): done again, it leaves all contents as they are.
-/

namespace PageComposer

open FileTree Workspace

namespace Site

variable {out : Location} {t : Workspace}

def Ready (w : Workspace) (p : Path) : Prop :=
  w.tree.HasDirectory w.here p ∨ ∃ q part, p = q.child part ∧ w.tree.HasDirectory w.here q

theorem find?_ensureDirectory {p : Path} {l : Location} (ready : Ready t p) (other : l ≠ p.resolve t.here) :
    (t.after (Files.ensureDirectory p)).tree.find? l = t.tree.find? l := by
  rcases ready with present | ⟨q, part, rfl, above⟩
  · rw [(Files.ensureDirectory_of_hasDirectory present).2]
  · rw [Files.ensureDirectory, after_storage]
    rcases Storage.ensureDirectory_child above part with run | ⟨m, located, free, run⟩
    · rw [run]
    · rw [run, tree_put]
      by_cases top : l = []
      · subst top
        simp
      · rw [find?_put _ _ _ _ top, if_neg (resolve_of_locate located ▸ other)]

theorem published_ensureDirectory {p : Path} (ready : Ready t p) (proper : p.Proper)
    (inside : out <+: p.resolve t.here) :
    Published out t (t.after (Files.ensureDirectory p)) := by
  have furnished := Files.furnished_ensureDirectory proper t
  refine ⟨furnished.here, furnished.grows, fun l apart => find?_ensureDirectory ready ?_, furnished.sound⟩
  rintro rfl
  exact apart inside

theorem replays_ensureDirectory {p : Path} (ready : Ready t p) (proper : p.Proper) (inside : out <+: p.resolve t.here) :
    Replays out t (Files.ensureDirectory p) := by
  have published := published_ensureDirectory ready proper inside
  have furnished := Files.furnished_ensureDirectory proper t
  refine ⟨published, fun u done final s beside grows => ?_, fun e refused s beside => ?_⟩
  · have made := (Files.hasDirectory_of_ensured proper done).mono grows.directories
    have present := (hasDirectory_congr beside.kinds).2 made
    rw [← beside.here] at present
    obtain ⟨done', run⟩ := Files.ensureDirectory_of_hasDirectory present
    rw [run]
    refine ⟨done', beside.here.trans furnished.here.symm, furnished.sound beside.sound, beside.sound', beside.kinds,
      fun l apart => ?_, fun l => ?_⟩
    · rw [published.apart l apart, beside.apart l apart]
    · rw [furnished.content]
      exact beside.content l
  · have furnished' := Files.furnished_ensureDirectory proper s
    constructor
    · cases done' : s.outcome (Files.ensureDirectory p) with
      | error e' => exact ⟨e', rfl⟩
      | ok u =>
          have made := Files.hasDirectory_of_ensured proper done'
          rw [beside.here] at made
          have grows : (t.after (Files.ensureDirectory p)).tree.Grows (s.after (Files.ensureDirectory p)).tree :=
            (Grows.of_kinds fun l => (beside.kinds l).symm).trans furnished'.grows
          exact absurd made (Files.not_hasDirectory_of_refused proper refused grows)
    · intro l
      rw [furnished'.content]
      rcases beside.content l with content | content
      · exact content
      · rw [content, furnished.content]

theorem replays_list {p : Path} (present : t.tree.HasDirectory t.here p)
    (elsewhere : ∀ part, ¬out <+: p.resolve t.here ++ [part]) : Replays out t (Files.list p) := by
  refine .of_reads (Loading.reads_list p) fun final s beside grows => ?_
  have present' : s.tree.HasDirectory s.here p := by
    rw [beside.here]
    exact present.mono (beside.grows grows).directories
  have same : s.tree.names (p.resolve s.here) = t.tree.names (p.resolve t.here) := by
    rw [beside.here]
    exact names_congr beside.sound'.tree beside.sound.tree fun part => by rw [beside.apart _ (elsewhere part)]
  rw [Files.list_iff.2 ⟨present, rfl⟩, Files.list_iff.2 ⟨present', rfl⟩, same]

theorem replays_isDirectory {p : Path} {part : Text} (present : t.tree.HasDirectory t.here p) (named : IsName part)
    (elsewhere : ¬out <+: p.resolve t.here ++ [part]) : Replays out t (Action.isDirectory (p.child part)) := by
  refine .of_reads (.isDirectory _) fun final s beside grows => ?_
  have present' := present.mono (beside.grows grows).directories
  have located := locate_child_congr present' present part
  have asked : s.tree.probe s.here (p.child part) = t.tree.probe t.here (p.child part) := by
    rw [beside.here]
    unfold probe stat
    rw [located]
    cases found : t.tree.locate t.here (p.child part) with
    | error e => rfl
    | ok l =>
        have lies := locate_child named.notUp found
        simp only [bind, Except.bind]
        rw [lies, beside.apart _ elsewhere]
  rw [Action.isDirectory, outcome_storage, outcome_storage, Storage.outcome_isDirectory,
    Storage.outcome_isDirectory, asked]

section Copying
variable {source target : Path} {here : Location} {names : List Text} {part : Text}

structure Copying (source target : Path) (here : Location) (names : List Text) (w : Workspace) : Prop where
  sound : w.Sound
  isHere : w.here = here
  named : ∀ part ∈ names, IsName part
  source : w.tree.HasDirectory here (source.below names)
  target : w.tree.HasDirectory here (target.below names)

theorem Copying.published {w' : Workspace} (copying : Copying source target here names w)
    (published : Published out w w') :
    Copying source target here names w' :=
  ⟨published.sound copying.sound, published.here.trans copying.isHere, copying.named,
    copying.source.mono published.grows.directories, copying.target.mono published.grows.directories⟩

theorem Copying.of_made {u : Unit} (proper : target.Proper) (sound : t.Sound) (isHere : t.here = here)
    (named : ∀ part ∈ names, IsName part) (present : t.tree.HasDirectory here (source.below names))
    (published : Published out t (t.after (Files.ensureDirectory (target.below names))))
    (made : t.outcome (Files.ensureDirectory (target.below names)) = .ok u) :
    Copying source target here names (t.after (Files.ensureDirectory (target.below names))) :=
  ⟨published.sound sound, published.here.trans isHere, named, present.mono published.grows.directories,
    isHere ▸ Files.hasDirectory_of_ensured (proper.below named) made⟩

theorem Copying.sourceLies (copying : Copying source target here names w) :
    (source.below names).resolve w.here = source.resolve here ++ names := by
  rw [copying.isHere, Path.resolve_below fun part member => (copying.named part member).notUp]

theorem Copying.namedWith (copying : Copying source target here names w) (named : IsName part) :
    ∀ q ∈ names ++ [part], IsName q :=
  List.forall_mem_append.2 ⟨copying.named, List.forall_mem_singleton.2 named⟩

theorem Copying.entryLies (copying : Copying source target here names w) (named : IsName part) :
    ((source.below names).child part).resolve w.here = source.resolve here ++ (names ++ [part]) := by
  rw [Path.resolve_child named.notUp, copying.sourceLies, List.append_assoc]

theorem Copying.copyLies (copying : Copying source target here names w) (named : IsName part) :
    (target.below (names ++ [part])).resolve w.here = target.resolve here ++ (names ++ [part]) := by
  rw [copying.isHere, Path.resolve_below fun q member => (copying.namedWith named q member).notUp]

theorem Copying.ready (copying : Copying source target here names w) (part : Text) :
    Ready w (target.below (names ++ [part])) := by
  refine .inr ⟨target.below names, part, by rw [Path.below_child], ?_⟩
  rw [copying.isHere]
  exact copying.target

variable (elsewhere : ∀ names, ¬out <+: source.resolve here ++ names) (inside : out <+: target.resolve here)
  (proper : target.Proper)

include elsewhere in
theorem not_inside (named : ∀ part ∈ names, IsName part) (rest : List Text) :
    ¬out <+: (source.below names).resolve here ++ rest := by
  rw [Path.resolve_below fun part member => (named part member).notUp, List.append_assoc]
  exact elsewhere _

include inside in
theorem inside_below (named : ∀ part ∈ names, IsName part) : out <+: (target.below names).resolve here := by
  rw [Path.resolve_below fun part member => (named part member).notUp]
  exact inside.trans (List.prefix_append _ _)

include elsewhere inside proper in
theorem replays_copyEntry {deeper : List Text → Action (List (List Text))}
    (copying : Copying source target here names t) (named : IsName part)
    (deeperReplays : ∀ t', Copying source target here names t' →
      t'.tree.HasDirectory here (source.below (names ++ [part])) → Replays out t' (deeper (names ++ [part]))) :
    Replays out t (Files.copyInto.copyEntry target deeper (names ++ [part]) ((source.below names).child part)) := by
  have namedAll := copying.namedWith named
  have asks : Replays out t (Action.isDirectory ((source.below names).child part)) :=
    replays_isDirectory (copying.isHere ▸ copying.source) named
      (copying.isHere ▸ not_inside elsewhere copying.named [part])
  refine asks.bind fun isDirectory asked => ?_
  have copying' := copying.published asks.published
  cases isDirectory with
  | true =>
      have present := Files.isDirectory_iff.1 asked
      rw [copying.isHere, Path.below_child] at present
      exact deeperReplays _ copying' (present.mono asks.published.grows.directories)
  | false =>
      refine .bind (Stores.replays (stores_copy (proper.below namedAll) (by rwa [Path.name_child]) ?_ ?_)) fun _ _ =>
        .of_fileless (.pure _)
      · rw [copying'.isHere, Path.below_child]
        simpa using not_inside elsewhere namedAll []
      · rw [copying'.isHere]
        exact inside_below inside namedAll

include elsewhere inside proper in
theorem replays_copyEntries {deeper : List Text → Action (List (List Text))} {parts : List Text}
    (copying : Copying source target here names t) (named : ∀ part ∈ parts, IsName part)
    (deeperReplays : ∀ t', ∀ part ∈ parts, Copying source target here names t' →
      t'.tree.HasDirectory here (source.below (names ++ [part])) → Replays out t' (deeper (names ++ [part]))) :
    Replays out t (Files.copyInto.copyEntries target deeper names (parts.map (source.below names).child)) := by
  induction parts generalizing t with
  | nil => exact .of_fileless (.pure _)
  | cons part parts ih =>
      obtain ⟨namedFirst, namedLater⟩ := List.forall_mem_cons.1 named
      have first := replays_copyEntry elsewhere inside proper copying namedFirst fun t' copying' =>
        deeperReplays t' part List.mem_cons_self copying'
      rw [List.map_cons, Files.copyInto.copyEntries, Path.name_child]
      refine first.bind fun _ _ => .bind ?_ fun _ _ => .of_fileless (.pure _)
      exact ih (copying.published first.published) namedLater fun t' part member =>
        deeperReplays t' part (List.mem_cons_of_mem _ member)

include elsewhere inside proper in
theorem replays_copyInto {room : Nat} (sound : t.Sound) (isHere : t.here = here) (named : ∀ part ∈ names, IsName part)
    (present : t.tree.HasDirectory here (source.below names)) (ready : Ready t (target.below names)) :
    Replays out t (Files.copyInto source target room names) := by
  induction room generalizing t names with
  | zero => exact .of_fileless (.throw _)
  | succ room ih =>
      have made : Replays out t (Files.ensureDirectory (target.below names)) :=
        replays_ensureDirectory ready (proper.below named) (isHere ▸ inside_below inside named)
      refine .bind made fun _ done => ?_
      have copying := Copying.of_made proper sound isHere named present made.published done
      have lists :=
        replays_list (copying.isHere ▸ copying.source) (copying.isHere ▸ fun part => not_inside elsewhere named [part])
      refine .bind lists fun entries listed => ?_
      obtain ⟨-, rfl⟩ := Files.list_iff.1 listed
      have copying' := copying.published lists.published
      have namedHere (part : Text) (member : part ∈ (t.after (Files.ensureDirectory (target.below names))).tree.names
          ((source.below names).resolve (t.after (Files.ensureDirectory (target.below names))).here)) : IsName part :=
        isName_of_mem_names copying.sound.tree member
      refine replays_copyEntries elsewhere inside proper copying' namedHere fun t' part member copying'' deeper => ?_
      exact ih copying''.sound copying''.isHere (copying''.namedWith (namedHere part member)) deeper
        (copying''.ready part)

end Copying

theorem replays_writePages {output : Path} {composed : List (Text × Text)} (proper : output.Proper)
    (inside : out <+: output.resolve t.here) (named : ∀ page ∈ composed, IsName (page.1 ++ Loading.templateSuffix)) :
    Replays out t (writePages output composed) := by
  induction composed generalizing t with
  | nil => exact .of_fileless (.pure _)
  | cons page rest ih =>
      obtain ⟨namedFirst, namedLater⟩ := List.forall_mem_cons.1 named
      have first : Replays out t (writePage output page.1 page.2) := by
        unfold writePage
        rw [Path.append_ofText_name _ namedFirst]
        refine .bind (Stores.replays (stores_writeText page.2 (proper.below (by simpa using namedFirst)) ?_)) fun _ _ =>
          .of_fileless (.bind (.record _) fun _ => .pure _)
        exact inside_below inside (by simpa using namedFirst)
      refine .bind first fun _ _ => .bind (ih ?_ namedLater) fun _ _ => .of_fileless (.pure _)
      rw [first.published.here]
      exact inside

theorem replays_isDirectory_of_present {p : Path} (present : t.tree.HasDirectory t.here p) :
    Replays out t (Action.isDirectory p) := by
  refine .of_reads (.isDirectory p) fun final s beside grows => ?_
  rw [Files.isDirectory_iff.2 present, Files.isDirectory_iff]
  rw [beside.here]
  exact present.mono (beside.grows grows).directories

theorem replays_copyTree {assets output : Path} (sound : t.Sound) (proper : output.Proper)
    (elsewhere : ∀ names, ¬out <+: assets.resolve t.here ++ names) (inside : out <+: output.resolve t.here)
    (source : t.tree.HasDirectory t.here assets) (target : t.tree.HasDirectory t.here output) :
    Replays out t (Files.copyTree assets output) := by
  have asks : Replays out t (Action.isDirectory assets) := replays_isDirectory_of_present source
  refine .bind asks fun isDirectory asked => ?_
  rw [Files.isDirectory_iff.2 source, Except.ok.injEq] at asked
  subst asked
  rw [if_pos rfl]
  have directories := asks.published.grows.directories
  refine replays_copyInto elsewhere inside proper (asks.published.sound sound) asks.published.here
    (by simp) ?_ (.inl ?_)
  · rw [Path.below_nil]
    exact source.mono directories
  · rw [Path.below_nil, asks.published.here]
    exact target.mono directories

theorem copyAssets_of_absent {assets : Path} (output : Path) (absent : ¬t.tree.HasDirectory t.here assets) :
    t.outcome (copyAssets assets output) = (t.outcome (Action.isDirectory assets)).map (fun _ => 0) ∧
      t.SameFiles (t.after (copyAssets assets output)) := by
  unfold copyAssets
  have files := (Reads.isDirectory assets).keeps t
  rw [outcome_bind, after_bind]
  cases asked : t.outcome (Action.isDirectory assets) with
  | error e => exact ⟨rfl, files⟩
  | ok isDirectory =>
      cases isDirectory with
      | true => exact absurd (Files.isDirectory_iff.1 asked) absent
      | false => exact ⟨rfl, files⟩

theorem settles_copyAssets {assets output : Path} (sound : t.Sound) (proper : output.Proper)
    (elsewhere : ∀ names, ¬out <+: assets.resolve t.here ++ names) (inside : out <+: output.resolve t.here)
    (present : t.tree.HasDirectory t.here output) : Settles out t (copyAssets assets output) := by
  by_cases source : t.tree.HasDirectory t.here assets
  · have asks : Replays out t (Action.isDirectory assets) := replays_isDirectory_of_present source
    refine (Replays.bind asks fun isDirectory asked => ?_).settles
    rw [Files.isDirectory_iff.2 source, Except.ok.injEq] at asked
    subst asked
    rw [if_pos rfl]
    have logs : Replays out (t.after (Action.isDirectory assets)) (Action.log .info "Copying assets...".toList) :=
      .of_fileless (.record _)
    have published := trans_of (Published out) asks.published logs.published
    have directories := published.grows.directories
    refine .bind logs fun _ _ => .bind ?_ fun copied _ => .of_fileless ?_
    · refine replays_copyTree (published.sound sound) proper ?_ ?_ ?_ ?_
      all_goals rw [published.here]
      · exact elsewhere
      · exact inside
      · exact source.mono directories
      · exact present.mono directories
    · dsimp only
      split
      · exact .bind (.record _) fun _ => .pure _
      · exact .pure _
  · -- where there are no assets now, there are none in the end
    obtain ⟨same, idle⟩ := copyAssets_of_absent output source
    have again (s : Workspace) (beside : Beside out t.tree t s) :
        s.outcome (copyAssets assets output) = t.outcome (copyAssets assets output) ∧
          s.SameFiles (s.after (copyAssets assets output)) := by
      have source' : ¬s.tree.HasDirectory s.here assets := by
        rw [beside.here]
        exact fun h => source ((hasDirectory_congr beside.kinds).1 h)
      rw [same, ← Files.isDirectory_congr beside.here beside.kinds]
      exact copyAssets_of_absent output source'
    refine ⟨.of_sameFiles idle, fun a done s beside => ?_, fun e _ s beside l => ?_⟩
    · rw [idle.tree] at beside ⊢
      obtain ⟨same', idle'⟩ := again s beside
      exact ⟨same'.trans done, beside.of_sameFiles idle idle'⟩
    · rw [idle.tree] at beside ⊢
      rw [(again s beside).2.tree]
      exact beside.contents l

theorem Settles.bind_fileless {α β : Type} {x : Action α} {f : α → Action β} (first : Settles out t x)
    (next : ∀ a, Fileless (f a)) : Settles out t (x >>= f) := by
  have files (w : Workspace) : (w.after x).SameFiles (w.after (x >>= f)) := by
    rw [after_bind]
    cases w.outcome x with
    | error e => exact refl_of _ _
    | ok a => exact (next a).keeps _
  refine ⟨trans_of _ first.published (.of_sameFiles (files t)), fun b done s beside => ?_, fun e _ s beside l => ?_⟩
  all_goals rw [(files t).tree] at beside ⊢
  · obtain ⟨a, done, doneNext⟩ := outcome_bind_eq_ok.1 done
    obtain ⟨done', beside'⟩ := first.ok a done s beside
    rw [outcome_bind_of_ok done', (next a).same (t.after x)]
    exact ⟨doneNext, beside'.of_sameFiles (files t) (files s)⟩
  · rw [(files s).tree]
    exact first.contents beside l

theorem settles_publish {assets output : Path} {composed : List (Text × Text)} (sound : t.Sound)
    (proper : output.Proper)
    (elsewhere : ∀ names, ¬out <+: assets.resolve t.here ++ names) (inside : out <+: output.resolve t.here)
    (present : t.tree.HasDirectory t.here output)
    (named : ∀ page ∈ composed, IsName (page.1 ++ Loading.templateSuffix)) :
    Settles out t (publish assets output composed) := by
  have writes := replays_writePages proper inside named
  have here := writes.published.here
  refine writes.bind_settles fun written _ => .bind_fileless ?_ fun _ => .pure _
  refine settles_copyAssets (writes.published.sound sound) proper ?_ ?_ ?_
  all_goals rw [here]
  · exact elsewhere
  · exact inside
  · exact present.mono writes.published.grows.directories

end Site
end PageComposer
