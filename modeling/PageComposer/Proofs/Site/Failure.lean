import PageComposer.Proofs.Site.Plan

/-!
# Builds that fail

A build that fails before it publishes has made directories on the ways to its sources and its output, and has done
nothing else (`furnishedFor_plan`). What is wrong with the sources is found before that, since publishing has other
faults (`noSourceFailure_publish`).
-/

namespace PageComposer

open FileTree Workspace

/-- A failure of what is named, read, listed or composed. -/
def Failure.ofSources : Failure → Bool
  | .fault (.invalidName _) | .fault (.file .read ..) | .fault (.file .list ..) => true
  | .fault (.unresolved ..) | .fault (.aborted ..) | .fault (.circular ..) | .fault (.tooDeep ..) => true
  | _ => false

def Path.AtOrAbove (q p : Path) : Prop := q.anchor = p.anchor ∧ q.parts <+: p.parts

namespace Workspace
variable {w w' : Workspace} {paths : List Path}

/-- Nothing is new but directories on the ways to the paths. -/
structure FurnishedFor (paths : List Path) (w w' : Workspace) : Prop where
  here : w'.here = w.here
  found : ∀ l, w'.tree.find? l = w.tree.find? l ∨
    w.tree.find? l = none ∧ w'.tree.find? l = some .directory ∧
      ∃ p ∈ paths, ∃ q, Path.AtOrAbove q p ∧ q.resolve w.here = l

namespace FurnishedFor

theorem of_sameFiles (files : w.SameFiles w') : FurnishedFor paths w w' :=
  ⟨files.here, fun _ => .inl (by rw [files.tree])⟩

instance : IsPreorder Workspace (FurnishedFor paths) where
  refl _ := .of_sameFiles (refl_of _ _)
  trans := by
    intro a b c h h'
    refine ⟨h'.here.trans h.here, fun l => ?_⟩
    rcases h.found l with same | ⟨free, made, onTheWay⟩
    · rw [← same, ← h.here]
      exact h'.found l
    · right
      rcases h'.found l with same | ⟨free', -, -⟩
      · exact ⟨free, same.trans made, onTheWay⟩
      · rw [made] at free'
        cases free'

theorem file_iff (h : FurnishedFor paths w w') (l : Location) (content : List UInt8) (changed : Int) :
    w'.tree.find? l = some (.file content changed) ↔ w.tree.find? l = some (.file content changed) :=
  file_iff_of_found ((h.found l).imp_right fun ⟨free, made, _⟩ => ⟨free, made⟩)

theorem kept (h : FurnishedFor paths w w') {l : Location} {e : Entry} (there : w.tree.find? l = some e) :
    w'.tree.find? l = some e := by
  rcases h.found l with same | ⟨free, -, -⟩
  · exact same.trans there
  · rw [free] at there
    cases there

theorem directories (h : FurnishedFor paths w w') : w.tree.DirectoriesIn w'.tree := fun _ => h.kept

end FurnishedFor
end Workspace

theorem Keeps.furnishedFor {ε α : Type} {x : EStateM ε Workspace α} {paths : List Path} (h : Keeps SameFiles x) :
    Keeps (FurnishedFor paths) x :=
  fun w => .of_sameFiles (h w)

theorem Files.furnishedFor_ensureDirectory {paths : List Path} {p : Path} (member : p ∈ paths) :
    Keeps (FurnishedFor paths) (ensureDirectory p) := by
  refine .storage (Storage.keeps_makeDirectories fun parts start => ?_)
  rw [List.reverse_reverse] at start
  refine Storage.keeps_makeDirectory fun w l located free => ⟨rfl, fun m => ?_⟩
  refine (Storage.found_put_directory free m).imp_right fun ⟨same, isFree, isMade⟩ => ⟨isFree, isMade, p, member, ?_⟩
  exact ⟨⟨p.anchor, parts⟩, ⟨rfl, start⟩, by rw [same, resolve_of_locate located]⟩

namespace Site
variable {w : Workspace} {settings : Settings} {root source target output assets : Path}

theorem furnishedFor_ensureSources {components pages : Path} {paths : List Path} (componentsIn : components ∈ paths)
    (pagesIn : pages ∈ paths) : Keeps (FurnishedFor paths) (ensureSources components pages) := by
  refine .bind (Reads.isPresent components).keeps.furnishedFor fun present => ?_
  cases present with
  | true => exact .pure _
  | false =>
      exact .bind (Files.furnishedFor_ensureDirectory componentsIn) fun _ =>
        .bind (Files.furnishedFor_ensureDirectory pagesIn) fun _ => (Fileless.record _).keeps.furnishedFor

def madeBy (settings : Settings) (root : Path) : List Path :=
  [settings.componentsIn root, settings.pagesIn root, settings.outputIn root]

theorem furnishedFor_plan (settings : Settings) (root : Path) :
    Keeps (FurnishedFor (madeBy settings root)) (plan settings root) := by
  have prepares : Keeps (FurnishedFor (madeBy settings root)) (prepare settings root) :=
    .bind (furnishedFor_ensureSources (by simp [madeBy]) (by simp [madeBy])) fun _ =>
      (reads_load _ _).keeps.furnishedFor
  refine prepares.bind fun composer => .bind (Files.furnishedFor_ensureDirectory (by simp [madeBy])) fun _ => ?_
  exact Fileless.keeps (.bind (.record _) fun _ => .bind (fileless_composeAll _ _) fun _ => .pure _) |>.furnishedFor

def NoSourceFailure {α : Type} (w : Workspace) (x : Action α) : Prop :=
  ∀ e, w.outcome x = .error e → e.ofSources = false

namespace NoSourceFailure
variable {α β : Type} {x : Action α} {f : α → Action β}

theorem pure (a : α) : NoSourceFailure w (pure a : Action α) := FailsOnly.pure a

theorem bind (first : NoSourceFailure w x) (next : ∀ a, w.outcome x = .ok a → NoSourceFailure (w.after x) (f a)) :
    NoSourceFailure w (x >>= f) := FailsOnly.bind first next

theorem storage {explain : Refusal → Failure} {x : Storage α} (explained : ∀ r, (explain r).ofSources = false) :
    NoSourceFailure w (Action.storage explain x) := FailsOnly.storage explained

theorem record (r : Record) : NoSourceFailure w (Action.record r) := FailsOnly.record r

theorem isDirectory (p : Path) : NoSourceFailure w (Action.isDirectory p) :=
  .storage fun r => by cases r <;> rfl

theorem ensureDirectory (p : Path) : NoSourceFailure w (Files.ensureDirectory p) :=
  .storage fun r => by cases r <;> rfl

theorem writeText (p : Path) (s : Text) : NoSourceFailure w (Files.writeText p s) :=
  .storage fun r => by cases r <;> rfl

theorem list {p : Path} (present : w.tree.HasDirectory w.here p) : NoSourceFailure w (Files.list p) := by
  intro e failed
  rw [Files.list_iff.2 ⟨present, rfl⟩] at failed
  cases failed

theorem copy (source target : Path) : NoSourceFailure w (Files.copy source target) := by
  refine .bind (.storage fun r => by cases r <;> rfl) fun same _ => ?_
  cases same with
  | none => exact .pure ()
  | some shown =>
      intro e failed
      cases failed
      rfl

end NoSourceFailure

theorem noSourceFailure_copyEntry {names : List Text} {part : Text} {deeper : List Text → Action (List (List Text))}
    (deeperNoSourceFailure : ∀ w' : Workspace, w'.tree.HasDirectory w'.here (source.below (names ++ [part])) →
      NoSourceFailure w' (deeper (names ++ [part]))) :
    NoSourceFailure w (Files.copyInto.copyEntry target deeper (names ++ [part]) ((source.below names).child part)) := by
  refine .bind (.isDirectory _) fun isDirectory asked => ?_
  cases isDirectory with
  | true =>
      have files := (Reads.isDirectory ((source.below names).child part)).keeps w
      rw [Files.isDirectory_iff, Path.below_child, ← files.tree, ← files.here] at asked
      exact deeperNoSourceFailure _ asked
  | false => exact .bind (.copy _ _) fun _ _ => .pure _

theorem noSourceFailure_copyEntries {names parts : List Text} {deeper : List Text → Action (List (List Text))}
    (deeperNoSourceFailure : ∀ part, ∀ w' : Workspace, w'.tree.HasDirectory w'.here (source.below (names ++ [part])) →
      NoSourceFailure w' (deeper (names ++ [part]))) :
    NoSourceFailure w (Files.copyInto.copyEntries target deeper names (parts.map (source.below names).child)) := by
  induction parts generalizing w with
  | nil => exact .pure _
  | cons part parts ih =>
      rw [List.map_cons, Files.copyInto.copyEntries, Path.name_child]
      exact .bind (noSourceFailure_copyEntry (deeperNoSourceFailure part)) fun _ _ => .bind ih fun _ _ => .pure _

theorem noSourceFailure_copyInto {room : Nat} {names : List Text}
    (present : w.tree.HasDirectory w.here (source.below names)) :
    NoSourceFailure w (Files.copyInto source target room names) := by
  -- Directories are listed only where there is one: it has been looked at, and the copying has made directories
  -- since.
  induction room generalizing w names with
  | zero =>
      intro e failed
      cases failed
      rfl
  | succ room ih =>
      refine .bind (.ensureDirectory _) fun _ _ => ?_
      have furnished := Files.furnishedFor_ensureDirectory (List.mem_singleton_self (target.below names)) w
      have still := present.mono furnished.directories
      rw [← furnished.here] at still
      refine .bind (.list still) fun entries listed => ?_
      obtain ⟨-, rfl⟩ := Files.list_iff.1 listed
      exact noSourceFailure_copyEntries fun part w' => ih

theorem noSourceFailure_writePages (composed : List (Text × Text)) :
    NoSourceFailure w (writePages output composed) := by
  induction composed generalizing w with
  | nil => exact .pure _
  | cons page rest ih =>
      exact .bind (.bind (.writeText _ _) fun _ _ => .bind (.record _) fun _ _ => .pure _) fun _ _ =>
        .bind ih fun _ _ => .pure _

theorem noSourceFailure_copyTree : NoSourceFailure w (Files.copyTree source target) := by
  refine .bind (.isDirectory _) fun isDirectory asked => ?_
  cases isDirectory with
  | true =>
      have files := (Reads.isDirectory source).keeps w
      rw [Files.isDirectory_iff, ← files.tree, ← files.here] at asked
      exact noSourceFailure_copyInto (by rwa [Path.below_nil])
  | false => exact .pure _

theorem noSourceFailure_publish (assets output : Path) (composed : List (Text × Text)) :
    NoSourceFailure w (publish assets output composed) := by
  refine .bind (noSourceFailure_writePages composed) fun _ _ => .bind ?_ fun _ _ => .pure _
  refine .bind (.isDirectory _) fun isDirectory _ => ?_
  cases isDirectory with
  | true =>
      refine .bind (.record _) fun _ _ => .bind noSourceFailure_copyTree fun copied _ => ?_
      dsimp only
      split
      · exact .bind (.record _) fun _ _ => .pure _
      · exact .pure _
  | false => exact .pure _

theorem plan_failed_of_ofSources {e : Failure} (failed : w.outcome (build settings root) = .error e)
    (ofSources : e.ofSources = true) : w.outcome (plan settings root) = .error e := by
  rcases outcome_bind_eq_error.1 failed with refused | ⟨⟨composer, composed⟩, -, failed⟩
  · exact refused
  · have publishes : NoSourceFailure (w.after (plan settings root))
        (publish (settings.assetsIn root) (settings.outputIn root) composed) := noSourceFailure_publish _ _ composed
    rw [publishes.bind (fun _ _ => .pure _) e failed] at ofSources
    cases ofSources

/-- A build that fails in its sources, or anywhere before it publishes, leaves all files as they were, and what is new
are directories on the ways to the components, the pages and the output. -/
theorem files_kept_of_failed_build {e : Failure} (failed : w.outcome (build settings root) = .error e)
    (early : e.ofSources = true ∨ w.outcome (plan settings root) = .error e) :
    (∀ l content changed, (w.after (build settings root)).tree.find? l = some (.file content changed) ↔
      w.tree.find? l = some (.file content changed)) ∧
    FurnishedFor (madeBy settings root) w (w.after (build settings root)) := by
  have refused : w.outcome (plan settings root) = .error e :=
    early.elim (plan_failed_of_ofSources failed) id
  have furnished := furnishedFor_plan settings root w
  rw [after_build_of_refused refused]
  exact ⟨furnished.file_iff, furnished⟩

def circling : Workspace := .holding [("src", none), ("src/components", none),
  ("src/components/Loop.html", "\x7b\x7bLoop\x7d\x7d"), ("src/pages", none), ("src/pages/first.html", "First"),
    ("src/pages/second.html", "\x7b\x7bLoop\x7d\x7d")]

theorem files_kept_of_failed_build_circling :
    ∃ e, circling.outcome (build .default (.ofLocation [])) = .error e ∧ e.ofSources = true ∧
      circling.tree.find? ["public".toList] = none ∧
      (circling.after (build .default (.ofLocation []))).tree.find? ["public".toList] = some .directory ∧
      FurnishedFor (madeBy .default (.ofLocation [])) circling (circling.after (build .default (.ofLocation []))) := by
  have failed : (match circling.outcome (build .default (.ofLocation [])) with
      | .ok _ => false
      | .error e => e.ofSources) = true := by decide +kernel
  have made : (circling.after (build .default (.ofLocation []))).tree.find? ["public".toList] = some .directory := by
    decide +kernel
  cases outcome : circling.outcome (build .default (.ofLocation [])) with
  | ok result =>
      rw [outcome] at failed
      cases failed
  | error e =>
      rw [outcome] at failed
      exact ⟨e, rfl, failed, rfl, made, (files_kept_of_failed_build outcome (.inl failed)).2⟩

end Site
end PageComposer
