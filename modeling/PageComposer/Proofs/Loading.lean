import PageComposer.Loading
import PageComposer.Proofs.Workspace.Storing

/-!
# Loading

What is loaded depends on the files below the directories only. `templates_ok` describes the templates that are found,
and files of the same contents are loaded alike (`loadEach_congr`).
-/

namespace PageComposer

open FileTree Workspace

theorem Storage.readDirectory_iff {w : Workspace} {p : Path} {names : List Text} :
    w.outcome (readDirectory p) = .ok names ↔ w.tree.HasDirectory w.here p ∧
      names = w.tree.names (p.resolve w.here) := by
  unfold readDirectory stat
  rw [outcome_bind]
  simp only [outcome_query, after_query]
  cases asked : w.tree.stat w.here p with
  | error e =>
      refine iff_of_false (by simp) fun ⟨present, _⟩ => ?_
      rw [stat_eq_ok.2 ⟨present.located, present.found⟩] at asked
      cases asked
  | ok found =>
      obtain ⟨l, entry⟩ := found
      obtain ⟨located, found⟩ := stat_eq_ok.1 asked
      cases entry with
      | file content changed =>
          refine iff_of_false (by simp) fun ⟨present, _⟩ => ?_
          rw [stat_eq_ok.2 ⟨present.located, present.found⟩] at asked
          cases asked
      | directory =>
          obtain rfl := resolve_of_locate located
          dsimp only
          rw [outcome_bind]
          simp only [outcome_get, after_get, outcome_pure, Except.ok.injEq]
          exact ⟨fun same => ⟨⟨located, found⟩, same.symm⟩, fun h => h.2.symm⟩

namespace Files
variable {w : Workspace} {p : Path} {entries : List Path} {part : Text}

theorem list_iff : w.outcome (list p) = .ok entries ↔
    w.tree.HasDirectory w.here p ∧ entries = (w.tree.names (p.resolve w.here)).map p.child := by
  unfold list
  rw [outcome_bind_eq_ok]
  simp only [outcome_storage_eq_ok, outcome_pure, Except.ok.injEq, Storage.readDirectory_iff]
  constructor
  · rintro ⟨names, ⟨present, rfl⟩, rfl⟩
    exact ⟨present, rfl⟩
  · rintro ⟨present, rfl⟩
    exact ⟨_, ⟨present, rfl⟩, rfl⟩

theorem isDirectory_iff : w.outcome (Action.isDirectory p) = .ok true ↔ w.tree.HasDirectory w.here p := by
  rw [Action.isDirectory, outcome_storage_eq_ok, Storage.isDirectory_iff]

theorem isDirectory_child {answer : Bool} (present : w.tree.HasDirectory w.here p) (named : IsName part)
    (asked : w.outcome (Action.isDirectory (p.child part)) = .ok answer) :
    w.tree.locate w.here (p.child part) = .ok ((p.child part).resolve w.here) ∧
      (answer = true ↔ w.tree.find? (p.resolve w.here ++ [part]) = some .directory) := by
  have lies : (p.child part).resolve w.here = p.resolve w.here ++ [part] :=
    Path.resolve_child named.notUp _
  rcases locate_child_cases present named with located | long
  · rw [lies]
    refine ⟨located, ?_⟩
    have there : w.tree.HasDirectory w.here (p.child part) ↔
        w.tree.find? (p.resolve w.here ++ [part]) = some .directory := by
      constructor
      · intro h
        rw [← lies]
        exact h.found
      · exact hasDirectory_of located
    rw [← there, ← isDirectory_iff, asked, Except.ok.injEq]
  · rw [Action.isDirectory, outcome_storage_eq_ok, Storage.outcome_isDirectory] at asked
    unfold probe stat at asked
    rw [long] at asked
    cases asked

theorem isDirectory_congr {w' : Workspace} (here : w'.here = w.here) (same : ∀ l, w'.tree.kind? l = w.tree.kind? l) :
    w'.outcome (Action.isDirectory p) = w.outcome (Action.isDirectory p) := by
  have asked : (w'.tree.probe w'.here p).map (·.any Entry.isDirectory) =
      (w.tree.probe w.here p).map (·.any Entry.isDirectory) := by
    unfold probe stat
    rw [here, locate_congr same]
    cases w.tree.locate w.here p with
    | error e =>
        cases e with
        | embeddedNull => rfl
        | system e => cases e <;> rfl
    | ok l =>
        have kind := same l
        unfold kind? at kind
        simp only [bind, Except.bind]
        cases found : w.tree.find? l with
        | none =>
            cases found' : w'.tree.find? l with
            | none => rfl
            | some entry' =>
                rw [found, found'] at kind
                cases kind
        | some entry =>
            cases found' : w'.tree.find? l with
            | none =>
                rw [found, found'] at kind
                cases kind
            | some entry' =>
                rw [found, found'] at kind
                exact congrArg Except.ok (Option.some.inj kind)
  rw [Action.isDirectory, outcome_storage, outcome_storage, Storage.outcome_isDirectory,
    Storage.outcome_isDirectory, asked]

theorem isDirectory_refused {e : Failure} (refused : w.outcome (Action.isDirectory p) = .error e) :
    w.tree.locate w.here p = .error (.system .nameTooLong) ∧ e = .defect (.system .nameTooLong p.toText) := by
  obtain ⟨refusal, asked, rfl⟩ := outcome_storage_eq_error.1 refused
  clear refused
  rw [Storage.outcome_isDirectory] at asked
  unfold probe stat at asked
  cases located : w.tree.locate w.here p with
  | error e =>
      rw [located] at asked
      cases e with
      | embeddedNull => cases asked
      | system e =>
          cases e <;> cases asked
          exact ⟨rfl, rfl⟩
  | ok l =>
      rw [located] at asked
      simp only [bind, Except.bind] at asked
      cases found : w.tree.find? l <;> rw [found] at asked <;> cases asked

end Files

namespace Loading
variable {w : Workspace} {p : Path} {recursive : Bool} {room : Nat} {paths : List Path} {l : Location}

def reached (recursive : Bool) (p : Path) (files : List (List Text × List UInt8 × Int)) : List Path :=
  ((files.filter fun f => recursive || f.1.length == 1).map fun f => p.below f.1).filter isTemplate

theorem reached_append (recursive : Bool) (p : Path) (files rest : List (List Text × List UInt8 × Int)) :
    reached recursive p (files ++ rest) = reached recursive p files ++ reached recursive p rest := by
  simp [reached]

theorem reached_deeper (p : Path) (part : Text) (files : List (List Text × List UInt8 × Int)) :
    reached true p (files.map fun f => (part :: f.1, f.2)) = reached true (p.child part) files := by
  have same : (fun f : List Text × List UInt8 × Int => p.below (part :: f.1)) = fun f => (p.child part).below f.1 := by
    funext f
    rw [Path.child_below]
  simp [reached, Function.comp_def, same]

theorem reached_not_deeper (p : Path) (part : Text) (files : List (List Text × List UInt8 × Int))
    (nonempty : ∀ f ∈ files, f.1 ≠ []) : reached false p (files.map fun f => (part :: f.1, f.2)) = [] := by
  have none : (files.map fun f => (part :: f.1, f.2)).filter (fun f => false || f.1.length == 1) = [] := by
    rw [List.filter_eq_nil_iff]
    intro f member
    obtain ⟨f', isIn, rfl⟩ := List.mem_map.1 member
    simpa using nonempty f' isIn
  rw [reached, none]
  rfl

theorem reached_file (recursive : Bool) (p : Path) (part : Text) (file : List UInt8 × Int) :
    reached recursive p [([part], file)] = if isTemplate (p.child part) then [p.child part] else [] := by
  have one : ([([part], file)] : List (List Text × List UInt8 × Int)).filter (fun f => recursive || f.1.length == 1) =
      [([part], file)] := by simp
  rw [reached, one]
  exact List.filter_cons

theorem mem_reached_iff {tree : FileTree} (sound : tree.Sound) {q : Path} :
    q ∈ reached recursive p (tree.filesBelow l) ↔
    isTemplate q ∧ ∃ names, names ≠ [] ∧ (recursive = true ∨ names.length = 1) ∧ q = p.below names ∧
      (tree.content? (l ++ names)).isSome := by
  unfold reached
  rw [List.mem_filter, List.mem_map, and_comm]
  refine and_congr_right fun _ => ?_
  constructor
  · rintro ⟨⟨names, content, changed⟩, member, rfl⟩
    obtain ⟨member, deep⟩ := List.mem_filter.1 member
    obtain ⟨nonempty, found⟩ := (mem_filesBelow sound).1 member
    exact ⟨names, nonempty, by simpa using deep, rfl, by simp [content?, found, Entry.content?]⟩
  · rintro ⟨names, nonempty, deep, rfl, there⟩
    obtain ⟨content, changed, found⟩ := isSome_content?.1 there
    exact ⟨(names, content, changed),
      List.mem_filter.2 ⟨(mem_filesBelow sound).2 ⟨nonempty, found⟩, by simpa using deep⟩, rfl⟩

theorem mem_reached {tree : FileTree} (sound : tree.Sound) {q : Path} : q ∈ reached false p (tree.filesBelow l) ↔
    isTemplate q ∧ ∃ name, q = p.child name ∧ (tree.content? (l ++ [name])).isSome := by
  rw [mem_reached_iff sound]
  refine and_congr_right fun _ => ?_
  constructor
  · rintro ⟨names, -, one, rfl, there⟩
    obtain ⟨name, rfl⟩ := List.length_eq_one_iff.1 (by simpa using one)
    exact ⟨name, rfl, there⟩
  · rintro ⟨name, rfl, there⟩
    exact ⟨[name], by simp, .inr rfl, rfl, there⟩

structure Found (w : Workspace) (recursive : Bool) (p : Path) (paths : List Path) : Prop where
  present : w.tree.HasDirectory w.here p
  paths_eq : paths = reached recursive p (w.tree.filesBelow (p.resolve w.here))
  located : ∀ q ∈ paths, w.tree.locate w.here q = .ok (q.resolve w.here)

theorem reads_list (p : Path) : Reads (Files.list p) :=
  .bind (.storage (.readDirectory p)) fun _ => .pure _

theorem reads_atEntry {deeper : Path → Action (List Path)} (deeperReads : ∀ q, Reads (deeper q)) (entry : Path) :
    Reads (templates.atEntry recursive deeper entry) :=
  .bind (.isDirectory entry) fun _ => .ite (.ite (deeperReads entry) (.pure _)) (.pure _)

theorem reads_inEntries (recursive : Bool) {deeper : Path → Action (List Path)} (deeperReads : ∀ q, Reads (deeper q))
    (entries : List Path) :
    Reads (templates.inEntries recursive deeper entries) := by
  induction entries with
  | nil => exact .pure _
  | cons entry rest ih => exact .bind (reads_atEntry deeperReads entry) fun _ => .bind ih fun _ => .pure _

theorem reads_templates (recursive : Bool) (room : Nat) (p : Path) : Reads (templates recursive room p) := by
  induction room generalizing p with
  | zero => exact .throw _
  | succ room ih => exact .bind (reads_list p) fun entries => reads_inEntries recursive ih entries

theorem atEntry_ok {deeper : Path → Action (List Path)} {name : Text} (deeperReads : ∀ q, Reads (deeper q))
    (deeperFinds : ∀ q paths, w.outcome (deeper q) = .ok paths → Found w recursive q paths)
    (sound : w.Sound) (present : w.tree.HasDirectory w.here p) (there : name ∈ w.tree.names (p.resolve w.here))
    (found : w.outcome (templates.atEntry recursive deeper (p.child name)) = .ok paths) :
    paths = reached recursive p (w.tree.filesFrom (p.resolve w.here) name) ∧
      ∀ q ∈ paths, w.tree.locate w.here q = .ok (q.resolve w.here) := by
  rw [mem_names sound.tree, Option.isSome_iff_exists] at there
  obtain ⟨entry, there⟩ := there
  have named : IsName name := sound.tree.name there (by simp)
  have lies : (p.child name).resolve w.here = p.resolve w.here ++ [name] :=
    Path.resolve_child named.notUp _
  obtain ⟨answer, asked, found⟩ :=
    ((Reads.isDirectory _).outcome_bind_eq_ok fun _ => .ite (.ite (deeperReads _) (.pure _)) (.pure _)).1 found
  obtain ⟨located, answered⟩ := Files.isDirectory_child present named asked
  cases entry with
  | directory =>
      rw [if_pos (answered.2 there)] at found
      have onTheWay : w.tree.filesFrom (p.resolve w.here) name =
          (w.tree.filesBelow ((p.child name).resolve w.here)).map fun f => (name :: f.1, f.2) := by
        rw [filesFrom, there, lies]
      cases recursive with
      | true =>
          have deeperFound := deeperFinds _ _ found
          rw [onTheWay, reached_deeper]
          exact ⟨deeperFound.paths_eq, deeperFound.located⟩
      | false =>
          cases found
          rw [onTheWay, reached_not_deeper _ _ _ fun ⟨names, _⟩ member => ((mem_filesBelow sound.tree).1 member).1]
          exact ⟨rfl, by simp⟩
  | file content changed =>
      have notDirectory : answer ≠ true := by
        rw [ne_eq, answered, there]
        simp
      rw [if_neg notDirectory, outcome_pure, Except.ok.injEq] at found
      rw [filesFrom, there, reached_file]
      refine ⟨found.symm, fun q member => ?_⟩
      rw [← found] at member
      split at member
      · rw [List.mem_singleton.1 member]
        exact located
      · cases member

theorem inEntries_ok {deeper : Path → Action (List Path)} (deeperReads : ∀ q, Reads (deeper q))
    (deeperFinds : ∀ q paths, w.outcome (deeper q) = .ok paths → Found w recursive q paths)
    (sound : w.Sound) (present : w.tree.HasDirectory w.here p) {names : List Text}
    (there : ∀ name ∈ names, name ∈ w.tree.names (p.resolve w.here))
    (found : w.outcome (templates.inEntries recursive deeper (names.map p.child)) = .ok paths) :
    paths = reached recursive p (names.flatMap (w.tree.filesFrom (p.resolve w.here))) ∧
      ∀ q ∈ paths, w.tree.locate w.here q = .ok (q.resolve w.here) := by
  induction names generalizing paths with
  | nil =>
      cases found
      exact ⟨rfl, by simp⟩
  | cons name names ih =>
      obtain ⟨isThere, there⟩ := List.forall_mem_cons.1 there
      have laterReads := reads_inEntries recursive deeperReads (names.map p.child)
      obtain ⟨first, foundFirst, found⟩ :=
        ((reads_atEntry deeperReads (p.child name)).outcome_bind_eq_ok fun _ => .bind laterReads fun _ =>
          .pure _).1 found
      obtain ⟨later, foundLater, found⟩ := (laterReads.outcome_bind_eq_ok fun _ => .pure _).1 found
      cases found
      obtain ⟨firstEq, firstLocated⟩ := atEntry_ok deeperReads deeperFinds sound present isThere foundFirst
      obtain ⟨laterEq, laterLocated⟩ := ih there foundLater
      refine ⟨?_, fun q member => ?_⟩
      · rw [List.flatMap_cons, reached_append, ← firstEq, ← laterEq]
      · rcases List.mem_append.1 member with member | member
        · exact firstLocated q member
        · exact laterLocated q member

theorem templates_ok (sound : w.Sound) (found : w.outcome (templates recursive room p) = .ok paths) :
    Found w recursive p paths := by
  induction room generalizing p paths with
  | zero => cases found
  | succ room ih =>
      obtain ⟨entries, listed, found⟩ :=
        ((reads_list p).outcome_bind_eq_ok fun _ =>
          reads_inEntries recursive (reads_templates recursive room) _).1 found
      obtain ⟨present, rfl⟩ := Files.list_iff.1 listed
      obtain ⟨pathsEq, located⟩ := inEntries_ok (reads_templates recursive room) (fun _ _ => ih) sound present
        (fun _ member => member) found
      exact ⟨present, by rw [pathsEq, ← filesBelow_eq_flatMap sound.tree], located⟩

theorem reads_readText (p : Path) : Reads (Files.readText p) := by
  refine .bind (.storage (.readFile p)) fun (content, _) => ?_
  dsimp only
  split
  · exact .pure _
  · exact .throw _

variable {w' : Workspace}

theorem readText_congr (here : w'.here = w.here) (located : w.tree.locate w.here p = .ok l)
    (located' : w'.tree.locate w.here p = .ok l) (same : w'.tree.find? l = w.tree.find? l) :
    w.outcome (Files.readText p) = w'.outcome (Files.readText p) := by
  have sameStat : w.tree.stat w.here p = w'.tree.stat w'.here p := by
    rw [stat, stat, here, located, located']
    simp only [bind, Except.bind, same]
  have sameRead : w.outcome (Storage.readFile p) = w'.outcome (Storage.readFile p) := by
    unfold Storage.readFile Storage.stat
    rw [Workspace.outcome_bind, Workspace.outcome_bind]
    simp only [outcome_query, after_query, sameStat]
    cases w'.tree.stat w'.here p with
    | error e => rfl
    | ok found =>
        obtain ⟨l, entry⟩ := found
        cases entry <;> rfl
  refine (Reads.storage (.readFile p)).bind_congr (fun (content, _) => ?_) ?_ fun (content, _) => ?_
  · dsimp only
    split
    · exact .pure _
    · exact .throw _
  · rw [outcome_storage, outcome_storage, sameRead]
  · dsimp only
    split <;> rfl

theorem fileless_registered (registry : Registry) (name content : Text) :
    Fileless (do
      let (registry, records) ← Action.ofExcept ((registry.register (.text name) content).mapError .fault)
      records.forM Action.record
      return (registry, name)) :=
  .bind (.ofExcept _) fun (_, records) => .bind (.records records) fun _ => .pure _

theorem reads_loadComponent (base : Path) (registry : Registry) (p : Path) : Reads (loadComponent base registry p) := by
  unfold loadComponent
  split
  · exact .throw _
  · rename_i name _
    exact .bind (reads_readText p) fun content => (fileless_registered registry name content).reads

theorem loadComponent_congr (base : Path) (registry : Registry)
    (same : w.outcome (Files.readText p) = w'.outcome (Files.readText p)) :
    w.outcome (loadComponent base registry p) = w'.outcome (loadComponent base registry p) := by
  unfold loadComponent
  split
  · rfl
  · rename_i name _
    exact (reads_readText p).bind_congr (fun content => (fileless_registered registry name content).reads) same
      fun content => ((fileless_registered registry name content).same _ _).symm

theorem fileless_addedPage (composer : Composer) (p : Path) (body : Text) :
    Fileless (do
      Action.record (Composer.pageRecord p.stem)
      return (composer.addPage p.stem body, p.stem)) :=
  .bind (.record _) fun _ => .pure _

theorem reads_loadPage (composer : Composer) (p : Path) : Reads (loadPage composer p) :=
  .bind (reads_readText p) fun body => (fileless_addedPage composer p body).reads

theorem loadPage_congr (composer : Composer) (same : w.outcome (Files.readText p) = w'.outcome (Files.readText p)) :
    w.outcome (loadPage composer p) = w'.outcome (loadPage composer p) :=
  (reads_readText p).bind_congr (fun body => (fileless_addedPage composer p body).reads) same
    fun body => ((fileless_addedPage composer p body).same _ _).symm

section Each
variable {α : Type} {load : α → Path → Action (α × Text)}

theorem reads_loadEach (loadReads : ∀ loaded p, Reads (load loaded p)) (loaded : α) (paths : List Path) :
    Reads (loadEach load loaded paths) := by
  induction paths generalizing loaded with
  | nil => exact .pure _
  | cons p rest ih =>
      refine .bind (.attempt (loadReads loaded p)) fun result => ?_
      cases result with
      | error e => exact .pure _
      | ok result => exact .bind (ih result.1) fun _ => .pure _

theorem loadEach_congr (loadReads : ∀ loaded p, Reads (load loaded p)) (loaded : α)
    (same : ∀ p ∈ paths, ∀ loaded, w.outcome (load loaded p) = w'.outcome (load loaded p)) :
    w.outcome (loadEach load loaded paths) = w'.outcome (loadEach load loaded paths) := by
  induction paths generalizing loaded with
  | nil => rfl
  | cons p rest ih =>
      obtain ⟨sameHere, same⟩ := List.forall_mem_cons.1 same
      refine (Reads.attempt (loadReads loaded p)).bind_congr (fun result => ?_) ?_ fun result => ?_
      · cases result with
        | error e => exact .pure _
        | ok result => exact .bind (reads_loadEach loadReads result.1 rest) fun _ => .pure _
      · rw [outcome_attempt, outcome_attempt, sameHere]
      · cases result with
        | error e => rfl
        | ok result =>
            exact (reads_loadEach loadReads result.1 rest).bind_congr (fun _ => .pure _) (ih result.1 same) fun _ => rfl

theorem loadEach_ok (loadReads : ∀ loaded p, Reads (load loaded p)) {P : List Path → List Text → α → Prop}
    {loaded loaded' : α}
    {names : List Text} (start : P [] [] loaded)
    (step : ∀ earlier names p loaded loaded' name, p ∈ paths → P earlier names loaded →
      w.outcome (load loaded p) = .ok (loaded', name) → P (earlier ++ [p]) (names ++ [name]) loaded')
    (done : w.outcome (loadEach load loaded paths) = .ok (loaded', .ok names)) : P paths names loaded' := by
  suffices onwards : ∀ earlier known, P earlier known loaded → P (earlier ++ paths) (known ++ names) loaded' from
    onwards [] [] start
  clear start
  induction paths generalizing loaded names with
  | nil =>
      cases done
      simp
  | cons p rest ih =>
      obtain ⟨result, attempted, done⟩ := ((Reads.attempt (loadReads loaded p)).outcome_bind_eq_ok fun result => by
        cases result with
        | error e => exact .pure _
        | ok result => exact .bind (reads_loadEach loadReads result.1 rest) fun _ => .pure _).1 done
      rw [outcome_attempt, Except.ok.injEq] at attempted
      cases result with
      | error e => cases done
      | ok result =>
          obtain ⟨⟨later, names'⟩, loadedLater, done⟩ :=
            ((reads_loadEach loadReads result.1 rest).outcome_bind_eq_ok fun _ => .pure _).1 done
          cases names' with
          | error e => cases done
          | ok names' =>
              cases done
              have stepLater earlier names p loaded loaded' name (member : p ∈ rest) :=
                step earlier names p loaded loaded' name (List.mem_cons_of_mem _ member)
              intro earlier known before
              simpa using ih stepLater loadedLater (earlier ++ [p]) (known ++ [result.2])
                (step _ _ _ _ _ _ List.mem_cons_self before attempted)

theorem loadEach_keeps {P : α → Prop} {loaded loaded' : α} {names : Except Failure (List Text)}
    (step : ∀ (w : Workspace) loaded p loaded' name, P loaded →
      w.outcome (load loaded p) = .ok (loaded', name) → P loaded')
    (start : P loaded) (done : w.outcome (loadEach load loaded paths) = .ok (loaded', names)) : P loaded' := by
  -- What holds at first, and goes on to hold with each file, holds of what has been loaded in the end, be it as far
  -- as a failure.
  induction paths generalizing w loaded names with
  | nil =>
      cases done
      exact start
  | cons p rest ih =>
      obtain ⟨result, attempted, done⟩ := outcome_bind_eq_ok.1 done
      rw [outcome_attempt, Except.ok.injEq] at attempted
      cases result with
      | error e =>
          cases done
          exact start
      | ok result =>
          obtain ⟨⟨later, names'⟩, loadedLater, done⟩ := outcome_bind_eq_ok.1 done
          cases done
          exact ih (step _ _ _ _ _ start attempted) loadedLater

end Each

theorem pageNames_addPage (composer : Composer) (name body : Text) :
    (composer.addPage name body).pageNames =
      if name ∈ composer.pageNames then composer.pageNames else composer.pageNames ++ [name] :=
  OrderedMap.keys_assign _ _ _

theorem isTemplate_child_iff (p : Path) (name page : Text) :
    isTemplate (p.child name) ∧ (p.child name).stem = page ↔ page ≠ [] ∧ name = page ++ templateSuffix := by
  constructor
  · rintro ⟨template, rfl⟩
    have suffix : (p.child name).suffix = templateSuffix := by simpa [isTemplate] using template
    refine ⟨Path.stem_nonempty ?_, ?_⟩
    · rw [suffix]
      decide
    · rw [← suffix, Path.stem_append_suffix, Path.name_child]
  · rintro ⟨nonempty, rfl⟩
    have split : Path.splitName (page ++ templateSuffix) = (page, templateSuffix) :=
      Path.splitName_append nonempty (by decide) (by decide)
    constructor
    · rw [isTemplate, Path.suffix, Path.name_child, split]
      exact beq_self_eq_true _
    · rw [Path.stem, Path.name_child, split]

theorem pageNames_of_loadEach {composer : Composer} {registry : Registry} {limit : Int} {names : List Text}
    (done : w.outcome (loadEach loadPage (.new registry limit) paths) = .ok (composer, .ok names)) :
    composer.pageNames.Nodup ∧ ∀ page, page ∈ composer.pageNames ↔ ∃ q ∈ paths, q.stem = page := by
  refine loadEach_ok reads_loadPage (P := fun paths _ composer => composer.pageNames.Nodup ∧
    ∀ page, page ∈ composer.pageNames ↔ ∃ q ∈ paths, q.stem = page) ?_ ?_ done
  · exact ⟨List.nodup_nil, fun page => by simp [Composer.new, Composer.pageNames, OrderedMap.keys, OrderedMap.empty]⟩
  · rintro earlier _ q loaded loaded' name - ⟨once, known⟩ done
    obtain ⟨body, -, done⟩ := outcome_bind_eq_ok.1 done
    obtain ⟨_, -, done⟩ := outcome_bind_eq_ok.1 done
    cases done
    rw [pageNames_addPage]
    split
    · rename_i again
      refine ⟨once, fun page => ?_⟩
      rw [known page]
      constructor
      · rintro ⟨q', member, stem⟩
        exact ⟨q', List.mem_append_left _ member, stem⟩
      · rintro ⟨q', member, stem⟩
        rcases List.mem_append.1 member with member | member
        · exact ⟨q', member, stem⟩
        · rw [← (known page), ← stem, List.mem_singleton.1 member]
          exact again
    · rename_i new
      refine ⟨List.nodup_append.2 ⟨once, List.nodup_singleton _, ?_⟩, fun page => ?_⟩
      · rintro a there b isNew rfl
        exact new (List.mem_singleton.1 isNew ▸ there)
      · simp only [List.mem_append, known page, List.mem_singleton]
        constructor
        · rintro (⟨q', member, stem⟩ | rfl)
          · exact ⟨q', .inl member, stem⟩
          · exact ⟨q, .inr rfl, rfl⟩
        · rintro ⟨q', member | rfl, stem⟩
          · exact .inl ⟨q', member, stem⟩
          · exact .inr stem.symm

theorem reads_loadFound {α : Type} {load : α → Path → Action (α × Text)} (loadReads : ∀ loaded p, Reads (load loaded p))
    (loaded : α) (summary : Nat → Text) (found : Except Failure (List Path)) :
    Reads (loadFound load loaded summary found) := by
  cases found with
  | error e => exact .pure _
  | ok paths =>
      refine .bind (reads_loadEach loadReads loaded paths) fun (loaded, names) => ?_
      cases names with
      | error e => exact .pure _
      | ok names => exact .bind (Fileless.record _).reads fun _ => .pure _

theorem loadFound_ok {α : Type} {load : α → Path → Action (α × Text)} {loaded loaded' : α} {summary : Nat → Text}
    {found : Except Failure (List Path)} {names : List Text}
    (done : w.outcome (loadFound load loaded summary found) = .ok (loaded', .ok names)) :
    ∃ paths, found = .ok paths ∧ w.outcome (loadEach load loaded paths) = .ok (loaded', .ok names) := by
  cases found with
  | error e => cases done
  | ok paths =>
      refine ⟨paths, rfl, ?_⟩
      obtain ⟨⟨result, names'⟩, each, done⟩ := outcome_bind_eq_ok.1 done
      cases names' with
      | error e => cases done
      | ok names' =>
          cases done
          exact each

theorem reads_loadComponents (registry : Registry) (base : Path) : Reads (loadComponents registry base) :=
  .bind (.attempt (reads_templates true _ base)) fun _ => reads_loadFound (reads_loadComponent base) _ _ _

theorem reads_loadPages (composer : Composer) (directory : Path) : Reads (loadPages composer directory) :=
  .bind (.attempt (reads_templates false _ directory)) fun _ => reads_loadFound reads_loadPage _ _ _

theorem loadComponents_ok {registry registry' : Registry} {base : Path} {names : List Text}
    (done : w.outcome (loadComponents registry base) = .ok (registry', .ok names)) :
    ∃ paths, w.outcome (templates true Files.walkLimit base) = .ok paths ∧
      w.outcome (loadEach (loadComponent base) registry paths) = .ok (registry', .ok names) := by
  obtain ⟨found, attempted, done⟩ := ((Reads.attempt (reads_templates true _ base)).outcome_bind_eq_ok fun _ =>
    reads_loadFound (reads_loadComponent base) _ _ _).1 done
  obtain ⟨paths, rfl, each⟩ := loadFound_ok done
  exact ⟨paths, Except.ok.inj (outcome_attempt _ ▸ attempted), each⟩

theorem loadPages_ok {composer composer' : Composer} {directory : Path} {names : List Text}
    (done : w.outcome (loadPages composer directory) = .ok (composer', .ok names)) :
    ∃ paths, w.outcome (templates false Files.walkLimit directory) = .ok paths ∧
      w.outcome (loadEach loadPage composer paths) = .ok (composer', .ok names) := by
  obtain ⟨found, attempted, done⟩ := ((Reads.attempt (reads_templates false _ directory)).outcome_bind_eq_ok fun _ =>
    reads_loadFound reads_loadPage _ _ _).1 done
  obtain ⟨paths, rfl, each⟩ := loadFound_ok done
  exact ⟨paths, Except.ok.inj (outcome_attempt _ ▸ attempted), each⟩

end Loading
end PageComposer
