import PageComposer.Proofs.Loading.Search
import PageComposer.Watch

/-!
# Snapshots

A snapshot holds the times of the files below the watched directories, each under its path (`lookup_take`). It is
taken by walks that ask for every entry, and fails where one of them does (`take_iff`). A poll finds no changes if and
only if the two snapshots give the same answers (`changes_eq_nil`).
-/

namespace PageComposer

open FileTree Workspace Loading

namespace Snapshot
variable {state after before : Snapshot} {key p : Path} {changed : Int}

theorem lookup_assign (p key : Path) (changed : Int) (state : Snapshot) :
    (assign p changed state).lookup key = if key = p then some changed else state.lookup key := by
  have apart {a b : Path} (h : ¬a = b) : (a == b) = false := by simpa using h
  induction state with
  | nil => by_cases h : key = p <;> simp [assign, List.lookup_cons, h, apart]
  | cons e rest ih =>
      obtain ⟨q, t⟩ := e
      rw [assign]
      split
      · rename_i same
        subst same
        by_cases h : key = q <;> simp [List.lookup_cons, h, apart]
      · rename_i other
        by_cases h : key = q
        · subst h
          simp [other]
        · simp [List.lookup_cons, apart h, ih]

def keys (state : Snapshot) : List Path := state.map (·.1)

theorem keys_assign (p : Path) (changed : Int) (state : Snapshot) :
    (assign p changed state).keys = if p ∈ state.keys then state.keys else state.keys ++ [p] := by
  induction state with
  | nil => rfl
  | cons e rest ih =>
      obtain ⟨q, t⟩ := e
      rw [assign]
      split
      · rename_i same
        subst same
        simp [keys]
      · rename_i other
        have other' : p ≠ q := fun h => other h.symm
        simp only [keys, List.map_cons, List.mem_cons, other', false_or] at ih ⊢
        rw [ih]
        by_cases known : p ∈ rest.map (·.1) <;> simp [known]

theorem nodup_assign (distinct : state.keys.Nodup) : (assign p changed state).keys.Nodup := by
  rw [keys_assign]
  split
  · exact distinct
  · rename_i fresh
    exact distinct.append (List.nodup_singleton p) (by simpa using fresh)

theorem mem_of_lookup (h : state.lookup key = some changed) : (key, changed) ∈ state := by
  obtain ⟨before, after, rfl, -⟩ := List.lookup_eq_some_iff.1 h
  exact List.mem_append_right _ List.mem_cons_self

theorem lookup_of_mem (distinct : state.keys.Nodup) {e : Path × Int} (member : e ∈ state) :
    state.lookup e.1 = some e.2 := by
  induction state with
  | nil => cases member
  | cons e' rest ih =>
      obtain ⟨q, t⟩ := e'
      obtain ⟨fresh, distinct⟩ := List.nodup_cons.1 (show (q :: rest.map (·.1)).Nodup from distinct)
      rcases List.mem_cons.1 member with rfl | member
      · simp
      · have apart : (e.1 == q) = false := by
          simpa using fun same : e.1 = q => fresh (same ▸ List.mem_map_of_mem member)
        rw [List.lookup_cons, apart]
        exact ih distinct member

theorem changes_eq_nil (distinct : after.keys.Nodup) :
    changes before after = [] ↔ ∀ key, before.lookup key = after.lookup key := by
  unfold changes
  simp only [List.append_eq_nil_iff, List.map_eq_nil_iff, List.filter_eq_nil_iff]
  constructor
  · rintro ⟨⟨added, changed⟩, removed⟩ key
    cases found : after.lookup key with
    | none =>
        cases gone : before.lookup key with
        | none => rfl
        | some t =>
            have isRemoved := removed _ (mem_of_lookup gone)
            simp [found] at isRemoved
    | some t =>
        have isIn := mem_of_lookup found
        have notAdded := added _ isIn
        have notChanged := changed _ isIn
        cases was : before.lookup key with
        | none => simp [was] at notAdded
        | some t' =>
            rw [was] at notChanged
            simpa using notChanged
  · intro same
    refine ⟨⟨fun e member => ?_, fun e member => ?_⟩, fun e member => ?_⟩
    · simp [same, lookup_of_mem distinct member]
    · simp [same, lookup_of_mem distinct member]
    · have isSome : (before.lookup e.1).isSome := List.lookup_isSome_iff.2 ⟨e, member, beq_self_eq_true _⟩
      rw [same] at isSome
      simpa using isSome

/-- A watched file is found under a path, with its time of change. -/
def Sees (w : Workspace) (paths : List Path) (key : Path) (changed : Int) : Prop :=
  ∃ p ∈ paths, w.tree.HasDirectory w.here p ∧ ∃ names content, names ≠ [] ∧ key = p.below names ∧
    w.tree.find? (p.resolve w.here ++ names) = some (.file content changed)

variable {w : Workspace} {paths : List Path}

theorem Sees.located (sound : w.Sound) (sees : Sees w paths key changed) :
    ∃ content, w.tree.find? (key.resolve w.here) = some (.file content changed) := by
  obtain ⟨p, -, -, names, content, -, rfl, found⟩ := sees
  have named : ∀ part ∈ names, part ≠ ['.', '.'] := fun part member =>
    (sound.tree.name found (List.mem_append_right _ member)).notUp
  rw [Path.resolve_below named]
  exact ⟨content, found⟩

theorem Sees.unique (sound : w.Sound) {changed' : Int} (sees : Sees w paths key changed)
    (sees' : Sees w paths key changed') : changed' = changed := by
  obtain ⟨content, found⟩ := sees.located sound
  obtain ⟨content', found'⟩ := sees'.located sound
  rw [found] at found'
  cases found'
  rfl

structure Notes (there : Path → Int → Prop) (state after : Snapshot) : Prop where
  only : ∀ key changed, after.lookup key = some changed → state.lookup key = some changed ∨ there key changed
  all : ∀ key, (state.lookup key).isSome ∨ (∃ changed, there key changed) → (after.lookup key).isSome

namespace Notes
variable {there later : Path → Int → Prop} {mid : Snapshot}

theorem nothing (none : ∀ key changed, ¬there key changed) (state : Snapshot) : Notes there state state where
  only _ _ := .inl
  all key := Or.rec id fun ⟨changed, h⟩ => absurd h (none key changed)

theorem assign (p : Path) (changed : Int) (state : Snapshot) :
    Notes (fun key c => key = p ∧ c = changed) state (assign p changed state) where
  only key c found := by
    rw [lookup_assign] at found
    split at found
    · rename_i same
      exact .inr ⟨same, (Option.some.inj found).symm⟩
    · exact .inl found
  all key known := by
    rw [lookup_assign]
    split
    · rfl
    · rename_i other
      exact known.resolve_right fun ⟨_, same, _⟩ => other same

theorem andThen (first : Notes there state mid) (second : Notes later mid after) :
    Notes (fun key c => there key c ∨ later key c) state after where
  only key c found := by
    rcases second.only key c found with found | isLater
    · exact (first.only key c found).imp_right .inl
    · exact .inr (.inr isLater)
  all key known := by
    refine second.all key ?_
    rcases known with known | ⟨c, isThere | isLater⟩
    · exact .inl (first.all key (.inl known))
    · exact .inl (first.all key (.inr ⟨c, isThere⟩))
    · exact .inr ⟨c, isLater⟩

theorem congr (h : Notes there state after) (same : ∀ key c, there key c ↔ later key c) : Notes later state after where
  only key c found := (h.only key c found).imp_right (same key c).1
  all key known := h.all key (known.imp_right fun ⟨c, isLater⟩ => ⟨c, (same key c).2 isLater⟩)

end Notes

section Fold
variable {step : Snapshot → Path → Action Snapshot} (reads : ∀ state q, Reads (step state q)) {entries : List Path}
include reads

theorem reads_foldlM (entries : List Path) (state : Snapshot) : Reads (entries.foldlM step state) := by
  induction entries generalizing state with
  | nil => exact .pure _
  | cons q rest ih =>
      rw [List.foldlM_cons]
      exact .bind (reads state q) ih

theorem foldlM_invariant (P : Snapshot → Prop)
    (each : ∀ q state after, P state → w.outcome (step state q) = .ok after → P after) (start : P state)
    (done : w.outcome (entries.foldlM step state) = .ok after) : P after := by
  induction entries generalizing state with
  | nil =>
      cases done
      exact start
  | cons q rest ih =>
      rw [List.foldlM_cons] at done
      obtain ⟨mid, stepped, done⟩ := ((reads state q).outcome_bind_eq_ok (reads_foldlM reads rest)).1 done
      exact ih (each q state mid start stepped) done

theorem notes_foldlM {there : Path → Path → Int → Prop}
    (each : ∀ q ∈ entries, ∀ state after, w.outcome (step state q) = .ok after → Notes (there q) state after)
    (done : w.outcome (entries.foldlM step state) = .ok after) :
    Notes (fun key c => ∃ q ∈ entries, there q key c) state after := by
  induction entries generalizing state with
  | nil =>
      cases done
      exact .nothing (by simp) _
  | cons q rest ih =>
      obtain ⟨first, later⟩ := List.forall_mem_cons.1 each
      rw [List.foldlM_cons] at done
      obtain ⟨mid, stepped, done⟩ := ((reads state q).outcome_bind_eq_ok (reads_foldlM reads rest)).1 done
      exact ((first state mid stepped).andThen (ih later done)).congr (by simp)

theorem foldlM_iff {succeeds : Path → Prop}
    (each : ∀ q ∈ entries, ∀ state, (∃ after, w.outcome (step state q) = .ok after) ↔ succeeds q) (state : Snapshot) :
    (∃ after, w.outcome (entries.foldlM step state) = .ok after) ↔ ∀ q ∈ entries, succeeds q := by
  induction entries generalizing state with
  | nil => exact iff_of_true ⟨state, rfl⟩ (by simp)
  | cons q rest ih =>
      obtain ⟨first, later⟩ := List.forall_mem_cons.1 each
      rw [List.foldlM_cons, List.forall_mem_cons, ← first state]
      constructor
      · rintro ⟨after, done⟩
        obtain ⟨mid, stepped, done⟩ := ((reads state q).outcome_bind_eq_ok (reads_foldlM reads rest)).1 done
        exact ⟨⟨mid, stepped⟩, (ih later mid).1 ⟨after, done⟩⟩
      · rintro ⟨⟨mid, stepped⟩, others⟩
        obtain ⟨after, done⟩ := (ih later mid).2 others
        exact ⟨after, ((reads state q).outcome_bind_eq_ok (reads_foldlM reads rest)).2 ⟨mid, stepped, done⟩⟩

end Fold

theorem reads_note (state : Snapshot) (p : Path) : Reads (note state p) :=
  .bind (.storage (.query _)) fun _ => .pure _

theorem reads_enter {deeper : Path → Snapshot → Action Snapshot} (deeperReads : ∀ q state, Reads (deeper q state))
    (state : Snapshot) (entry : Path) : Reads (enter deeper state entry) := by
  refine .bind (.isDirectory entry) fun answer => ?_
  cases answer with
  | false => exact .pure _
  | true => exact deeperReads _ _

theorem reads_walk (room : Nat) (p : Path) (state : Snapshot) : Reads (walk room p state) := by
  induction room generalizing p state with
  | zero => exact .throw _
  | succ room ih =>
      exact .bind (.storage (.readDirectory p)) fun names =>
        .bind (reads_foldlM reads_note _ _) fun _ => reads_foldlM (reads_enter ih) _ _

variable {room : Nat} {name : Text}

theorem walk_succ_eq_ok : w.outcome (walk (room + 1) p state) = .ok after ↔ w.tree.HasDirectory w.here p ∧
    ∃ mid, w.outcome (((w.tree.names (p.resolve w.here)).map p.child).foldlM note state) = .ok mid ∧
      w.outcome (((w.tree.names (p.resolve w.here)).map p.child).foldlM (enter (walk room)) mid) = .ok after := by
  have entering (names : List Text) (state : Snapshot) : Reads ((names.map p.child).foldlM (enter (walk room)) state) :=
    reads_foldlM (reads_enter (reads_walk room)) _ _
  have noting (names : List Text) : Reads ((names.map p.child).foldlM note state) := reads_foldlM reads_note _ _
  rw [walk, (Reads.storage (.readDirectory p)).outcome_bind_eq_ok fun names => .bind (noting names) (entering names)]
  simp only [outcome_storage_eq_ok, Storage.readDirectory_iff]
  constructor
  · rintro ⟨names, ⟨present, rfl⟩, done⟩
    exact ⟨present, ((noting _).outcome_bind_eq_ok (entering _)).1 done⟩
  · rintro ⟨present, done⟩
    exact ⟨_, ⟨present, rfl⟩, ((noting _).outcome_bind_eq_ok (entering _)).2 done⟩

theorem probe_child (present : w.tree.HasDirectory w.here p) (named : IsName name) :
    w.tree.probe w.here (p.child name) = if w.tree.locate w.here (p.child name) = .error (.system .nameTooLong) then
      .error (.system .nameTooLong) else .ok (w.tree.find? (p.resolve w.here ++ [name])) := by
  unfold probe stat
  rcases locate_child_cases present named with located | long
  · rw [located, if_neg (by simp)]
    simp only [bind, Except.bind]
    cases w.tree.find? (p.resolve w.here ++ [name]) <;> rfl
  · rw [long, if_pos rfl]
    rfl

theorem outcome_note (p : Path) (state : Snapshot) : w.outcome (note state p) =
    ((w.tree.probe w.here p).mapError (Action.plainFailure p)).map (noted p state) := by
  unfold note Storage.probe
  rw [(Reads.storage (.query _)).outcome_bind fun _ => .pure _, outcome_storage, outcome_query]
  cases w.tree.probe w.here p <;> rfl

theorem note_entries_iff (sound : w.Sound) (present : w.tree.HasDirectory w.here p) (state : Snapshot) :
    (∃ after, w.outcome (((w.tree.names (p.resolve w.here)).map p.child).foldlM note state) = .ok after) ↔
      ∀ q ∈ (w.tree.names (p.resolve w.here)).map p.child, w.tree.locate w.here q ≠ .error (.system .nameTooLong) := by
  refine foldlM_iff reads_note (fun q member state => ?_) state
  obtain ⟨name, there, rfl⟩ := List.mem_map.1 member
  rw [outcome_note, probe_child present (isName_of_mem_names sound.tree there)]
  split
  · rename_i long
    exact iff_of_false (by simp [Except.mapError, Except.map]) (absurd long)
  · rename_i short
    exact iff_of_true ⟨_, rfl⟩ short

theorem notes_note (present : w.tree.HasDirectory w.here p) (named : IsName name)
    (done : w.outcome (note state (p.child name)) = .ok after) :
    Notes (fun key changed => key = p.child name ∧
      ∃ content, w.tree.find? ((p.child name).resolve w.here) = some (.file content changed)) state after := by
  rw [Path.resolve_child named.notUp]
  rw [outcome_note, probe_child present named] at done
  split at done
  · cases done
  · cases found : w.tree.find? (p.resolve w.here ++ [name]) with
    | none =>
        rw [found] at done
        cases done
        exact .nothing (by simp) _
    | some entry =>
        rw [found] at done
        cases entry with
        | directory =>
            cases done
            exact .nothing (by simp) _
        | file content changed =>
            cases done
            exact (Notes.assign _ _ _).congr (by simp [eq_comm])

theorem enter_eq_ok {deeper : Path → Snapshot → Action Snapshot} (deeperReads : ∀ q state, Reads (deeper q state))
    (present : w.tree.HasDirectory w.here p) (named : IsName name) :
    w.outcome (enter deeper state (p.child name)) = .ok after ↔
      w.tree.locate w.here (p.child name) ≠ .error (.system .nameTooLong) ∧
        if w.tree.find? ((p.child name).resolve w.here) = some .directory then
          w.outcome (deeper (p.child name) state) = .ok after
        else state = after := by
  unfold enter
  rw [(Reads.isDirectory _).outcome_bind fun answer => .ite (deeperReads _ _) (.pure _), Path.resolve_child named.notUp,
    Action.isDirectory, outcome_storage, Storage.outcome_isDirectory, probe_child present named]
  by_cases long : w.tree.locate w.here (p.child name) = .error (.system .nameTooLong)
  · rw [if_pos long]
    exact iff_of_false (by simp [Except.map, Except.mapError]) fun h => h.1 long
  · rw [if_neg long, and_iff_right long]
    cases found : w.tree.find? (p.resolve w.here ++ [name]) with
    | none => simp [Except.map, Except.mapError]
    | some entry => cases entry <;> simp [Except.map, Except.mapError, Entry.isDirectory]

theorem enter_entries_iff {deeper : Path → Snapshot → Action Snapshot} (deeperReads : ∀ q state, Reads (deeper q state))
    {succeeds : Path → Prop}
    (deeperSucceeds : ∀ q state, (∃ after, w.outcome (deeper q state) = .ok after) ↔ succeeds q)
    (sound : w.Sound) (present : w.tree.HasDirectory w.here p) (state : Snapshot) :
    (∃ after, w.outcome (((w.tree.names (p.resolve w.here)).map p.child).foldlM (enter deeper) state) = .ok after) ↔
      ∀ q ∈ (w.tree.names (p.resolve w.here)).map p.child, w.tree.locate w.here q ≠ .error (.system .nameTooLong) ∧
        (w.tree.find? (q.resolve w.here) = some .directory → succeeds q) := by
  refine foldlM_iff (reads_enter deeperReads) (fun q member state => ?_) state
  obtain ⟨name, there, rfl⟩ := List.mem_map.1 member
  simp only [enter_eq_ok deeperReads present (isName_of_mem_names sound.tree there), exists_and_left]
  refine and_congr_right fun _ => ?_
  split
  · rename_i directory
    rw [deeperSucceeds, forall_prop_of_true directory]
  · rename_i other
    exact iff_of_true ⟨state, rfl⟩ fun directory => absurd directory other

def SeesBelow (w : Workspace) (p key : Path) (changed : Int) : Prop :=
  ∃ names content, names ≠ [] ∧ key = p.below names ∧
    w.tree.find? (p.resolve w.here ++ names) = some (.file content changed)

theorem seesBelow_iff (sound : w.Sound) : SeesBelow w p key changed ↔
    (∃ q ∈ (w.tree.names (p.resolve w.here)).map p.child, key = q ∧
      ∃ content, w.tree.find? (q.resolve w.here) = some (.file content changed)) ∨
    ∃ q ∈ (w.tree.names (p.resolve w.here)).map p.child, w.tree.find? (q.resolve w.here) = some .directory ∧
      SeesBelow w q key changed := by
  constructor
  · rintro ⟨names, content, nonempty, rfl, found⟩
    obtain ⟨name, rest, rfl⟩ := List.exists_cons_of_ne_nil nonempty
    have named : IsName name := sound.tree.name found (by simp)
    by_cases last : rest = []
    · subst last
      refine .inl ⟨p.child name, List.mem_map_of_mem ((mem_names sound.tree).2 (by rw [found]; rfl)), rfl, content, ?_⟩
      rwa [Path.resolve_child named.notUp]
    · have directory : w.tree.find? (p.resolve w.here ++ [name]) = some .directory :=
        sound.tree.directory_of_below last (by simpa using found)
      refine .inr ⟨p.child name, List.mem_map_of_mem ((mem_names sound.tree).2 (by rw [directory]; rfl)), ?_,
        rest, content, last, (Path.child_below p name rest).symm, ?_⟩
      · rwa [Path.resolve_child named.notUp]
      · rwa [Path.resolve_child_append named.notUp]
  · rintro (⟨q, member, rfl, content, found⟩ | ⟨q, member, -, names, content, nonempty, rfl, found⟩)
    · obtain ⟨name, there, rfl⟩ := List.mem_map.1 member
      rw [Path.resolve_child (isName_of_mem_names sound.tree there).notUp] at found
      exact ⟨[name], content, by simp, rfl, found⟩
    · obtain ⟨name, there, rfl⟩ := List.mem_map.1 member
      rw [Path.resolve_child_append (isName_of_mem_names sound.tree there).notUp] at found
      exact ⟨name :: names, content, by simp, Path.child_below p name names, found⟩

theorem notes_walk (sound : w.Sound) (done : w.outcome (walk room p state) = .ok after) :
    Notes (SeesBelow w p) state after := by
  induction room generalizing p state after with
  | zero => cases done
  | succ room ih =>
      obtain ⟨present, mid, noted, done⟩ := walk_succ_eq_ok.1 done
      have here :
        ∀ q ∈ (w.tree.names (p.resolve w.here)).map p.child, ∀ state after, w.outcome (note state q) = .ok after →
          Notes (fun key c => key = q ∧
            ∃ content, w.tree.find? (q.resolve w.here) = some (.file content c)) state after := by
        intro q member state after done
        obtain ⟨name, there, rfl⟩ := List.mem_map.1 member
        exact notes_note present (isName_of_mem_names sound.tree there) done
      have below : ∀ q ∈ (w.tree.names (p.resolve w.here)).map p.child, ∀ state after,
          w.outcome (enter (walk room) state q) = .ok after →
          Notes (fun key c => w.tree.find? (q.resolve w.here) = some .directory ∧ SeesBelow w q key c) state after := by
        intro q member state after done
        obtain ⟨name, there, rfl⟩ := List.mem_map.1 member
        have entered := ((enter_eq_ok (reads_walk room) present (isName_of_mem_names sound.tree there)).1 done).2
        split at entered
        · rename_i directory
          exact (ih entered).congr (by simp [directory])
        · rename_i other
          subst entered
          exact .nothing (by simp [other]) _
      exact ((notes_foldlM reads_note here noted).andThen
        (notes_foldlM (reads_enter (reads_walk room)) below done)).congr
        fun key c => (seesBelow_iff sound).symm

theorem walk_iff (sound : w.Sound) (state : Snapshot) :
    (∃ after, w.outcome (walk room p state) = .ok after) ↔ Searchable w room p := by
  -- By induction on the depth that is left: a walk asks for every entry, and goes through every directory.
  induction room generalizing p state with
  | zero =>
      refine iff_of_false nofun fun searchable => ?_
      exact absurd (searchable.shallow [] (by simpa using searchable.present.found)) (by simp)
  | succ room ih =>
      by_cases present : w.tree.HasDirectory w.here p
      · simp only [walk_succ_eq_ok, searchable_succ_iff sound, and_iff_right present]
        have entered := enter_entries_iff (reads_walk room) (fun q state => ih state) sound present
        constructor
        · rintro ⟨after, mid, -, done⟩
          exact (entered mid).1 ⟨after, done⟩
        · intro each
          obtain ⟨mid, noted⟩ := (note_entries_iff sound present state).2 fun q member => (each q member).1
          obtain ⟨after, done⟩ := (entered mid).2 each
          exact ⟨after, mid, noted, done⟩
      · exact iff_of_false (fun ⟨after, done⟩ => present (walk_succ_eq_ok.1 done).1) fun searchable =>
          present searchable.present

/-- A path that cannot be watched: it is too long itself, or it leads to a directory that cannot be searched. -/
def Unwatchable (w : Workspace) (p : Path) : Prop :=
  w.tree.locate w.here p = .error (.system .nameTooLong) ∨
    w.tree.HasDirectory w.here p ∧ ¬Searchable w Files.walkLimit p

theorem Unwatchable.of_sameFiles {w' : Workspace} (unwatchable : Unwatchable w p) (files : w.SameFiles w') :
    Unwatchable w' p := by
  refine unwatchable.imp (fun long => ?_) fun ⟨present, barred⟩ => ⟨?_, fun searchable => barred ?_⟩
  · rw [files.tree, files.here]
    exact long
  · rw [files.tree, files.here]
    exact present
  · exact searchable.of_sameFiles files.symm

theorem reads_take (paths : List Path) (state : Snapshot) : Reads (take paths state) := by
  induction paths generalizing state with
  | nil => exact .pure _
  | cons p rest ih => exact .bind (.isDirectory p) fun _ => .ite (.bind (reads_walk _ p state) ih) (ih state)

theorem take_cons_eq_ok {rest : List Path} : w.outcome (take (p :: rest) state) = .ok after ↔
    (¬w.tree.HasDirectory w.here p ∧ w.tree.locate w.here p ≠ .error (.system .nameTooLong) ∧
      w.outcome (take rest state) = .ok after) ∨
    w.tree.HasDirectory w.here p ∧ ∃ mid, w.outcome (walk Files.walkLimit p state) = .ok mid ∧
      w.outcome (take rest mid) = .ok after := by
  have walking : Reads (walk Files.walkLimit p state >>= take rest) := .bind (reads_walk _ p state) (reads_take rest)
  rw [take, (Reads.isDirectory p).outcome_bind fun _ => .ite walking (reads_take rest state)]
  cases asked : w.outcome (Action.isDirectory p) with
  | error e =>
      have long := (Files.isDirectory_refused asked).1
      refine iff_of_false nofun ?_
      rintro (⟨-, short, -⟩ | ⟨present, -⟩)
      · exact short long
      · rw [present.located] at long
        cases long
  | ok answer =>
      rw [← Files.isDirectory_iff, asked]
      cases answer with
      | false =>
          have short : w.tree.locate w.here p ≠ .error (.system .nameTooLong) := by
            intro long
            rw [Action.isDirectory, outcome_storage_eq_ok, Storage.outcome_isDirectory, probe, stat, long] at asked
            cases asked
          simp [short]
      | true => simpa using (reads_walk _ p state).outcome_bind_eq_ok (reads_take rest)

theorem take_iff (sound : w.Sound) (paths : List Path) (state : Snapshot) :
    (∃ after, w.outcome (take paths state) = .ok after) ↔ ∀ p ∈ paths, ¬Unwatchable w p := by
  induction paths generalizing state with
  | nil => exact iff_of_true ⟨state, rfl⟩ (by simp)
  | cons p rest ih =>
      simp only [take_cons_eq_ok, List.forall_mem_cons]
      by_cases present : w.tree.HasDirectory w.here p
      · have watchable : ¬Unwatchable w p ↔ Searchable w Files.walkLimit p := by
          simp [Unwatchable, present, present.located]
        simp only [present, not_true_eq_false, false_and, false_or, true_and, watchable, ← walk_iff sound state]
        constructor
        · rintro ⟨after, mid, walked, done⟩
          exact ⟨⟨mid, walked⟩, (ih mid).1 ⟨after, done⟩⟩
        · rintro ⟨⟨mid, walked⟩, others⟩
          obtain ⟨after, done⟩ := (ih mid).2 others
          exact ⟨after, mid, walked, done⟩
      · simp [Unwatchable, present, ih]

theorem take_refused (sound : w.Sound) {e : Failure} (refused : w.outcome (take paths state) = .error e) :
    ∃ p ∈ paths, Unwatchable w p := by
  by_contra none
  push Not at none
  obtain ⟨after, done⟩ := (take_iff sound paths state).2 none
  rw [refused] at done
  cases done

theorem notes_take (sound : w.Sound) (done : w.outcome (take paths state) = .ok after) :
    Notes (Sees w paths) state after := by
  induction paths generalizing state with
  | nil =>
      cases done
      exact .nothing (by simp [Sees]) _
  | cons p rest ih =>
      rcases take_cons_eq_ok.1 done with ⟨absent, -, done⟩ | ⟨present, mid, walked, done⟩
      · exact (ih done).congr (by simp [Sees, absent])
      · exact ((notes_walk sound walked).andThen (ih done)).congr (by simp [Sees, SeesBelow, present])

theorem nodup_note (distinct : state.keys.Nodup) (done : w.outcome (note state p) = .ok after) : after.keys.Nodup := by
  rw [outcome_note] at done
  cases found : w.tree.probe w.here p with
  | error e => simp [found, Except.mapError, Except.map] at done
  | ok entry =>
      rw [found] at done
      cases done
      unfold noted
      split
      · exact nodup_assign distinct
      · exact distinct

theorem nodup_enter {deeper : Path → Snapshot → Action Snapshot} (deeperReads : ∀ q state, Reads (deeper q state))
    (deeperDistinct : ∀ q after, w.outcome (deeper q state) = .ok after → after.keys.Nodup)
    (distinct : state.keys.Nodup)
    (done : w.outcome (enter deeper state p) = .ok after) : after.keys.Nodup := by
  obtain ⟨answer, -, done⟩ :=
    ((Reads.isDirectory p).outcome_bind_eq_ok fun _ => .ite (deeperReads _ _) (.pure _)).1 done
  cases answer with
  | false =>
      cases done
      exact distinct
  | true => exact deeperDistinct p after done

theorem nodup_of_walk (distinct : state.keys.Nodup) (done : w.outcome (walk room p state) = .ok after) :
    after.keys.Nodup := by
  induction room generalizing p state after with
  | zero => cases done
  | succ room ih =>
      obtain ⟨-, mid, noted, entered⟩ := walk_succ_eq_ok.1 done
      have afterNotes : mid.keys.Nodup :=
        foldlM_invariant reads_note (·.keys.Nodup) (fun _ _ _ => nodup_note) distinct noted
      exact foldlM_invariant (reads_enter (reads_walk room)) (·.keys.Nodup)
        (fun _ _ _ distinct => nodup_enter (reads_walk room) (fun _ _ => ih distinct) distinct) afterNotes entered

theorem nodup_of_take (done : w.outcome (take paths state) = .ok after) (distinct : state.keys.Nodup) :
    after.keys.Nodup := by
  induction paths generalizing state with
  | nil =>
      cases done
      exact distinct
  | cons p rest ih =>
      rcases take_cons_eq_ok.1 done with ⟨-, -, done⟩ | ⟨-, mid, walked, done⟩
      · exact ih done distinct
      · exact ih done (nodup_of_walk distinct walked)

theorem lookup_take (sound : w.Sound) (done : w.outcome (take paths []) = .ok after) :
    after.lookup key = some changed ↔ Sees w paths key changed := by
  have notes := notes_take sound done
  constructor
  · intro found
    exact (notes.only key changed found).resolve_left (by simp)
  · intro sees
    obtain ⟨changed', found⟩ := Option.isSome_iff_exists.1 (notes.all key (.inr ⟨changed, sees⟩))
    have sees' := (notes.only key changed' found).resolve_left (by simp)
    rw [found, sees.unique sound sees']

end Snapshot
end PageComposer
