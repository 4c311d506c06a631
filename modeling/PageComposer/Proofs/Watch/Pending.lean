import PageComposer.Proofs.Watch.Snapshot

/-!
# Pending changes

A path is pending at most once, with the change that has been noted last (`Pending.kind?_noted`). An observation either
notes changes or hands over what is pending (`Watcher.observe_of_changed`, `Watcher.observe_of_unchanged`).
-/

namespace PageComposer

namespace Pending
variable {pending : Pending} {change : Change} {path : Path} {kind : ChangeKind}

def kind? (pending : Pending) (path : Path) : Option ChangeKind :=
  (pending.find? fun c => c.path = path).map (·.kind)

theorem kind?_cons (change : Change) (rest : Pending) (path : Path) :
    kind? (change :: rest) path = if change.path = path then some change.kind else kind? rest path := by
  unfold kind?
  by_cases own : change.path = path <;> simp [own]

theorem kind?_eq_none (fresh : path ∉ pending.map Change.path) : pending.kind? path = none := by
  unfold kind?
  rw [Option.map_eq_none_iff, List.find?_eq_none]
  intro c member
  simpa using fun same : c.path = path => fresh (same ▸ List.mem_map_of_mem member)

theorem kind?_note :
    (note change pending).kind? path = if change.path = path then some change.kind else pending.kind? path := by
  induction pending with
  | nil => exact kind?_cons _ _ _
  | cons c rest ih =>
      rw [note, kind?_cons]
      split
      · rename_i same
        rw [kind?_cons]
        by_cases own : change.path = path
        · rw [if_pos own, if_pos own]
        · rw [if_neg own, if_neg own, if_neg (same ▸ own)]
      · rename_i other
        rw [kind?_cons, ih]
        by_cases first : c.path = path
        · have notOwn : change.path ≠ path := fun own => other (first.trans own.symm)
          rw [if_pos first, if_pos first, if_neg notOwn]
        · rw [if_neg first, if_neg first]

theorem paths_note : (note change pending).map Change.path =
    if change.path ∈ pending.map Change.path then pending.map Change.path
    else pending.map Change.path ++ [change.path] := by
  induction pending with
  | nil => rfl
  | cons c rest ih =>
      rw [note]
      split
      · rename_i same
        simp [same]
      · rename_i other
        have other' : change.path ≠ c.path := fun same => other same.symm
        rw [List.map_cons, ih, List.map_cons]
        by_cases known : change.path ∈ rest.map Change.path
        · simp [known]
        · simp [known, other']

theorem nodup_note (once : (pending.map Change.path).Nodup) : ((note change pending).map Change.path).Nodup := by
  rw [paths_note]
  split
  · exact once
  · rename_i fresh
    exact once.append (List.nodup_singleton _) (by simpa using fresh)

theorem mem_iff (once : (pending.map Change.path).Nodup) : ⟨kind, path⟩ ∈ pending ↔ pending.kind? path = some kind := by
  induction pending with
  | nil => simp [kind?]
  | cons c rest ih =>
      obtain ⟨fresh, once⟩ := List.nodup_cons.1 (List.map_cons ▸ once)
      rw [List.mem_cons, ih once, kind?_cons]
      obtain ⟨made, p⟩ := c
      by_cases first : p = path
      · subst first
        have notLater : kind? rest p = none := kind?_eq_none fresh
        simp [notLater, eq_comm]
      · have other : path ≠ p := fun same => first same.symm
        simp [first, other]

theorem kind?_noted {changes : List Change} (once : (changes.map Change.path).Nodup) :
    (changes.foldl (fun pending c => note c pending) pending).kind? path =
      (kind? changes path).or (pending.kind? path) := by
  induction changes generalizing pending with
  | nil => rfl
  | cons c rest ih =>
      obtain ⟨fresh, once⟩ := List.nodup_cons.1 (List.map_cons ▸ once)
      rw [List.foldl_cons, ih once, kind?_note]
      rw [kind?_cons]
      by_cases first : c.path = path
      · subst first
        have notLater : kind? rest c.path = none := kind?_eq_none fresh
        simp [notLater]
      · simp [first]

theorem nodup_noted (changes : List Change) (once : (pending.map Change.path).Nodup) :
    ((changes.foldl (fun pending c => note c pending) pending).map Change.path).Nodup := by
  induction changes generalizing pending with
  | nil => exact once
  | cons c rest ih => exact ih (nodup_note once)

theorem note_ne_nil (change : Change) (pending : Pending) : note change pending ≠ [] := by
  cases pending with
  | nil => simp [note]
  | cons c rest =>
      rw [note]
      split <;> simp

theorem noted_ne_nil {changes : List Change} (some : changes ≠ []) (pending : Pending) :
    changes.foldl (fun pending c => note c pending) pending ≠ [] := by
  induction changes generalizing pending with
  | nil => exact absurd rfl some
  | cons c rest ih =>
      by_cases last : rest = []
      · subst last
        exact note_ne_nil c pending
      · exact ih last _

end Pending

namespace Watcher
variable {watcher : Watcher} {current : Snapshot}

theorem observe_of_unchanged (unchanged : watcher.state.changes current = []) :
    watcher.observe current = ({ watcher with state := current, pending := [] }, watcher.pending) := by
  rw [observe, unchanged]

theorem observe_of_changed (changed : watcher.state.changes current ≠ []) :
    watcher.observe current = ({ watcher with
      state := current
      pending :=
        (watcher.state.changes current).foldl (fun pending c => Pending.note c pending) watcher.pending }, []) := by
  rw [observe]
  split
  · rename_i unchanged
    exact absurd unchanged changed
  · rfl

end Watcher
end PageComposer
