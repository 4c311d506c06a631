import PageComposer.Proofs.Watch.Pending

/-!
# Batches of changes

What a watcher reports about the snapshots that it sees. A poll that finds its snapshot unchanged is settled, and
reports what the polls since the last settled one have noticed: each path once, with the last thing that has happened
to it (`polls_report`). In between the pending changes are known path by path (`Pending.mem_iff`).
-/

namespace PageComposer

open Workspace

namespace Snapshot
variable {before after state : Snapshot} {path : Path} {kind made : ChangeKind} {keep : Path × Int → Bool}

def difference? (before after : Snapshot) (path : Path) : Option ChangeKind :=
  match before.lookup path, after.lookup path with
  | none, some _ => some .added
  | some _, none => some .removed
  | some t, some t' => if t = t' then none else some .changed
  | none, none => none

theorem difference?_eq_none : difference? before after path = none ↔ before.lookup path = after.lookup path := by
  unfold difference?
  cases before.lookup path <;> cases after.lookup path <;> simp

theorem removed_iff (different : difference? before after path = some kind) :
    kind = .removed ↔ after.lookup path = none := by
  unfold difference? at different
  cases was : before.lookup path <;> cases is : after.lookup path <;> simp only [was, is] at different
  · cases different
  · cases different
    simp
  · cases different
    simp
  · split at different
    · cases different
    · cases different
      simp

theorem mem_iff_lookup (distinct : state.keys.Nodup) {t : Int} : (path, t) ∈ state ↔ state.lookup path = some t :=
  ⟨fun member => lookup_of_mem distinct member, mem_of_lookup⟩

theorem mem_kept (distinct : state.keys.Nodup) :
    path ∈ (state.filter keep).map (·.1) ↔ ∃ t, state.lookup path = some t ∧ keep (path, t) = true := by
  rw [List.mem_map]
  constructor
  · rintro ⟨⟨p, t⟩, member, rfl⟩
    obtain ⟨member, kept⟩ := List.mem_filter.1 member
    exact ⟨t, (mem_iff_lookup distinct).1 member, kept⟩
  · rintro ⟨t, there, kept⟩
    exact ⟨(path, t), List.mem_filter.2 ⟨(mem_iff_lookup distinct).2 there, kept⟩, rfl⟩

theorem mem_listed (distinct : state.keys.Nodup) :
    ⟨kind, path⟩ ∈ (state.filter keep).map (fun e => (⟨made, e.1⟩ : Change)) ↔
      made = kind ∧ ∃ t, state.lookup path = some t ∧ keep (path, t) = true := by
  rw [← mem_kept distinct, List.mem_map, List.mem_map]
  constructor
  · rintro ⟨e, member, same⟩
    cases same
    exact ⟨rfl, e, member, rfl⟩
  · rintro ⟨rfl, e, member, rfl⟩
    exact ⟨e, member, rfl⟩

theorem mem_changes (distinct : before.keys.Nodup) (distinct' : after.keys.Nodup) :
    ⟨kind, path⟩ ∈ changes before after ↔ difference? before after path = some kind := by
  unfold changes difference?
  rw [List.mem_append, List.mem_append, mem_listed distinct', mem_listed distinct', mem_listed distinct]
  dsimp only
  generalize before.lookup path = was
  generalize after.lookup path = is
  cases was <;> cases is
  · simp
  · simp
  · simp
  · rename_i t t'
    by_cases same : t = t' <;> simp [same]

theorem nodup_changes (distinct : before.keys.Nodup) (distinct' : after.keys.Nodup) :
    ((changes before after).map Change.path).Nodup := by
  have listed (made : ChangeKind) (keep : Path × Int → Bool) (state : Snapshot) :
      ((state.filter keep).map fun e => (⟨made, e.1⟩ : Change)).map Change.path = (state.filter keep).map (·.1) := by
    simp
  have once {state : Snapshot} (distinct : state.keys.Nodup) (keep : Path × Int → Bool) :
      ((state.filter keep).map (·.1)).Nodup :=
    List.Nodup.sublist (List.filter_sublist.map _) distinct
  unfold changes
  rw [List.map_append, List.map_append, listed, listed, listed, List.nodup_append, List.nodup_append]
  refine ⟨⟨once distinct' _, once distinct' _, ?_⟩, once distinct _, ?_⟩
  · rintro p added _ changed rfl
    obtain ⟨t, -, isNew⟩ := (mem_kept distinct').1 added
    obtain ⟨t', -, isOld⟩ := (mem_kept distinct').1 changed
    cases was : before.lookup p <;> simp [was] at isNew isOld
  · rintro p there _ removed rfl
    obtain ⟨t, -, isGone⟩ := (mem_kept distinct).1 removed
    have isThere : ∃ t, after.lookup p = some t := by
      rcases List.mem_append.1 there with added | changed
      · exact ((mem_kept distinct').1 added).imp fun _ => And.left
      · exact ((mem_kept distinct').1 changed).imp fun _ => And.left
    obtain ⟨t', isThere⟩ := isThere
    simp [isThere] at isGone

theorem kind?_changes (distinct : before.keys.Nodup) (distinct' : after.keys.Nodup) :
    Pending.kind? (changes before after) path = difference? before after path :=
  Option.ext fun _ => (Pending.mem_iff (nodup_changes distinct distinct')).symm.trans (mem_changes distinct distinct')

end Snapshot

namespace Watcher
variable {s : ℕ → Snapshot} {paths : List Path} {path : Path} {kind : ChangeKind} {i j k : ℕ} {watcher : Watcher}

def seeing (paths : List Path) (s : ℕ → Snapshot) : ℕ → Watcher
  | 0 => ⟨paths, s 0, []⟩
  | k + 1 => ((seeing paths s k).observe (s (k + 1))).1

def batch (paths : List Path) (s : ℕ → Snapshot) : ℕ → List Change
  | 0 => []
  | k + 1 => ((seeing paths s k).observe (s (k + 1))).2

def noticed (s : ℕ → Snapshot) (path : Path) : ℕ → Option ChangeKind
  | 0 => none
  | k + 1 => (s k).difference? (s (k + 1)) path

/-- The `k`-th snapshot is the one before, or the first one of all. -/
def Settled (s : ℕ → Snapshot) : ℕ → Prop
  | 0 => True
  | k + 1 => ∀ path, (s k).lookup path = (s (k + 1)).lookup path

structure LastSettled (s : ℕ → Snapshot) (j k : ℕ) : Prop where
  before : j < k
  settled : Settled s j
  last : ∀ i, j < i → i < k → ¬Settled s i

structure LastNoticed (s : ℕ → Snapshot) (path : Path) (kind : ChangeKind) (i k : ℕ) : Prop where
  upTo : i ≤ k
  seen : noticed s path i = some kind
  last : ∀ m, i < m → m ≤ k → noticed s path m = none

theorem settled_iff : Settled s k ↔ ∀ path, noticed s path k = none := by
  cases k with
  | zero => simp [Settled, noticed]
  | succ k => simp only [Settled, noticed, Snapshot.difference?_eq_none]

theorem lookup_of_unnoticed (upTo : i ≤ k) (unnoticed : ∀ m, i < m → m ≤ k → noticed s path m = none) :
    (s i).lookup path = (s k).lookup path := by
  induction k, upTo using Nat.le_induction with
  | base => rfl
  | succ k upTo ih =>
      have same := Snapshot.difference?_eq_none.1 (unnoticed (k + 1) (Nat.lt_succ_of_le upTo) (le_refl _))
      rw [ih fun m after before => unnoticed m after (Nat.le_succ_of_le before), same]

theorem exists_lastNoticed (upTo : j ≤ k) (differs : (s j).lookup path ≠ (s k).lookup path) :
    ∃ i kind, j < i ∧ LastNoticed s path kind i k := by
  induction k, upTo using Nat.le_induction with
  | base => exact absurd rfl differs
  | succ k upTo ih =>
      cases now : noticed s path (k + 1) with
      | some kind =>
          exact ⟨k + 1, kind, Nat.lt_succ_of_le upTo, le_refl _, now,
            fun m after before => absurd before (Nat.not_le.2 after)⟩
      | none =>
          rw [← Snapshot.difference?_eq_none.1 now] at differs
          obtain ⟨i, kind, after, last⟩ := ih differs
          refine ⟨i, kind, after, Nat.le_succ_of_le last.upTo, last.seen, fun m later before => ?_⟩
          rcases Nat.le_succ_iff.1 before with before | rfl
          · exact last.last m later before
          · exact now

theorem LastNoticed.succ_iff (quiet : noticed s path (k + 1) = none) :
    LastNoticed s path kind i (k + 1) ↔ LastNoticed s path kind i k := by
  constructor
  · intro h
    have notNow : i ≠ k + 1 := by
      rintro rfl
      rw [h.seen] at quiet
      cases quiet
    exact ⟨by have := h.upTo; omega, h.seen, fun m later before => h.last m later (Nat.le_succ_of_le before)⟩
  · intro h
    refine ⟨Nat.le_succ_of_le h.upTo, h.seen, fun m later before => ?_⟩
    rcases Nat.le_succ_iff.1 before with before | rfl
    · exact h.last m later before
    · exact quiet

theorem LastNoticed.now {kind' : ChangeKind} (now : noticed s path (k + 1) = some kind') :
    LastNoticed s path kind i (k + 1) ↔ i = k + 1 ∧ kind = kind' := by
  constructor
  · intro h
    by_cases isNow : i = k + 1
    · subst isNow
      exact ⟨rfl, Option.some.inj (h.seen.symm.trans now)⟩
    · have quiet := h.last (k + 1) (by have := h.upTo; omega) (le_refl _)
      rw [now] at quiet
      cases quiet
  · rintro ⟨rfl, rfl⟩
    exact ⟨le_refl _, now, fun m later before => absurd before (Nat.not_le.2 later)⟩

/-- After `k` polls a watcher has in mind what has been noticed since the last settled one. -/
structure Remembers (s : ℕ → Snapshot) (k : ℕ) (watcher : Watcher) : Prop where
  state : watcher.state = s k
  once : (watcher.pending.map Change.path).Nodup
  pending : ∀ path kind, watcher.pending.kind? path = some kind ↔
    ∃ i, (∀ m, i ≤ m → m ≤ k → ¬Settled s m) ∧ LastNoticed s path kind i k

theorem remembers_start (paths : List Path) (s : ℕ → Snapshot) : Remembers s 0 ⟨paths, s 0, []⟩ where
  state := rfl
  once := List.nodup_nil
  pending path kind := by
    apply iff_of_false (by simp [Pending.kind?])
    rintro ⟨i, unsettled, last⟩
    exact unsettled 0 last.upTo (le_refl _) trivial

theorem changes_eq_nil_iff (state : watcher.state = s k) (distinct : (s (k + 1)).keys.Nodup) :
    watcher.state.changes (s (k + 1)) = [] ↔ Settled s (k + 1) := by
  rw [state, Snapshot.changes_eq_nil distinct, Settled]

theorem remembers_settled (paths : List Path) (settled : Settled s (k + 1)) :
    Remembers s (k + 1) ⟨paths, s (k + 1), []⟩ where
  state := rfl
  once := List.nodup_nil
  pending path kind := by
    apply iff_of_false (by simp [Pending.kind?])
    rintro ⟨i, unsettled, last⟩
    exact unsettled (k + 1) last.upTo (le_refl _) settled

theorem Remembers.unsettled (remembers : Remembers s k watcher) (distinct : ∀ k, (s k).keys.Nodup)
    (unsettled : ¬Settled s (k + 1)) :
    Remembers s (k + 1) { watcher with
      state := s (k + 1)
      pending :=
        (watcher.state.changes (s (k + 1))).foldl (fun pending c => Pending.note c pending) watcher.pending } where
  state := rfl
  once := Pending.nodup_noted _ remembers.once
  pending path kind := by
    have once := Snapshot.nodup_changes (distinct k) (distinct (k + 1))
    rw [remembers.state, Pending.kind?_noted once, Snapshot.kind?_changes (distinct k) (distinct (k + 1))]
    have now : noticed s path (k + 1) = (s k).difference? (s (k + 1)) path := rfl
    cases different : (s k).difference? (s (k + 1)) path with
    | some kind' =>
        rw [different] at now
        simp only [Option.some_or, Option.some.injEq, LastNoticed.now now]
        constructor
        · rintro rfl
          refine ⟨k + 1, fun m after before => ?_, rfl, rfl⟩
          rwa [Nat.le_antisymm before after]
        · rintro ⟨i, -, -, rfl⟩
          rfl
    | none =>
        rw [different] at now
        simp only [Option.none_or, remembers.pending, LastNoticed.succ_iff now]
        refine exists_congr fun i => and_congr_left fun last => ?_
        constructor
        · intro before m after upTo
          rcases Nat.le_succ_iff.1 upTo with upTo | rfl
          · exact before m after upTo
          · exact unsettled
        · exact fun later m after upTo => later m after (Nat.le_succ_of_le upTo)

theorem remembers_seeing (paths : List Path) (distinct : ∀ k, (s k).keys.Nodup) (k : ℕ) :
    Remembers s k (seeing paths s k) := by
  induction k with
  | zero => exact remembers_start paths s
  | succ k ih =>
      rw [seeing]
      by_cases unchanged : (seeing paths s k).state.changes (s (k + 1)) = []
      · rw [observe_of_unchanged unchanged]
        exact remembers_settled _ ((changes_eq_nil_iff ih.state (distinct _)).1 unchanged)
      · rw [observe_of_changed unchanged]
        exact ih.unsettled distinct fun settled => unchanged ((changes_eq_nil_iff ih.state (distinct _)).2 settled)

/-- What a settled poll reports, if the `j`-th one was the last settled poll before. -/
structure Reports (s : ℕ → Snapshot) (j k : ℕ) (changes : List Change) : Prop where
  noticed : ∀ path kind, ⟨kind, path⟩ ∈ changes ↔ ∃ i, j < i ∧ i < k ∧ LastNoticed s path kind i k
  once : (changes.map Change.path).Nodup
  removed : ∀ c ∈ changes, c.kind = .removed ↔ (s k).lookup c.path = none
  complete : ∀ path, (s j).lookup path ≠ (s k).lookup path → path ∈ changes.map Change.path

theorem Remembers.reports (remembers : Remembers s k watcher) (settled : Settled s (k + 1))
    (last : LastSettled s j (k + 1)) : Reports s j (k + 1) watcher.pending := by
  have quiet := settled_iff.1 settled
  have noticed (path : Path) (kind : ChangeKind) :
      ⟨kind, path⟩ ∈ watcher.pending ↔ ∃ i, j < i ∧ i < k + 1 ∧ LastNoticed s path kind i (k + 1) := by
    rw [Pending.mem_iff remembers.once, remembers.pending]
    refine exists_congr fun i => ?_
    rw [LastNoticed.succ_iff (quiet path), ← and_assoc]
    refine and_congr_left fun seen => ?_
    constructor
    · intro unsettled
      refine ⟨?_, Nat.lt_succ_of_le seen.upTo⟩
      by_contra upTo
      exact unsettled j (Nat.not_lt.1 upTo) (Nat.le_of_lt_succ last.before) last.settled
    · exact fun ⟨after, _⟩ m later upTo => last.last m (Nat.lt_of_lt_of_le after later) (Nat.lt_succ_of_le upTo)
  refine ⟨noticed, remembers.once, fun c member => ?_, fun path differs => ?_⟩
  · obtain ⟨i, after, before, seen⟩ := (noticed c.path c.kind).1 member
    rw [← lookup_of_unnoticed seen.upTo seen.last]
    obtain ⟨i, rfl⟩ := Nat.exists_eq_add_one_of_ne_zero (Nat.ne_of_gt (Nat.zero_lt_of_lt after))
    exact Snapshot.removed_iff seen.seen
  · obtain ⟨i, kind, after, seen⟩ := exists_lastNoticed (Nat.le_of_lt last.before) differs
    have before : i < k + 1 := by
      apply Nat.lt_of_le_of_ne seen.upTo
      rintro rfl
      have nothing := seen.seen
      rw [quiet path] at nothing
      cases nothing
    exact List.mem_map_of_mem ((noticed path kind).2 ⟨i, after, before, seen⟩)

/-- The poll that reports what the `i`-th one has noticed: the `k`-th is settled, and the last settled one before it
came before the `i`-th. -/
def Covers (s : ℕ → Snapshot) (k i : ℕ) : Prop := Settled s k ∧ ∃ j, LastSettled s j k ∧ j < i ∧ i < k

theorem Covers.le {k' : ℕ} (covers : Covers s k i) (covers' : Covers s k' i) : k ≤ k' := by
  obtain ⟨-, j, last, before, -⟩ := covers
  obtain ⟨settled', -, -, -, after'⟩ := covers'
  by_contra later
  exact last.last k' (Nat.lt_trans before after') (Nat.not_le.1 later) settled'

theorem exists_lastSettled (s : ℕ → Snapshot) (k : ℕ) : ∃ j, LastSettled s j (k + 1) := by
  induction k with
  | zero => exact ⟨0, Nat.zero_lt_one, trivial, fun i after before => by omega⟩
  | succ k ih =>
      by_cases settled : Settled s (k + 1)
      · exact ⟨k + 1, Nat.lt_succ_self _, settled, fun i after before => by omega⟩
      · obtain ⟨j, last⟩ := ih
        refine ⟨j, Nat.lt_succ_of_lt last.before, last.settled, fun i after before => ?_⟩
        rcases Nat.lt_succ_iff_lt_or_eq.1 before with before | rfl
        · exact last.last i after before
        · exact settled

theorem existsUnique_covers (unsettled : ¬Settled s i) (later : i < k) (settled : Settled s k) :
    ∃! k, Covers s k i := by
  -- What has been noticed is reported by the next settled poll, and only by that one.
  classical
  have next : ∃ k, i < k ∧ Settled s k := ⟨k, later, settled⟩
  obtain ⟨after, settledNext⟩ := Nat.find_spec next
  have between (m : ℕ) (after : i < m) (before : m < Nat.find next) : ¬Settled s m :=
    fun settled => Nat.find_min next before ⟨after, settled⟩
  generalize Nat.find next = n at after settledNext between
  obtain ⟨n, rfl⟩ := Nat.exists_eq_add_one_of_ne_zero (Nat.ne_of_gt (Nat.zero_lt_of_lt after))
  obtain ⟨j, last⟩ := exists_lastSettled s n
  have before : j < i := by
    rcases Nat.lt_trichotomy j i with before | rfl | later
    · exact before
    · exact absurd last.settled unsettled
    · exact absurd last.settled (between j later last.before)
  have covers : Covers s (n + 1) i := ⟨settledNext, j, last, before, after⟩
  exact ⟨n + 1, covers, fun k' covers' => Nat.le_antisymm (covers'.le covers) (covers.le covers')⟩

theorem outcome_poll {w : Workspace} {current : Snapshot}
    (seen : w.outcome (Snapshot.take watcher.paths []) = .ok current) :
    w.outcome watcher.poll = .ok (watcher.observe current) :=
  outcome_bind_of_ok seen

theorem paths_observe (watcher : Watcher) (current : Snapshot) : (watcher.observe current).1.paths = watcher.paths := by
  unfold observe
  split <;> rfl

theorem paths_seeing (paths : List Path) (s : ℕ → Snapshot) (k : ℕ) : (seeing paths s k).paths = paths := by
  induction k with
  | zero => rfl
  | succ k ih => rw [seeing, paths_observe, ih]

/-- A watcher reports what its polls notice, once and nothing else. Whatever happens to the files between the polls:
only a settled poll reports, its report consists of what the polls since the last settled one have noticed, each path
with the last thing that has happened to it, and afterwards nothing is pending. So what a poll has noticed is in the
range of exactly one report, that of the next settled poll. -/
theorem polls_report {w : ℕ → Workspace} (seen : ∀ k, (w k).outcome (Snapshot.take paths []) = .ok (s k)) :
    (w 0).outcome (start paths) = .ok (seeing paths s 0) ∧
    (∀ k, (w (k + 1)).outcome (seeing paths s k).poll = .ok (seeing paths s (k + 1), batch paths s (k + 1)) ∧
      (batch paths s (k + 1) ≠ [] → Settled s (k + 1)) ∧
      (Settled s (k + 1) → (seeing paths s (k + 1)).pending = [] ∧
        ∀ j, LastSettled s j (k + 1) → Reports s j (k + 1) (batch paths s (k + 1)))) ∧
    ∀ i k, ¬Settled s i → i < k → Settled s k → ∃! k, Covers s k i := by
  have distinct (k : ℕ) : (s k).keys.Nodup := Snapshot.nodup_of_take (seen k) List.nodup_nil
  refine ⟨outcome_bind_of_ok (seen 0), fun k => ⟨?_, ?_, ?_⟩, fun i k => existsUnique_covers⟩
  · apply outcome_poll
    rw [paths_seeing]
    exact seen (k + 1)
  all_goals
    have remembers := remembers_seeing paths distinct k
    have settled := changes_eq_nil_iff remembers.state (distinct (k + 1))
  · intro some
    by_contra unsettled
    rw [batch, observe_of_changed (fun unchanged => unsettled (settled.1 unchanged))] at some
    exact some rfl
  · intro isSettled
    rw [seeing, batch, observe_of_unchanged (settled.2 isSettled)]
    exact ⟨rfl, fun j last => remembers.reports isSettled last⟩

/-! ### A burst of changes -/

def source (name : String) : Path := ⟨[], ["src".toList, name.toList]⟩

def written (name : String) (changed : Int) : Location × Entry := (["src".toList, name.toList], .file [] changed)

def burst : ℕ → List (Location × Entry)
  | 0 => []
  | 1 => [written "a.html" 1]
  | 2 => [written "a.html" 2, written "b.html" 2]
  | _ => [written "b.html" 2]

def duringBurst (k : ℕ) : Workspace := ⟨⟨(["src".toList], .directory) :: burst k⟩, [], 0, .info, []⟩

def seenInBurst : ℕ → Snapshot
  | 0 => []
  | 1 => [(source "a.html", 1)]
  | 2 => [(source "a.html", 2), (source "b.html", 2)]
  | _ => [(source "b.html", 2)]

theorem polls_report_burst :
    (∀ k, (duringBurst k).outcome (Snapshot.take [⟨[], ["src".toList]⟩] []) = .ok (seenInBurst k)) ∧
    LastSettled seenInBurst 0 4 ∧ Settled seenInBurst 4 ∧
    Reports seenInBurst 0 4 [⟨.removed, source "a.html"⟩, ⟨.added, source "b.html"⟩] := by
  have seen : ∀ k, (duringBurst k).outcome (Snapshot.take [⟨[], ["src".toList]⟩] []) = .ok (seenInBurst k) := by
    rintro (_ | _ | _ | k)
    · rfl
    · rfl
    · rfl
    · rfl
  have settled : Settled seenInBurst 4 := fun path => rfl
  have last : LastSettled seenInBurst 0 4 := by
    refine ⟨by decide, trivial, fun i after before => ?_⟩
    obtain rfl | rfl | rfl : i = 1 ∨ i = 2 ∨ i = 3 := by omega
    · exact fun same => absurd (same (source "a.html")) (by decide)
    · exact fun same => absurd (same (source "a.html")) (by decide)
    · exact fun same => absurd (same (source "a.html")) (by decide)
  exact ⟨seen, last, settled, (((polls_report seen).2.1 3).2.2 settled).2 0 last⟩

end Watcher
end PageComposer
