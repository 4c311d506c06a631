import Mathlib.Data.List.Pairwise
import PageComposer.Proofs.Piece.Replacement

/-!
# Where tags stand

A tag stands in a text wherever the characters between two positions have the form of a tag. Tags that stand in a
text do not overlap, and the scan from left to right finds every one of them, whatever braces lie in between
(`mem_places_iff`). So the tags of a text are listed by their first places, and replacing one of them changes just
the places where the scan has found it (`all_standing`).
-/

namespace PageComposer

theorem Tag.IsTag.ne_nil {t : Text} (tag : IsTag t) : t ≠ [] := by
  obtain ⟨c, rest, rfl, -⟩ := tag.eq_opening_append
  exact List.cons_ne_nil _ _

theorem Tag.IsTag.length_pos {t : Text} (tag : IsTag t) : 0 < t.length := List.length_pos_iff.2 tag.ne_nil

namespace Piece

theorem scan_induction {motive : Text → Prop} (nil : motive [])
    (tag : ∀ t rest, Tag.IsTag t → motive rest → motive (t ++ rest))
    (char : ∀ c rest, Tag.atStart? (c :: rest) = none → motive rest → motive (c :: rest)) (s : Text) : motive s := by
  -- A text is made from its end on by putting tags, and characters that begin none, in front.
  -- A tag takes up several characters, so the induction is on their number.
  induction size : s.length using Nat.strongRecOn generalizing s with
  | ind n ih =>
      subst size
      cases s with
      | nil => exact nil
      | cons c rest =>
          cases found : Tag.atStart? (c :: rest) with
          | none => exact char c rest found (ih rest.length (Nat.lt_succ_self _) rest rfl)
          | some t =>
              obtain ⟨rest', same⟩ := Tag.prefix_of_atStart? found
              have isTag := Tag.isTag_of_atStart? found
              have shorter : rest'.length < (c :: rest).length := by
                rw [← same, List.length_append]
                exact Nat.lt_add_of_pos_left (isTag.length_pos)
              exact same ▸ tag t rest' isTag (ih _ shorter rest' rfl)

def places (start : Nat) : List Piece → List (Nat × Text)
  | [] => []
  | char _ :: rest => places (start + 1) rest
  | tag t :: rest => (start, t) :: places (start + t.length) rest

theorem map_snd_places (start : Nat) (pieces : List Piece) : (places start pieces).map (·.2) = tags pieces := by
  induction pieces generalizing start with
  | nil => rfl
  | cons p rest ih =>
      cases p with
      | char c => exact ih (start + 1)
      | tag t => exact congrArg (t :: ·) (ih (start + t.length))

theorem le_of_mem_places {start : Nat} {pieces : List Piece} {p : Nat × Text} (h : p ∈ places start pieces) :
    start ≤ p.1 := by
  induction pieces generalizing start with
  | nil => cases h
  | cons q rest ih =>
      cases q with
      | char c => exact (Nat.le_succ _).trans (ih h)
      | tag t =>
          rcases List.mem_cons.1 h with rfl | later
          · exact Nat.le_refl _
          · exact (Nat.le_add_right _ _).trans (ih later)

theorem not_mem_places {start i : Nat} (before : i < start) (t : Text) (pieces : List Piece) :
    (i, t) ∉ places start pieces :=
  fun h => Nat.not_le.2 before (le_of_mem_places h)

theorem pairwise_places (start : Nat) (pieces : List Piece) :
    (places start pieces).Pairwise fun p q => p.1 + p.2.length ≤ q.1 := by
  -- Each tag ends before the next one begins.
  induction pieces generalizing start with
  | nil => exact .nil
  | cons p rest ih =>
      cases p with
      | char c => exact ih (start + 1)
      | tag t => exact .cons (fun q hq => le_of_mem_places hq) (ih (start + t.length))

theorem not_begins_inside {t u : Text} (isTag : Tag.IsTag t) (isTag' : Tag.IsTag u) (rest : Text) {i : Nat}
    (behind : 0 < i) (inside : i < u.length) : ¬t <+: (u ++ rest).drop i := by
  obtain ⟨c, more, rfl, -⟩ := isTag.eq_opening_append
  obtain ⟨d, inner, rfl, braceless⟩ := isTag'.eq_opening_append
  rintro ⟨after, same⟩
  obtain ⟨k, rfl⟩ := Nat.exists_eq_succ_of_ne_zero behind.ne'
  cases k with
  | zero =>
      -- The second brace of a tag is followed by a character of its name.
      simp only [List.cons_append, List.drop_succ_cons, List.drop_zero, List.cons.injEq, true_and] at same
      exact braceless (same.1 ▸ List.mem_cons_self)
  | succ k =>
      have inInner : k < (d :: inner).length := by
        simp only [List.length_cons] at inside ⊢
        omega
      have head : (d :: inner)[k]? = some '\x7b' := by
        have first := congrArg List.head? same
        simp only [List.cons_append, List.drop_succ_cons, List.head?_cons] at first
        rw [← List.cons_append, List.head?_drop, List.getElem?_append_left inInner] at first
        exact first.symm
      exact braceless (List.mem_of_getElem? head)

theorem mem_places_iff {s t : Text} (start i : Nat) :
    (start + i, t) ∈ places start (split s) ↔ Tag.IsTag t ∧ t <+: s.drop i := by
  induction s using scan_induction generalizing start i with
  | nil =>
      simp only [List.drop_nil, List.prefix_nil]
      exact iff_of_false List.not_mem_nil fun h => h.1.ne_nil h.2
  | tag u rest isTag' ih =>
      have positive : 0 < u.length := isTag'.length_pos
      rw [split_of_tag isTag', places, List.mem_cons, Prod.mk.injEq]
      rcases Nat.eq_zero_or_pos i with rfl | behind
      · -- The tag that the scan has found is the only one at its place.
        rw [or_iff_left (not_mem_places (Nat.add_lt_add_left positive start) t _), List.drop_zero]
        constructor
        · rintro ⟨-, rfl⟩
          exact ⟨isTag', List.prefix_append _ _⟩
        · rintro ⟨isTag, after, same⟩
          have here := isTag'.atStart?_append rest
          rw [← same, isTag.atStart?_append] at here
          exact ⟨rfl, Option.some.inj here⟩
      · have notHere : ¬(start + i = start ∧ t = u) := fun h => behind.ne' (by omega)
        rw [or_iff_right notHere]
        rcases Nat.lt_or_ge i u.length with inside | beyond
        · refine iff_of_false (not_mem_places (Nat.add_lt_add_left inside start) t _) ?_
          exact fun h => not_begins_inside h.1 isTag' rest behind inside h.2
        · obtain ⟨k, rfl⟩ := Nat.exists_eq_add_of_le beyond
          rw [← Nat.add_assoc, ih, List.drop_length_add_append]
  | char c rest none ih =>
      rw [split_of_none none, places]
      cases i with
      | zero =>
          refine iff_of_false (not_mem_places (Nat.lt_succ_self start) t _) ?_
          rintro ⟨isTag, after, same⟩
          rw [List.drop_zero] at same
          rw [← same, isTag.atStart?_append] at none
          cases none
      | succ k => rw [List.drop_succ_cons, ← ih (start + 1) k, Nat.add_assoc, Nat.add_comm 1 k]

theorem replace_eq_join_fill {t : Text} (isTag : Tag.IsTag t) (new s : Text) :
    Text.replace t new s = join ((split s).flatMap (fill [(t, new)])) := by
  induction s using scan_induction with
  | nil => rfl
  | tag u rest isTag' ih =>
      rw [split_of_tag isTag', List.flatMap_cons, join_append]
      by_cases same : u = t
      · subst same
        simp [fill, replace_append_self isTag, ih]
      · have apart : (u == t) = false := by simpa using same
        simp [fill, text, List.lookup_cons, apart, replace_append_other isTag new isTag' same, ih]
  | char c rest none ih =>
      rw [split_of_none none, List.flatMap_cons, join_append,
        replace_cons_of_atStart? isTag new (by rw [none]; simp), ih]
      rfl

end Piece

namespace Tag
open Piece

def slice (s : Text) (i j : Nat) : Text := (s.take j).drop i

/-- Between two positions of a text stands a tag. -/
structure StandsAt (s : Text) (i j : Nat) : Prop where
  within : j ≤ s.length
  isTag : IsTag (slice s i j)

def StandsBefore (s t u : Text) : Prop :=
  ∃ i j, StandsAt s i j ∧ slice s i j = t ∧ ∀ k l, StandsAt s k l → slice s k l = u → i < k

variable {s t : Text} {i j : Nat}

theorem slice_of_start (start : t <+: s.drop i) : slice s i (i + t.length) = t := by
  rw [slice, List.drop_take, Nat.add_sub_cancel_left]
  exact (List.prefix_iff_eq_take.1 start).symm

theorem standsAt_of_start (isTag : IsTag t) (start : t <+: s.drop i) : StandsAt s i (i + t.length) where
  within := by
    have length := start.length_le
    have positive := isTag.length_pos
    rw [List.length_drop] at length
    omega
  isTag := (slice_of_start start).symm ▸ isTag

theorem StandsAt.prefix_slice (h : StandsAt s i j) : slice s i j <+: s.drop i ∧ j = i + (slice s i j).length := by
  have positive := h.isTag.length_pos
  have within := h.within
  simp only [slice, List.length_drop, List.length_take] at positive ⊢
  constructor
  · rw [List.drop_take]
    exact List.take_prefix _ _
  · omega

theorem mem_places_split_iff : (i, t) ∈ places 0 (split s) ↔ IsTag t ∧ t <+: s.drop i := by
  simpa using mem_places_iff (s := s) (t := t) 0 i

theorem standsAt_iff : StandsAt s i j ↔ ∃ t, (i, t) ∈ places 0 (split s) ∧ slice s i j = t ∧ j = i + t.length := by
  constructor
  · intro h
    obtain ⟨start, last⟩ := h.prefix_slice
    exact ⟨_, mem_places_split_iff.2 ⟨h.isTag, start⟩, rfl, last⟩
  · rintro ⟨t, found, -, rfl⟩
    obtain ⟨isTag, start⟩ := mem_places_split_iff.1 found
    exact standsAt_of_start isTag start

theorem standsAt_of_mem_places (h : (i, t) ∈ places 0 (split s)) :
    StandsAt s i (i + t.length) ∧ slice s i (i + t.length) = t := by
  obtain ⟨isTag, start⟩ := mem_places_split_iff.1 h
  exact ⟨standsAt_of_start isTag start, slice_of_start start⟩

theorem mem_occurrences_iff : t ∈ occurrences s ↔ ∃ i j, StandsAt s i j ∧ slice s i j = t := by
  rw [occurrences_eq_tags, ← map_snd_places 0, List.mem_map]
  constructor
  · rintro ⟨⟨i, t⟩, found, rfl⟩
    exact ⟨i, _, standsAt_of_mem_places found⟩
  · rintro ⟨i, j, stands, rfl⟩
    obtain ⟨t, found, rfl, -⟩ := standsAt_iff.1 stands
    exact ⟨_, found, rfl⟩

theorem StandsAt.apart {k l : Nat} (h : StandsAt s i j) (h' : StandsAt s k l) :
    (i = k ∧ j = l) ∨ j ≤ k ∨ l ≤ i := by
  obtain ⟨t, found, -, rfl⟩ := standsAt_iff.1 h
  obtain ⟨u, found', -, rfl⟩ := standsAt_iff.1 h'
  by_cases same : (i, t) = (k, u)
  · obtain ⟨rfl, rfl⟩ := Prod.mk.inj same
    exact .inl ⟨rfl, rfl⟩
  · let Apart (p q : Nat × Text) : Prop := p.1 + p.2.length ≤ q.1 ∨ q.1 + q.2.length ≤ p.1
    have symmetric : Std.Symm Apart := ⟨fun _ _ => Or.symm⟩
    have ordered : (places 0 (split s)).Pairwise Apart := (pairwise_places 0 (split s)).imp .inl
    exact .inr (ordered.forall found found' same)

theorem pairwise_eraseDups {found : List (Nat × Text)} (ordered : found.Pairwise fun p q => p.1 < q.1) :
    (found.map (·.2)).eraseDups.Pairwise fun t u =>
      ∃ p ∈ found, p.2 = t ∧ ∀ q ∈ found, q.2 = u → p.1 < q.1 := by
  induction size : found.length using Nat.strongRecOn generalizing found with
  | ind n ih =>
      subst size
      cases found with
      | nil => exact .nil
      | cons p rest =>
          rw [List.map_cons, List.eraseDups_cons, List.filter_map]
          obtain ⟨first, ordered⟩ := List.pairwise_cons.1 ordered
          have shorter := Nat.lt_succ_of_le (rest.length_filter_le ((fun b => !b == p.2) ∘ (·.2)))
          have later := ih _ shorter (ordered.filter _) rfl
          have apart {q : Nat × Text} (hq : q ∈ rest.filter ((fun b => !b == p.2) ∘ (·.2))) : q ∈ rest ∧ q.2 ≠ p.2 := by
            simpa using hq
          refine .cons ?_ (later.imp_of_mem ?_)
          · intro u hu
            obtain ⟨q, hq, rfl⟩ := List.mem_map.1 (List.mem_eraseDups.1 hu)
            refine ⟨p, List.mem_cons_self, rfl, fun r hr same => ?_⟩
            rcases List.mem_cons.1 hr with rfl | hr
            · exact absurd same.symm (apart hq).2
            · exact first r hr
          · rintro t u - hu ⟨q, hq, rfl, least⟩
            obtain ⟨r, hr, rfl⟩ := List.mem_map.1 (List.mem_eraseDups.1 hu)
            refine ⟨q, List.mem_cons_of_mem _ (apart hq).1, rfl, fun r' hr' same => ?_⟩
            rcases List.mem_cons.1 hr' with rfl | hr'
            · exact absurd same.symm (apart hr).2
            · exact least r' (by simpa [hr', same] using (apart hr).2) same

theorem all_ordered (s : Text) : (all s).Pairwise (StandsBefore s) := by
  have ordered : (places 0 (split s)).Pairwise fun p q => p.1 < q.1 := by
    refine (pairwise_places 0 (split s)).imp_of_mem ?_
    intro p q hp _ apart
    have positive := (standsAt_of_mem_places hp).1.isTag.length_pos
    rw [(standsAt_of_mem_places hp).2] at positive
    omega
  rw [all, occurrences_eq_tags, ← map_snd_places 0]
  refine (pairwise_eraseDups ordered).imp ?_
  rintro t u ⟨⟨i, t⟩, found, rfl, least⟩
  refine ⟨i, _, (standsAt_of_mem_places found).1, (standsAt_of_mem_places found).2, ?_⟩
  rintro k l stands rfl
  obtain ⟨u, found', rfl, -⟩ := standsAt_iff.1 stands
  exact least (k, _) found' rfl

theorem StandsBefore.ne {u : Text} (h : StandsBefore s t u) : t ≠ u := by
  rintro rfl
  obtain ⟨i, j, stands, same, least⟩ := h
  exact Nat.lt_irrefl i (least i j stands same)

/-- The tags that stand in a text are disjoint, and the text is said to hold just these, by their first places. Wherever
the characters of one of them are met, the scan has found it, and replacing it changes these places only. -/
theorem all_standing (s : Text) :
    (∀ i j k l, StandsAt s i j → StandsAt s k l → (i = k ∧ j = l) ∨ j ≤ k ∨ l ≤ i) ∧
    (∀ i j k, StandsAt s i j → StandsAt s i k → j = k) ∧
    (∀ t, t ∈ all s ↔ ∃ i j, StandsAt s i j ∧ slice s i j = t) ∧
    (all s).Nodup ∧ (all s).Pairwise (StandsBefore s) ∧
    (occursIn s = true ↔ ∃ i j, StandsAt s i j) ∧
    join (split s) = s ∧ tags (split s) = occurrences s ∧
    ∀ t ∈ all s, (∀ i, t <+: s.drop i → StandsAt s i (i + t.length)) ∧
      ∀ new, Text.replace t new s = join ((split s).flatMap (fill [(t, new)])) := by
  have mem (t : Text) : t ∈ all s ↔ ∃ i j, StandsAt s i j ∧ slice s i j = t :=
    List.mem_eraseDups.trans mem_occurrences_iff
  refine ⟨fun i j k l h h' => h.apart h', ?_, mem, (all_ordered s).imp StandsBefore.ne, all_ordered s, ?_, join_split s,
    (occurrences_eq_tags s).symm, fun t ht => ?_⟩
  · intro i j k h h'
    have last := h.prefix_slice.2
    have last' := h'.prefix_slice.2
    have positive := h.isTag.length_pos
    have positive' := h'.isTag.length_pos
    rcases h.apart h' with ⟨-, same⟩ | before | before
    · exact same
    · omega
    · omega
  · rw [occursIn, Bool.not_eq_true', List.isEmpty_eq_false_iff_exists_mem]
    constructor
    · rintro ⟨t, found⟩
      obtain ⟨i, j, stands, -⟩ := mem_occurrences_iff.1 found
      exact ⟨i, j, stands⟩
    · rintro ⟨i, j, stands⟩
      exact ⟨_, mem_occurrences_iff.2 ⟨i, j, stands, rfl⟩⟩
  · have isTag := isTag_of_mem_all ht
    exact ⟨fun i start => standsAt_of_start isTag start, fun new => replace_eq_join_fill isTag new s⟩

theorem all_standing_stray :
    StandsAt "\x7b\x7b\x7ba\x7d\x7d\x7d\x7b\x7ba\x7d\x7d".toList 1 6 ∧
    StandsAt "\x7b\x7b\x7ba\x7d\x7d\x7d\x7b\x7ba\x7d\x7d".toList 7 12 := by
  have found : "\x7b\x7ba\x7d\x7d".toList ∈ all "\x7b\x7b\x7ba\x7d\x7d\x7d\x7b\x7ba\x7d\x7d".toList := by decide
  obtain ⟨-, -, -, -, -, -, -, -, literal⟩ := all_standing "\x7b\x7b\x7ba\x7d\x7d\x7d\x7b\x7ba\x7d\x7d".toList
  exact ⟨(literal _ found).1 1 ⟨_, rfl⟩, (literal _ found).1 7 ⟨[], rfl⟩⟩

end Tag
end PageComposer
