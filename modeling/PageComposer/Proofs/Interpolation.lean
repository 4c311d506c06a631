import PageComposer.Proofs.Piece.Interpolation

/-!
# Filling tokens in one pass

Read from left to right, a text has at each place the token of the longest key that fits, or a character that stays:
`Filled` is this reading, with the filled text. Filling the tokens by keys sorted by their length is the same
(`interpolate_eq_iff`), so the order in which the properties have been assigned does not count.
-/

namespace PageComposer
namespace Interpolation

/-- The longest key with a property whose token stands at the start of a text. -/
structure LongestAt (props : Properties) (key : Text) (value : Value) (s : Text) : Prop where
  known : props.find? key = some value
  starts : Property.token key <+: s
  longest : ∀ other, props.contains other = true → Property.token other <+: s → other.length ≤ key.length

inductive Filled (props : Properties) : Text → Text → Prop
  | done : Filled props [] []
  | token {key rest filled : Text} {value : Value} : LongestAt props key value (Property.token key ++ rest) →
      Filled props rest filled → Filled props (Property.token key ++ rest) (value.onPage ++ filled)
  | char {c : Char} {rest filled : Text} :
      (∀ key, props.contains key = true → ¬Property.token key <+: c :: rest) →
      Filled props rest filled → Filled props (c :: rest) (c :: filled)

def Descending (entries : List (Text × Value)) : Prop :=
  entries.Pairwise fun e f => f.1.length ≤ e.1.length

theorem descending_insertByLength {entry : Text × Value} {sorted : List (Text × Value)} (h : Descending sorted) :
    Descending (insertByLength entry sorted) := by
  induction sorted with
  | nil => exact List.pairwise_singleton _ _
  | cons e rest ih =>
      obtain ⟨first, later⟩ := List.pairwise_cons.1 h
      unfold insertByLength
      split
      · rename_i shorter
        refine .cons (fun f hf => ?_) h
        rcases List.mem_cons.1 hf with rfl | hf
        · exact shorter.le
        · exact (first f hf).trans shorter.le
      · rename_i longer
        refine .cons (fun f hf => ?_) (ih later)
        rcases mem_insertByLength.1 hf with rfl | hf
        · exact Nat.not_lt.1 longer
        · exact first f hf

theorem lookup_insertByLength {entry : Text × Value} {sorted : List (Text × Value)} (h : Descending sorted)
    (key : Text) : (insertByLength entry sorted).lookup key = (sorted.lookup key).or ([entry].lookup key) := by
  obtain ⟨k, v⟩ := entry
  induction sorted with
  | nil => rfl
  | cons e rest ih =>
      obtain ⟨first, later⟩ := List.pairwise_cons.1 h
      unfold insertByLength
      split
      · rename_i shorter
        by_cases same : key = k
        · -- What comes behind a shorter key is no longer than it.
          have absent : (e :: rest).lookup key = none := by
            rw [List.lookup_eq_none_iff]
            intro f hf
            have length : f.1.length ≤ e.1.length := by
              rcases List.mem_cons.1 hf with rfl | hf
              · exact Nat.le_refl _
              · exact first f hf
            have apart : key ≠ f.1 := by
              rintro rfl
              rw [same] at length
              exact Nat.not_lt.2 length shorter
            simpa using apart
          rw [absent, same, List.lookup_cons_self, Option.none_or, List.lookup_cons_self]
        · have apart : (key == k) = false := by simpa using same
          simp [List.lookup_cons, apart]
      · obtain ⟨k', v'⟩ := e
        rw [List.lookup_cons, List.lookup_cons, ih later]
        cases key == k' <;> rfl

theorem descending_longestFirst (props : Properties) :
    Descending (longestFirst props) ∧ ∀ key, (longestFirst props).lookup key = props.find? key := by
  have inserted (entries sorted : List (Text × Value)) (h : Descending sorted) :
      Descending (entries.foldl (fun sorted entry => insertByLength entry sorted) sorted) ∧
        ∀ key, (entries.foldl (fun sorted entry => insertByLength entry sorted) sorted).lookup key =
          (sorted.lookup key).or (entries.lookup key) := by
    induction entries generalizing sorted with
    | nil => exact ⟨h, fun key => (Option.or_none).symm⟩
    | cons e rest ih =>
        obtain ⟨k, v⟩ := e
        obtain ⟨descending, found⟩ := ih _ (descending_insertByLength h)
        refine ⟨descending, fun key => ?_⟩
        rw [List.foldl_cons, found, lookup_insertByLength h, Option.or_assoc, List.lookup_cons, List.lookup_cons]
        cases key == k <;> rfl
  obtain ⟨descending, found⟩ := inserted props.entries [] .nil
  exact ⟨descending, fun key => (found key).trans (by simp [OrderedMap.find?])⟩

variable {props : Properties} {key s : Text} {value : Value}

theorem find?_longestFirst_eq_none_iff :
    (longestFirst props).find? (fun e => (Property.token e.1).isPrefixOf s) = none ↔
      ∀ key, props.contains key = true → ¬Property.token key <+: s := by
  rw [List.find?_eq_none]
  constructor
  · intro h key known
    obtain ⟨e, he, rfl⟩ := List.mem_map.1 ((props.contains_iff_mem_keys key).1 known)
    rw [← List.isPrefixOf_iff_prefix]
    exact h e (mem_longestFirst.2 he)
  · intro h e he
    rw [List.isPrefixOf_iff_prefix]
    exact h e.1 ((props.contains_iff_mem_keys e.1).2 (List.mem_map_of_mem (mem_longestFirst.1 he)))

theorem longestAt_of_find?
    (h : (longestFirst props).find? (fun e => (Property.token e.1).isPrefixOf s) = some (key, value)) :
    LongestAt props key value s := by
  obtain ⟨descending, lookUp⟩ := descending_longestFirst props
  obtain ⟨starts, before, behind, split, noneBefore⟩ := List.find?_eq_some_iff_append.1 h
  have starts : Property.token key <+: s := List.isPrefixOf_iff_prefix.1 starts
  have earlier {e : Text × Value} (he : e ∈ before) : ¬Property.token e.1 <+: s := by
    rw [← List.isPrefixOf_iff_prefix, Bool.not_eq_true, ← Bool.not_eq_true']
    exact noneBefore e he
  refine ⟨?_, starts, fun other known starts' => ?_⟩
  · rw [← lookUp, split, List.lookup_eq_some_iff]
    refine ⟨before, behind, rfl, fun e he => ?_⟩
    have apart : key ≠ e.1 := by
      rintro rfl
      exact earlier he starts
    simpa using apart
  · obtain ⟨e, he, rfl⟩ := List.mem_map.1 ((props.contains_iff_mem_keys other).1 known)
    rw [← mem_longestFirst, split, List.mem_append] at he
    rw [Descending, split, List.pairwise_append, List.pairwise_cons] at descending
    rcases he with he | he
    · exact absurd starts' (earlier he)
    · rcases List.mem_cons.1 he with rfl | he
      · exact Nat.le_refl _
      · exact descending.2.1.1 e he

theorem LongestAt.unique {key' : Text} {value' : Value} (h : LongestAt props key value s)
    (h' : LongestAt props key' value' s) : key = key' ∧ value = value' := by
  -- Tokens at one place differ in their length, so the longest key is one key.
  have known : props.contains key = true := by simp [OrderedMap.contains, h.known]
  have known' : props.contains key' = true := by simp [OrderedMap.contains, h'.known]
  have length : key.length = key'.length := (h'.longest key known h.starts).antisymm (h.longest key' known' h'.starts)
  have tokens : Property.token key = Property.token key' := by
    refine (List.prefix_of_prefix_length_le h.starts h'.starts ?_).eq_of_length ?_ <;> simp [Property.token, length]
  have same : key = key' := by simpa [Property.token] using tokens
  subst same
  exact ⟨rfl, Option.some.inj (h.known.symm.trans h'.known)⟩

theorem find?_of_longestAt (h : LongestAt props key value s) :
    (longestFirst props).find? (fun e => (Property.token e.1).isPrefixOf s) = some (key, value) := by
  cases found : (longestFirst props).find? fun e => (Property.token e.1).isPrefixOf s with
  | none =>
      have known : props.contains key = true := by simp [OrderedMap.contains, h.known]
      exact absurd h.starts (find?_longestFirst_eq_none_iff.1 found key known)
  | some entry =>
      obtain ⟨rfl, rfl⟩ := h.unique (longestAt_of_find? found)
      rfl

end Interpolation

section
open Interpolation
variable {props : Properties} {key s : Text} {value : Value}

theorem interpolate_token {rest : Text} (h : LongestAt props key value (Property.token key ++ rest)) :
    interpolate props (Property.token key ++ rest) = value.onPage ++ interpolate props rest :=
  replaceFrom_token (find?_of_longestAt h)

theorem interpolate_char {c : Char} {rest : Text}
    (h : ∀ key, props.contains key = true → ¬Property.token key <+: c :: rest) :
    interpolate props (c :: rest) = c :: interpolate props rest := by
  rw [interpolate, replaceFrom, find?_longestFirst_eq_none_iff.2 h]
  rfl

theorem filled_interpolate (props : Properties) (s : Text) : Filled props s (interpolate props s) := by
  -- A token takes up several characters, so the induction is on their number.
  induction size : s.length using Nat.strongRecOn generalizing s with
  | ind n ih =>
      subst size
      cases s with
      | nil => exact .done
      | cons c rest =>
          cases found : (longestFirst props).find? fun e => (Property.token e.1).isPrefixOf (c :: rest) with
          | none =>
              have none := find?_longestFirst_eq_none_iff.1 found
              rw [interpolate_char none]
              exact .char none (ih _ (Nat.lt_succ_self _) rest rfl)
          | some entry =>
              have longest := longestAt_of_find? found
              obtain ⟨rest', same⟩ := longest.starts
              have shorter : rest'.length < (c :: rest).length := by
                rw [← same, List.length_append]
                exact Nat.lt_add_of_pos_left (Nat.succ_pos _)
              rw [← same] at longest ⊢
              rw [interpolate_token longest]
              exact .token longest (ih _ shorter rest' rfl)

theorem eq_interpolate_of_filled {t : Text} (h : Filled props s t) : t = interpolate props s := by
  induction h with
  | done => rfl
  | token longest _ ih => rw [interpolate_token longest, ih]
  | char none _ ih => rw [interpolate_char none, ih]

theorem interpolate_eq_iff {t : Text} : interpolate props s = t ↔ Filled props s t := by
  constructor
  · rintro rfl
    exact filled_interpolate props s
  · exact fun h => (eq_interpolate_of_filled h).symm

theorem Interpolation.Filled.congr {props' : Properties} (same : ∀ key, props'.find? key = props.find? key) {t : Text}
    (h : Filled props s t) : Filled props' s t := by
  have sameKeys (key : Text) : props'.contains key = props.contains key := congrArg Option.isSome (same key)
  induction h with
  | done => exact .done
  | token longest _ ih =>
      refine .token ⟨(same _).trans longest.known, longest.starts, fun other known => ?_⟩ ih
      exact longest.longest other (sameKeys other ▸ known)
  | char none _ ih => exact .char (fun key known => none key (sameKeys key ▸ known)) ih

theorem interpolate_unknown {rest : Text} (dollarless : '$' ∉ key)
    (unknown : ∀ other, props.contains other = true → ¬Property.token other <+: Property.token key ++ rest) :
    interpolate props (Property.token key ++ rest) = Property.token key ++ interpolate props rest := by
  have inside (inner : Text) (plain : '$' ∉ inner) :
      interpolate props (inner ++ rest) = inner ++ interpolate props rest := by
    induction inner with
    | nil => rfl
    | cons c inner ih =>
        obtain ⟨apart, later⟩ := List.ne_and_not_mem_of_not_mem_cons plain
        rw [List.cons_append, interpolate_char fun other _ => not_token_start_of_ne apart.symm other, ih later,
          List.cons_append]
  have plain : '$' ∉ '\x7b' :: (key ++ ['\x7d']) := by simp [dollarless]
  have later := inside _ plain
  simp only [Property.token, List.cons_append] at unknown later ⊢
  rw [interpolate_char unknown, later]

/-- Filling tokens is one pass from left to right that takes the longest key at each place. So values are not scanned,
tokens of other keys stay, and properties that agree on every key fill alike. -/
theorem interpolate_onePass (props : Properties) (s : Text) :
    (∀ t, interpolate props s = t ↔ Filled props s t) ∧
    (∀ key value rest, LongestAt props key value (Property.token key ++ rest) →
      interpolate props (Property.token key ++ rest) = value.onPage ++ interpolate props rest) ∧
    (∀ key rest, '$' ∉ key →
      (∀ other, props.contains other = true → ¬Property.token other <+: Property.token key ++ rest) →
      interpolate props (Property.token key ++ rest) = Property.token key ++ interpolate props rest) ∧
    ∀ props' : Properties, (∀ key, props'.find? key = props.find? key) →
      interpolate props' s = interpolate props s := by
  refine ⟨fun t => interpolate_eq_iff, fun key value rest => interpolate_token,
    fun key rest => interpolate_unknown, fun props' same => ?_⟩
  exact interpolate_eq_iff.2 ((filled_interpolate props s).congr same)

theorem interpolate_onePass_overlapping :
    interpolate ⟨[("a".toList, .integer 1), ("a\x7db".toList, .integer 2)]⟩ "$\x7ba\x7db\x7d$\x7ba\x7d".toList =
      "21".toList := by
  have same (key : Text) :
      OrderedMap.find? ⟨[("a".toList, Value.integer 1), ("a\x7db".toList, .integer 2)]⟩ key =
        OrderedMap.find? ⟨[("a\x7db".toList, .integer 2), ("a".toList, .integer 1)]⟩ key := by
    by_cases short : key = ['a']
    · subst short
      rfl
    · have apart : (key == ['a']) = false := by simpa using short
      simp [OrderedMap.find?, List.lookup_cons, apart]
  rw [(interpolate_onePass _ _).2.2.2 _ same]
  rfl

end
end PageComposer
