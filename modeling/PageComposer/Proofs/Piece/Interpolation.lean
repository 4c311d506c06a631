import PageComposer.Interpolation
import PageComposer.Proofs.Piece

/-!
# Filling tokens of a clean text

Where neither keys nor values hold an opening brace, filling the tokens of a clean text changes the
characters outside its tags only: the tags stay, and the text stays clean (`interpolate_clean`).
-/

namespace PageComposer
open Piece

namespace Interpolation

def Braceless (entries : List (Text × Value)) : Prop :=
  ∀ e ∈ entries, '\x7b' ∉ e.1 ∧ '\x7b' ∉ e.2.onPage

theorem mem_insertByLength {e entry : Text × Value} {sorted : List (Text × Value)} :
    e ∈ insertByLength entry sorted ↔ e = entry ∨ e ∈ sorted := by
  induction sorted with
  | nil => simp [insertByLength]
  | cons first rest ih =>
      unfold insertByLength
      split
      · simp
      · rw [List.mem_cons, ih, List.mem_cons, or_left_comm]

theorem mem_longestFirst {e : Text × Value} {props : Properties} :
    e ∈ longestFirst props ↔ e ∈ props.entries := by
  have inserted (entries sorted : List (Text × Value)) :
      e ∈ entries.foldl (fun sorted entry => insertByLength entry sorted) sorted ↔
        e ∈ entries ∨ e ∈ sorted := by
    induction entries generalizing sorted with
    | nil => simp
    | cons first rest ih =>
        rw [List.foldl_cons, ih, mem_insertByLength, List.mem_cons, or_assoc, or_left_comm]
  simpa [longestFirst] using inserted props.entries []

variable {entries : List (Text × Value)}

theorem replaceFrom_eq_drop (skip : Nat) (s : Text) :
    replaceFrom entries skip s = replaceFrom entries 0 (s.drop skip) := by
  induction s generalizing skip with
  | nil => cases skip <;> rfl
  | cons c s ih =>
      cases skip with
      | zero => rfl
      | succ skip => simpa [replaceFrom] using ih skip

theorem replaceFrom_cons_of_none {c : Char} {rest : Text}
    (noToken : ∀ key, ¬Property.token key <+: c :: rest) :
    replaceFrom entries 0 (c :: rest) = c :: replaceFrom entries 0 rest := by
  have none : entries.find? (fun e => (Property.token e.1).isPrefixOf (c :: rest)) = none := by
    rw [List.find?_eq_none]
    intro e _ start
    exact noToken e.1 (List.isPrefixOf_iff_prefix.1 start)
  rw [replaceFrom, none]

theorem not_token_start {c d : Char} {rest : Text} (h : c ≠ '$' ∨ d ≠ '\x7b') (key : Text) :
    ¬Property.token key <+: c :: d :: rest := by
  rintro ⟨more, same⟩
  simp only [Property.token, List.cons_append, List.cons.injEq] at same
  rcases h with ne | ne
  · exact ne same.1.symm
  · exact ne same.2.1.symm

theorem not_token_start_of_ne {c : Char} {rest : Text} (h : c ≠ '$') (key : Text) :
    ¬Property.token key <+: c :: rest := by
  rintro ⟨more, same⟩
  simp only [Property.token, List.cons_append, List.cons.injEq] at same
  exact h same.1.symm

theorem replaceFrom_append_closing {s : Text} (braceless : '\x7b' ∉ s) (rest : Text) :
    replaceFrom entries 0 (s ++ '\x7d' :: rest) = s ++ '\x7d' :: replaceFrom entries 0 rest := by
  induction s with
  | nil => exact replaceFrom_cons_of_none (not_token_start_of_ne (by decide))
  | cons c s ih =>
      obtain ⟨-, later⟩ := List.ne_and_not_mem_of_not_mem_cons braceless
      have noToken : ∀ key, ¬Property.token key <+: c :: (s ++ '\x7d' :: rest) := by
        cases s with
        | nil => exact not_token_start (.inr (by decide))
        | cons d s => exact not_token_start (.inr (List.ne_and_not_mem_of_not_mem_cons later).1.symm)
      rw [List.cons_append, replaceFrom_cons_of_none noToken, ih later, List.cons_append]

theorem replaceFrom_append_tag {t : Text} (isTag : Tag.IsTag t) (rest : Text) :
    replaceFrom entries 0 (t ++ rest) = t ++ replaceFrom entries 0 rest := by
  obtain ⟨s, rfl, braceless⟩ := isTag.eq_append_closing
  simp only [List.cons_append, List.append_assoc, List.nil_append]
  rw [replaceFrom_cons_of_none (not_token_start_of_ne (by decide)),
    replaceFrom_cons_of_none (not_token_start_of_ne (by decide)), replaceFrom_append_closing braceless]

theorem chars_of_join_eq {s rest : Text} (braceless : '\x7b' ∉ s) {pieces : List Piece}
    (h : Clean pieces) (same : join pieces = s ++ rest) :
    ∃ later, pieces = s.map char ++ later ∧ Clean later ∧ join later = rest := by
  induction s generalizing pieces with
  | nil => exact ⟨pieces, rfl, h, same⟩
  | cons c s ih =>
      obtain ⟨ne, later⟩ := List.ne_and_not_mem_of_not_mem_cons braceless
      cases h with
      | nil => cases same
      | tag isTag _ =>
          obtain ⟨d, more, rfl, -⟩ := isTag.eq_opening_append
          exact absurd (List.cons.inj same).1 ne
      | char _ clean =>
          simp only [join_cons, text, List.cons_append, List.nil_append, List.cons.injEq] at same
          obtain ⟨rfl, same⟩ := same
          obtain ⟨pieces, rfl, cleanLater, joined⟩ := ih later clean same
          exact ⟨pieces, rfl, cleanLater, joined⟩
      | brace _ _ _ => exact absurd (List.cons.inj same).1 ne

theorem chars_of_token {key rest : Text} (braceless : '\x7b' ∉ key) {pieces : List Piece}
    (h : Clean pieces) (same : join pieces = Property.token key ++ rest) :
    ∃ later, pieces = (Property.token key).map char ++ later ∧ Clean later ∧ join later = rest := by
  have keyBraceless : '\x7b' ∉ key ++ ['\x7d'] := by simp [braceless]
  cases h with
  | nil => cases same
  | brace _ _ _ => cases same
  | tag isTag _ =>
      obtain ⟨d, more, rfl, -⟩ := isTag.eq_opening_append
      cases same
  | char _ clean =>
      simp only [join_cons, text, Property.token, List.cons_append, List.nil_append,
        List.cons.injEq] at same
      obtain ⟨rfl, same⟩ := same
      cases clean with
      | nil => cases same
      | char ne _ => exact absurd (List.cons.inj same).1 ne
      | tag isTag _ =>
          obtain ⟨d, more, rfl, -⟩ := isTag.eq_opening_append
          have second := (List.cons.inj same).2
          cases key with
          | nil => exact absurd (List.cons.inj second).1 (by decide)
          | cons k key =>
              exact absurd (List.cons.inj second).1 (List.ne_and_not_mem_of_not_mem_cons braceless).1
      | @brace d pieces ne _ clean =>
          have inside : join (char d :: pieces) = (key ++ ['\x7d']) ++ rest := (List.cons.inj same).2
          obtain ⟨later, eq, cleanLater, joined⟩ := chars_of_join_eq keyBraceless (.char ne clean) inside
          exact ⟨later, by simp [Property.token, eq], cleanLater, joined⟩

theorem replaceFrom_token {key rest : Text} {value : Value}
    (found : entries.find? (fun e => (Property.token e.1).isPrefixOf (Property.token key ++ rest)) =
      some (key, value)) :
    replaceFrom entries 0 (Property.token key ++ rest) = value.onPage ++ replaceFrom entries 0 rest := by
  simp only [Property.token, List.cons_append] at found ⊢
  rw [replaceFrom]
  simp only [Property.token, List.cons_append, found]
  rw [replaceFrom_eq_drop]
  simp

structure Fills (entries : List (Text × Value)) (pieces filled : List Piece) : Prop where
  joined : replaceFrom entries 0 (join pieces) = join filled
  clean : Clean filled
  sameTags : tags filled = tags pieces

namespace Fills
variable {rest filled : List Piece}

theorem tag {t : Text} (isTag : Tag.IsTag t) (h : Fills entries rest filled) :
    Fills entries (.tag t :: rest) (.tag t :: filled) where
  joined := by simp [text, replaceFrom_append_tag isTag, h.joined]
  clean := .tag isTag h.clean
  sameTags := congrArg (t :: ·) h.sameTags

theorem brace {c : Char} (ne : c ≠ '\x7b') (nd : c ≠ '$') (h : Fills entries rest filled) :
    Fills entries (.char '\x7b' :: .char c :: rest) (.char '\x7b' :: .char c :: filled) where
  joined := by
    simp only [join_cons, text, List.cons_append, List.nil_append]
    rw [replaceFrom_cons_of_none (not_token_start_of_ne (by decide)),
      replaceFrom_cons_of_none (not_token_start_of_ne nd), h.joined]
  clean := .brace ne nd h.clean
  sameTags := h.sameTags

theorem char {c : Char} (ne : c ≠ '\x7b')
    (none : entries.find? (fun e => (Property.token e.1).isPrefixOf (c :: join rest)) = none)
    (h : Fills entries rest filled) : Fills entries (.char c :: rest) (.char c :: filled) where
  joined := by
    simp only [join_cons, text, List.cons_append, List.nil_append]
    rw [replaceFrom, none, ← h.joined]
  clean := .char ne h.clean
  sameTags := h.sameTags

theorem token {key : Text} {value : Value}
    (found : entries.find? (fun e => (Property.token e.1).isPrefixOf (Property.token key ++ join rest)) =
      some (key, value))
    (braceless : '\x7b' ∉ value.onPage) (h : Fills entries rest filled) :
    Fills entries ((Property.token key).map .char ++ rest) (value.onPage.map .char ++ filled) where
  joined := by
    rw [join_append, join_append, join_chars, join_chars, replaceFrom_token found, h.joined]
  clean := (Clean.chars braceless).append h.clean
  sameTags := by simp [h.sameTags]

end Fills

theorem exists_fills (braceless : Braceless entries) (pieces : List Piece) (h : Clean pieces) :
    ∃ filled, Fills entries pieces filled := by
  -- Tokens stand outside the tags, and their values bring no brace that could form a tag.
  -- A token takes up several pieces, so the induction is on their number.
  induction size : pieces.length using Nat.strongRecOn generalizing pieces with
  | ind n ih =>
      have later (rest : List Piece) (clean : Clean rest) (shorter : rest.length < n) :
          ∃ filled, Fills entries rest filled := ih _ shorter rest clean rfl
      subst size
      cases h with
      | nil => exact ⟨[], rfl, .nil, rfl⟩
      | @tag t rest isTag clean =>
          obtain ⟨filled, fills⟩ := later rest clean (Nat.lt_succ_self _)
          exact ⟨_, fills.tag isTag⟩
      | @brace c rest ne nd clean =>
          obtain ⟨filled, fills⟩ := later rest clean (Nat.lt_add_of_pos_right Nat.two_pos)
          exact ⟨_, fills.brace ne nd⟩
      | @char c rest ne clean =>
          cases found : entries.find? (fun e => (Property.token e.1).isPrefixOf (c :: join rest)) with
          | none =>
              obtain ⟨filled, fills⟩ := later rest clean (Nat.lt_succ_self _)
              exact ⟨_, fills.char ne found⟩
          | some entry =>
              obtain ⟨key, value⟩ := entry
              obtain ⟨noKey, noValue⟩ := braceless _ (List.mem_of_find?_eq_some found)
              have starts := (List.find?_eq_some_iff_append.1 found).1
              obtain ⟨more, start⟩ := List.isPrefixOf_iff_prefix.1 starts
              obtain ⟨rest', split, clean', rfl⟩ := chars_of_token noKey (.char ne clean) start.symm
              have shorter : rest'.length < (Piece.char c :: rest).length := by
                rw [split, List.length_append, List.length_map]
                exact Nat.lt_add_of_pos_left (Nat.succ_pos _)
              obtain ⟨filled, fills⟩ := later rest' clean' shorter
              rw [split]
              exact ⟨_, fills.token (start ▸ found) noValue⟩

end Interpolation

theorem interpolate_clean {props : Properties} (braceless : Interpolation.Braceless props.entries)
    {s : Text} (h : isClean s = true) :
    isClean (interpolate props s) = true ∧ Tag.occurrences (interpolate props s) = Tag.occurrences s := by
  have sorted : Interpolation.Braceless (Interpolation.longestFirst props) :=
    fun e he => braceless e (Interpolation.mem_longestFirst.1 he)
  obtain ⟨filled, fills⟩ := Interpolation.exists_fills sorted _ (isClean_iff.1 h)
  have joined := fills.joined
  rw [join_split] at joined
  rw [interpolate, joined]
  refine ⟨fills.clean.isClean_join, ?_⟩
  rw [occurrences_eq_tags, occurrences_eq_tags, split_join fills.clean, fills.sameTags]

end PageComposer
