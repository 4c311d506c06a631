import Mathlib.Data.List.TakeWhile
import PageComposer.Tag

/-!
# The grammar of tags

`atStart?_eq_some_iff`: a text starts with a tag exactly if it starts with the written form of a name
and a clause that fit. A tag is therefore found wherever it stands, whatever follows it.
-/

namespace PageComposer.Tag

theorem isBlank_of_isNameChar {c : Char} (h : isNameChar c = true) : Text.isBlank c = false := by
  have code : 45 ≤ c.toNat ∧ c.toNat ≤ 122 := by
    delta isNameChar Char.isAlphanum Char.isAlpha Char.isUpper Char.isLower Char.isDigit at h
    simp only [Bool.or_eq_true, Bool.and_eq_true, decide_eq_true_eq, beq_iff_eq, UInt32.le_iff_toNat_le,
      ge_iff_le] at h
    change ((((((65 ≤ c.toNat ∧ c.toNat ≤ 90) ∨ (97 ≤ c.toNat ∧ c.toNat ≤ 122)) ∨
      (48 ≤ c.toNat ∧ c.toNat ≤ 57)) ∨ c = '_') ∨ c = '/') ∨ c = '-') at h
    rcases h with (((((h | h) | h) | rfl) | rfl) | rfl)
    · omega
    · omega
    · omega
    all_goals decide
  simp [Text.isBlank, Text.inRanges, Text.blankRanges]
  omega

theorem isBrace_of_isNameChar {c : Char} (h : isNameChar c = true) : isBrace c = false := by
  by_contra brace
  simp only [isBrace, Bool.not_eq_false, Bool.or_eq_true, beq_iff_eq] at brace
  rcases brace with rfl | rfl <;> exact absurd h (by decide)

def Braceless (s : Text) : Prop := ∀ c ∈ s, isBrace c = false

theorem braceless_of_all {s : Text} (h : s.all (!isBrace ·) = true) : Braceless s := by
  simpa [Braceless] using h

theorem Braceless.append {s t : Text} (hs : Braceless s) (ht : Braceless t) : Braceless (s ++ t) :=
  List.forall_mem_append.2 ⟨hs, ht⟩

theorem Braceless.cons {c : Char} {s : Text} (hc : isBrace c = false) (hs : Braceless s) : Braceless (c :: s) :=
  List.forall_mem_cons.2 ⟨hc, hs⟩

structure Fits (name clause : Text) : Prop where
  named : name ≠ []
  nameChars : ∀ c ∈ name, isNameChar c = true
  braceless : Braceless clause
  apart : ∀ c ∈ clause.head?, Text.isBlank c = true

def written (name clause : Text) : Text := opening ++ (name ++ (clause ++ closing))

theorem takeWhile_append_stop {p : Char → Bool} {s rest : Text} (inside : ∀ c ∈ s, p c = true)
    (stop : ∀ c ∈ rest.head?, p c = false) : (s ++ rest).takeWhile p = s := by
  rw [List.takeWhile_append_of_pos inside]
  cases rest with
  | nil => simp
  | cons c rest => simp [stop c rfl]

theorem drop_length_takeWhile (p : Char → Bool) (s : Text) :
    s.drop (s.takeWhile p).length = s.dropWhile p := by
  induction s with
  | nil => rfl
  | cons c s ih => by_cases h : p c = true <;> simp [h, ih]

theorem clause?_append {clause : Text} (braceless : Braceless clause)
    (apart : ∀ c ∈ clause.head?, Text.isBlank c = true) (rest : Text) :
    clause? (clause ++ (closing ++ rest)) = some (clause ++ closing) := by
  have body : (clause ++ (closing ++ rest)).takeWhile (!isBrace ·) = clause :=
    takeWhile_append_stop (by simpa [Braceless] using braceless) (by simp [closing, isBrace])
  have first : (clause.isEmpty || clause.head?.any Text.isBlank) = true := by
    cases clause with
    | nil => rfl
    | cons c clause => simpa using apart c rfl
  simp [clause?, body, first]

theorem clause?_eq_some {s t : Text} (h : clause? s = some t) :
    ∃ clause, Braceless clause ∧ (∀ c ∈ clause.head?, Text.isBlank c = true) ∧
      t = clause ++ closing ∧ t <+: s := by
  unfold clause? at h
  simp only [Option.ite_none_right_eq_some, Bool.and_eq_true, Option.some.injEq] at h
  obtain ⟨⟨closed, first⟩, rfl⟩ := h
  refine ⟨_, fun c hc => by simpa using List.mem_takeWhile_imp hc, ?_, rfl, ?_⟩
  · intro c hc
    rw [Option.mem_def] at hc
    have nonempty : s.takeWhile (!isBrace ·) ≠ [] := by
      intro empty
      simp [empty] at hc
    simpa [nonempty, hc] using first
  · obtain ⟨rest, hr⟩ := List.isPrefixOf_iff_prefix.1 closed
    rw [drop_length_takeWhile] at hr
    exact ⟨rest, by rw [List.append_assoc, hr, List.takeWhile_append_dropWhile]⟩

theorem atStart?_append {name clause : Text} (fits : Fits name clause) (rest : Text) :
    atStart? (written name clause ++ rest) = some (written name clause) := by
  have behind : ∀ c ∈ (clause ++ (closing ++ rest)).head?, isNameChar c = false := by
    intro c hc
    cases clause with
    | nil =>
        cases hc
        decide
    | cons d clause =>
        cases hc
        have blank := fits.apart c rfl
        by_contra named
        rw [isBlank_of_isNameChar (by simpa using named)] at blank
        cases blank
  have run : (name ++ (clause ++ (closing ++ rest))).takeWhile isNameChar = name :=
    takeWhile_append_stop fits.nameChars behind
  have cut := clause?_append fits.braceless fits.apart
  have nonempty : name.isEmpty = false := by simpa using fits.named
  simp [atStart?, written, opening, run, nonempty, cut]

theorem atStart?_eq_some_iff {s t : Text} :
    atStart? s = some t ↔ ∃ name clause, Fits name clause ∧ t = written name clause ∧ t <+: s := by
  constructor
  · intro h
    unfold atStart? at h
    split at h
    · rename_i opened
      obtain ⟨rest, rfl⟩ := List.isPrefixOf_iff_prefix.1 opened
      simp only [List.drop_left, drop_length_takeWhile] at h
      split at h
      · cases h
      · rename_i named
        obtain ⟨u, hu, rfl⟩ := Option.map_eq_some_iff.1 h
        obtain ⟨clause, braceless, apart, rfl, more, hm⟩ := clause?_eq_some hu
        refine ⟨rest.takeWhile isNameChar, clause, ⟨by simpa using named, ?_, braceless, apart⟩, ?_, more, ?_⟩
        · exact fun c hc => List.mem_takeWhile_imp hc
        · simp [written]
        · simp only [List.append_assoc] at hm ⊢
          rw [hm, List.takeWhile_append_dropWhile]
    · cases h
  · rintro ⟨name, clause, fits, rfl, rest, rfl⟩
    exact atStart?_append fits rest

def IsTag (t : Text) : Prop := ∃ name clause, Fits name clause ∧ t = written name clause

theorem isTag_of_atStart? {s t : Text} (h : atStart? s = some t) : IsTag t := by
  obtain ⟨name, clause, fits, same, -⟩ := atStart?_eq_some_iff.1 h
  exact ⟨name, clause, fits, same⟩

theorem prefix_of_atStart? {s t : Text} (h : atStart? s = some t) : t <+: s := by
  obtain ⟨-, -, -, -, start⟩ := atStart?_eq_some_iff.1 h
  exact start

theorem IsTag.atStart?_append {t : Text} (tag : IsTag t) (rest : Text) :
    atStart? (t ++ rest) = some t := by
  obtain ⟨name, clause, fits, rfl⟩ := tag
  exact Tag.atStart?_append fits rest

theorem IsTag.eq_opening_append {t : Text} (tag : IsTag t) :
    ∃ c rest, t = '\x7b' :: '\x7b' :: c :: rest ∧ '\x7b' ∉ c :: rest := by
  obtain ⟨name, clause, fits, rfl⟩ := tag
  obtain ⟨c, name, rfl⟩ := List.exists_cons_of_ne_nil fits.named
  refine ⟨c, name ++ (clause ++ closing), rfl, ?_⟩
  have inName : '\x7b' ∉ c :: name := fun h => absurd (fits.nameChars _ h) (by decide)
  have inClause : '\x7b' ∉ clause := fun h => absurd (fits.braceless _ h) (by decide)
  simp only [← List.cons_append, List.mem_append, not_or]
  exact ⟨inName, inClause, by decide⟩

theorem IsTag.eq_append_closing {t : Text} (tag : IsTag t) :
    ∃ s, t = '\x7b' :: '\x7b' :: (s ++ ['\x7d']) ∧ '\x7b' ∉ s := by
  obtain ⟨name, clause, fits, rfl⟩ := tag
  refine ⟨name ++ (clause ++ ['\x7d']), by simp [written, opening, closing], ?_⟩
  have inName : '\x7b' ∉ name := fun h => absurd (fits.nameChars _ h) (by decide)
  have inClause : '\x7b' ∉ clause := fun h => absurd (fits.braceless _ h) (by decide)
  simp [inName, inClause]

end PageComposer.Tag
