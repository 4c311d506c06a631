import PageComposer.Proofs.Number.Pointed
import PageComposer.Proofs.Value.OnPage
import PageComposer.Yaml.Scalar

/-!
# Reading numbers

A number with a point is a number without a tag (`ofPlain_pointed`), and its value is what its digits stand for
(`readNumber_pointed`).
-/

namespace PageComposer

theorem Text.trim_of_none {p : Char → Bool} {s : Text} (none : ∀ c ∈ s, p c = false) : trim p s = s := by
  have kept (t : Text) (none : ∀ c ∈ t, p c = false) : t.dropWhile p = t := by
    cases t with
    | nil => rfl
    | cons c t => exact List.dropWhile_cons_of_neg (by simp [none c])
  rw [trim, kept s none, dropEndWhile, kept _ fun c hc => none c (List.mem_reverse.1 hc), List.reverse_reverse]

theorem Text.dropTail_of_not_mem {c : Char} {s : Text} (other : c ∉ s) : dropTail [c] s = s := by
  refine if_neg fun suffix => other ?_
  obtain ⟨lead, rfl⟩ := List.isSuffixOf_iff_suffix.1 suffix
  simp

namespace Numeral

variable {code : Nat} {s : Text}

theorem numeric_digits {s : Text} (digits : isDigits s = true) : Numeric s := by
  intro c hc
  simp [isNumeric, (isDigits_iff.1 digits).2 c hc]

theorem IsPointed.numeric (pointed : IsPointed code s) : Numeric s := by
  obtain @⟨whole, fraction, tail, e, digits, digits', ending, -⟩ := pointed
  have tail' : Numeric tail := by
    cases ending with
    | nothing => exact .of_all rfl
    | exponent layout => exact layout.numeric_exponent _
  exact (numeric_digits digits).append (.cons rfl ((numeric_digits digits').append tail'))

theorem IsPointed.head (pointed : IsPointed code s) : ∃ c rest, s = c :: rest ∧ c.isDigit = true := by
  obtain @⟨whole, fraction, tail, e, digits, -, -, -⟩ := pointed
  obtain ⟨nonempty, all⟩ := isDigits_iff.1 digits
  obtain ⟨c, whole, rfl⟩ := List.exists_cons_of_ne_nil nonempty
  exact ⟨c, _, rfl, all c (by simp)⟩

theorem IsPointed.sign (pointed : IsPointed code s) : sign s = (false, s) := by
  obtain ⟨c, rest, rfl, digit⟩ := pointed.head
  exact sign_of_digit digit

theorem IsPointed.ne {w : Text} (pointed : IsPointed code s) (other : (w.headD ' ').isDigit = false) : s ≠ w := by
  obtain ⟨c, rest, rfl, digit⟩ := pointed.head
  rintro rfl
  rw [List.headD_cons, digit] at other
  cases other

theorem range_of_isNumeric {c : Char} (numeric : isNumeric c = true) : 43 ≤ c.toNat ∧ c.toNat ≤ 57 ∨ c = 'e' := by
  simp only [isNumeric, Bool.or_eq_true, beq_iff_eq] at numeric
  rcases numeric with (((digit | rfl) | rfl) | rfl) | rfl
  · delta Char.isDigit at digit
    have code : 48 ≤ c.toNat ∧ c.toNat ≤ 57 := by simpa [UInt32.le_iff_toNat_le] using digit
    omega
  · exact .inl (by decide)
  · exact .inl (by decide)
  · exact .inl (by decide)
  · exact .inr rfl

theorem toLower_of_isNumeric {c : Char} (numeric : isNumeric c = true) : c.toLower = c := by
  rcases range_of_isNumeric numeric with range | rfl
  · refine dif_neg fun upper => ?_
    have below : 65 ≤ c.toNat := upper.1
    omega
  · decide

theorem toNat_of_isNumeric {c : Char} (numeric : isNumeric c = true) : c.toNat < 0x80 := by
  rcases range_of_isNumeric numeric with range | rfl
  · omega
  · decide

theorem isAsciiBlank_of_isNumeric {c : Char} (numeric : isNumeric c = true) : Text.isAsciiBlank c = false := by
  by_contra blank
  simp only [Text.isAsciiBlank, Bool.not_eq_false, Bool.or_eq_true, beq_iff_eq, Bool.and_eq_true,
    decide_eq_true_eq] at blank
  rcases blank with rfl | range'
  · cases numeric
  · rcases range_of_isNumeric numeric with range | rfl
    · omega
    · exact absurd range'.2 (by decide)

end Numeral

namespace Yaml
open Numeral

variable {code : Nat} {s : Text}

theorem numberOfWord?_pointed (pointed : IsPointed code s) : Settings.numberOfWord? s = some ⟨false, code⟩ := by
  have same : s.map Char.toLower = s :=
    (List.map_congr_left fun c hc => toLower_of_isNumeric (pointed.numeric c hc)).trans (List.map_id s)
  have noWord : ¬ (s = "inf".toList ∨ s = "infinity".toList) := not_or.2 ⟨pointed.ne rfl, pointed.ne rfl⟩
  rw [Settings.numberOfWord?, pointed.sign]
  dsimp only
  rw [same, if_neg noWord, if_neg (pointed.ne rfl)]
  exact pointed.decimal? false

theorem readNumber_pointed (pointed : IsPointed code s) : readNumber s = .ok (.number ⟨false, code⟩) := by
  have numeric := pointed.numeric
  have other (c : Char) (other : isNumeric c = false) : c ∉ s := by
    intro member
    rw [numeric c member] at other
    cases other
  have filtered : s.filter (· != '_') = s := List.filter_eq_self.2 fun c hc => by
    have noMark : c ≠ '_' := fun same => other '_' rfl (same ▸ hc)
    simpa using noMark
  have same : s.map Char.toLower = s :=
    (List.map_congr_left fun c hc => toLower_of_isNumeric (numeric c hc)).trans (List.map_id s)
  have ascii : Text.asciiNumeral s = s :=
    (List.map_congr_left fun c hc => if_pos (toNat_of_isNumeric (numeric c hc))).trans (List.map_id s)
  have bare : bareNumeral s = s := by
    rw [bareNumeral, ascii]
    exact Text.trim_of_none fun c hc => isAsciiBlank_of_isNumeric (numeric c hc)
  have number : numberOf s = .ok ⟨false, code⟩ := by
    have noColon : s.contains ':' = false := by simpa using other ':' rfl
    rw [numberOf, if_neg (pointed.ne rfl), if_neg (pointed.ne rfl), noColon, if_neg Bool.false_ne_true, numberIn, bare,
      numberOfWord?_pointed pointed]
  obtain ⟨c, rest, split, -⟩ := pointed.head
  rw [readNumber, filtered, same]
  split
  · cases split
  · rw [pointed.sign]
    dsimp only
    rw [number]
    rfl

theorem isExponent_ending {tail : Text} {e : Int} (ending : Ending tail e) : Kind.isExponent tail = true := by
  cases ending with
  | nothing => rfl
  | exponent layout =>
      have digits := Layout.digits_padLeft layout.exponentWidth e.natAbs
      simp only [Layout.exponent, Kind.isExponent, digits]
      split <;> rfl

theorem isPointed_pointed (pointed : IsPointed code s) : Kind.isPointed s = true := by
  have ⟨c, rest, split, digit⟩ := pointed.head
  obtain @⟨whole, fraction, tail, e, digits, digits', ending, -⟩ := pointed
  have inner {t : Text} (digits : isDigits t = true) : ∀ d ∈ t, Kind.isDigitOrLow d = true := fun d hd => by
    rw [Kind.isDigitOrLow, (isDigits_iff.1 digits).2 d hd]
    rfl
  have exponent : Kind.isExponent (tail.dropWhile Kind.isDigitOrLow) = true := by
    have kept : tail.dropWhile Kind.isDigitOrLow = tail := by cases ending <;> rfl
    rw [kept]
    exact isExponent_ending ending
  have ahead : (whole ++ '.' :: (fraction ++ tail)).dropWhile Kind.isDigitOrLow = '.' :: (fraction ++ tail) :=
    List.dropWhile_append_of_pos (inner digits)
  have behind : (fraction ++ tail).dropWhile Kind.isDigitOrLow = tail.dropWhile Kind.isDigitOrLow :=
    List.dropWhile_append_of_pos (inner digits')
  rw [Kind.isPointed, ahead]
  refine Bool.and_eq_true_iff.2 ⟨?_, ?_⟩
  · rw [split]
    exact digit
  · rw [behind]
    exact exponent

theorem ofPlain_pointed (pointed : IsPointed code s) : Kind.ofPlain s = .number := by
  have noLine : '\n' ∉ s := fun member => by cases pointed.numeric _ member
  have noFlag : Kind.flagWords.contains s = false := by
    have letters : Kind.flagWords.all (fun w => !(w.headD ' ').isDigit) = true := rfl
    by_contra flag
    have member := List.contains_iff_mem.1 (Bool.not_eq_false _ ▸ flag : Kind.flagWords.contains s = true)
    exact pointed.ne (by simpa using List.all_eq_true.1 letters s member) rfl
  have number : Kind.isNumber s = true := by
    rw [Kind.isNumber, pointed.sign, isPointed_pointed pointed]
    rfl
  rw [Kind.ofPlain, if_neg (pointed.ne rfl), Text.dropTail_of_not_mem noLine, Kind.ofForm, noFlag, number]
  rfl

end Yaml
end PageComposer
