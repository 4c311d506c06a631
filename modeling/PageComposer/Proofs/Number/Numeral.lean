import Mathlib.Data.List.Induction
import PageComposer.Number.Numeral
import PageComposer.Proofs.Number.Rounding
import PageComposer.Proofs.Tag.Grammar

/-!
# Reading numerals

Digits without a leading zero are the numeral of their value (`ofNat_value`). A sign, digits, a point and an
exponent are each read for what they are (`readInteger_signed`, `decimal?_whole`, `decimal?_point`), and the
digits of `shortest` stand for the magnitude that they were found for (`standsFor_shortest`).
-/

namespace PageComposer

theorem Text.exists_eq_dropEndWhile_append (p : Char → Bool) (s : Text) :
    ∃ tail, s = dropEndWhile p s ++ tail ∧ ∀ c ∈ tail, p c = true := by
  refine ⟨(s.reverse.takeWhile p).reverse, ?_, fun c hc => ?_⟩
  · rw [dropEndWhile, ← List.reverse_append, List.takeWhile_append_dropWhile, List.reverse_reverse]
  · exact List.mem_takeWhile_imp (List.mem_reverse.1 hc)

theorem Text.getLast?_dropEndWhile (p : Char → Bool) (s : Text) : ∀ c ∈ (dropEndWhile p s).getLast?, p c = false := by
  intro c last
  rw [dropEndWhile, List.getLast?_reverse] at last
  have stop := List.head?_dropWhile_not p s.reverse
  rw [last] at stop
  simpa using stop

namespace Numeral

theorem value_append (s t : Text) : value (s ++ t) = value s * 10 ^ t.length + value t := by
  rw [value, Nat.ofDigitChars_append, Nat.ofDigitChars_eq_ofDigitChars_zero, Nat.mul_comm]
  rfl

theorem value_of_zeros {s : Text} (zeros : ∀ c ∈ s, c = '0') : value s = 0 := by
  induction s with
  | nil => rfl
  | cons c s ih =>
      obtain ⟨rfl, later⟩ := List.forall_mem_cons.1 zeros
      exact ih later

theorem value_ofNat (n : Nat) : value (Text.ofNat n) = n := Nat.ofDigitChars_ten_toDigits

theorem isDigits_iff {s : Text} : isDigits s = true ↔ s ≠ [] ∧ ∀ c ∈ s, c.isDigit = true := by
  simp [isDigits]

theorem digits_ofNat (n : Nat) : ∀ c ∈ Text.ofNat n, c.isDigit = true :=
  fun _ hc => Nat.isDigit_of_mem_toDigits (by decide) (by decide) hc

theorem isDigits_ofNat (n : Nat) : isDigits (Text.ofNat n) = true :=
  isDigits_iff.2 ⟨Nat.toDigits_ne_nil, digits_ofNat n⟩

theorem head_ofNat {n : Nat} (hn : n ≠ 0) : (Text.ofNat n).head? ≠ some '0' := by
  induction n using Nat.strongRecOn with
  | ind n ih =>
      rw [Text.ofNat, Nat.toDigits_eq_if (by decide)]
      split
      · rename_i small
        have digit : ∀ m < 10, m ≠ 0 → Nat.digitChar m ≠ '0' := by decide
        simpa using digit n small hn
      · rename_i large
        rw [List.head?_append_of_ne_nil _ Nat.toDigits_ne_nil]
        exact ih (n / 10) (by omega) (by omega)

theorem digitChar_value {c : Char} (digit : c.isDigit = true) :
    value [c] < 10 ∧ Nat.digitChar (value [c]) = c := by
  have code : 48 ≤ c.toNat ∧ c.toNat ≤ 57 := by
    delta Char.isDigit at digit
    simpa [UInt32.le_iff_toNat_le] using digit
  have chars : ∀ n < 10, Nat.digitChar n = Char.ofNat (48 + n) := by decide
  have here : value [c] = c.toNat - 48 := by simp [value, Nat.ofDigitChars]
  rw [here]
  refine ⟨by omega, ?_⟩
  rw [chars _ (by omega), Nat.add_sub_cancel' code.1, Char.ofNat_toNat]

theorem ofNat_value {s : Text} (digits : isDigits s = true) (lead : s.head? ≠ some '0') :
    Text.ofNat (value s) = s := by
  induction s using List.reverseRecOn with
  | nil => cases digits
  | append_singleton s c ih =>
      obtain ⟨-, all⟩ := isDigits_iff.1 digits
      obtain ⟨small, same⟩ := digitChar_value (all c (by simp))
      cases s with
      | nil =>
          rw [List.nil_append, Text.ofNat, Nat.toDigits_of_lt_base small, same]
      | cons d s =>
          have before : Text.ofNat (value (d :: s)) = d :: s :=
            ih (isDigits_iff.2 ⟨by simp, fun e he => all e (List.mem_append_left _ he)⟩) lead
          have positive : value (d :: s) ≠ 0 := by
            intro zero
            rw [zero] at before
            rw [List.head?_append, ← before] at lead
            exact lead rfl
          have value' : value (d :: s ++ [c]) = value (d :: s) * 10 + value [c] := value_append _ _
          have quotient : value (d :: s ++ [c]) / 10 = value (d :: s) := by omega
          have remainder : value (d :: s ++ [c]) % 10 = value [c] := by omega
          rw [Text.ofNat, Nat.toDigits_of_base_le (by decide) (by omega), quotient, remainder, same]
          exact congrArg (· ++ [c]) before

theorem length_ofNat_value {s : Text} (nonempty : s ≠ []) (digits : ∀ c ∈ s, c.isDigit = true) :
    (Text.ofNat (value s)).length ≤ s.length := by
  rw [Text.ofNat, Nat.length_toDigits_le_iff (by decide) (List.length_pos_of_ne_nil nonempty)]
  clear nonempty
  induction s using List.reverseRecOn with
  | nil => decide
  | append_singleton s c ih =>
      obtain ⟨small, -⟩ := digitChar_value (digits c (by simp))
      have before := ih fun d hd => digits d (List.mem_append_left _ hd)
      rw [value_append, List.length_append, List.length_singleton, pow_succ]
      omega

def signed (negative : Bool) (s : Text) : Text := (if negative then ['-'] else []) ++ s

theorem sign_of_digit {c : Char} {s : Text} (digit : c.isDigit = true) : sign (c :: s) = (false, c :: s) := by
  unfold sign
  split
  · rename_i h
    cases h
    cases digit
  · rename_i h
    cases h
    cases digit
  · rfl

theorem sign_signed (negative : Bool) {s : Text} (lead : ∀ c ∈ s.head?, c.isDigit = true) (nonempty : s ≠ []) :
    sign (signed negative s) = (negative, s) := by
  obtain ⟨c, s, rfl⟩ := List.exists_cons_of_ne_nil nonempty
  cases negative with
  | true => rfl
  | false => exact sign_of_digit (lead c rfl)

theorem sign_digits (negative : Bool) {s : Text} (digits : isDigits s = true) :
    sign (signed negative s) = (negative, s) := by
  obtain ⟨nonempty, all⟩ := isDigits_iff.1 digits
  exact sign_signed negative (fun c hc => all c (List.mem_of_mem_head? hc)) nonempty

theorem isInteger_signed (negative : Bool) {s : Text} (digits : isDigits s = true) :
    isInteger (signed negative s) = true := by
  rw [isInteger, sign_digits negative digits]
  exact digits

theorem readInteger_signed (negative : Bool) {s : Text} (digits : isDigits s = true)
    (short : s.length ≤ digitLimit) :
    readInteger (signed negative s) = .ok (if negative then -(value s : Int) else value s) := by
  rw [readInteger, sign_digits negative digits]
  exact if_neg (Nat.not_lt.2 short)

theorem not_isInteger_signed (negative : Bool) {s : Text} (lead : ∀ c ∈ s.head?, c.isDigit = true)
    {c : Char} (member : c ∈ s) (other : c.isDigit = false) : isInteger (signed negative s) = false := by
  rw [isInteger, sign_signed negative lead (List.ne_nil_of_mem member)]
  by_contra digits
  have digit := (isDigits_iff.1 (by simpa using digits)).2 c member
  rw [other] at digit
  cases digit

theorem ofInt_eq_signed (n : Int) : Text.ofInt n = signed (n < 0) (Text.ofNat n.natAbs) := by
  cases n with
  | ofNat n => rfl
  | negSucc n =>
      rw [decide_eq_true (Int.negSucc_lt_zero n)]
      rfl

theorem ofInt_signed (negative : Bool) {s : Text} (digits : isDigits s = true) (lead : s.head? ≠ some '0') :
    Text.ofInt (if negative then -(value s : Int) else value s) = signed negative s := by
  have same := ofNat_value digits lead
  have positive : value s ≠ 0 := by
    intro zero
    rw [zero] at same
    rw [← same] at lead
    exact lead rfl
  cases negative with
  | false => exact same
  | true =>
      have below : (-(value s : Int)) < 0 := by omega
      rw [if_pos rfl, ofInt_eq_signed, Int.natAbs_neg, Int.natAbs_natCast, same, decide_eq_true below]

theorem takeWhile_digits {s rest : Text} (digits : ∀ c ∈ s, c.isDigit = true)
    (stop : ∀ c ∈ rest.head?, c.isDigit = false) :
    (s ++ rest).takeWhile Char.isDigit = s ∧ (s ++ rest).dropWhile Char.isDigit = rest := by
  have taken := Tag.takeWhile_append_stop digits stop
  refine ⟨taken, ?_⟩
  rw [← Tag.drop_length_takeWhile, taken, List.drop_left]

theorem head_append {p : Char → Prop} {s t : Text} (nonempty : s ≠ []) (all : ∀ c ∈ s, p c) :
    ∀ c ∈ (s ++ t).head?, p c := by
  obtain ⟨d, s, rfl⟩ := List.exists_cons_of_ne_nil nonempty
  intro c hc
  cases hc
  exact all d (by simp)

variable {whole fraction tail : Text}

theorem decimal?_whole (negative : Bool) (digits : isDigits whole = true)
    (stop : ∀ c ∈ tail.head?, c.isDigit = false ∧ c ≠ '.') :
    decimal? (signed negative (whole ++ tail)) =
      (exponent? tail).map fun e => ⟨negative, Binary64.ofDecimal (value whole) e⟩ := by
  obtain ⟨nonempty, all⟩ := isDigits_iff.1 digits
  have signs := sign_signed negative (head_append (t := tail) nonempty all) (by simp [nonempty])
  obtain ⟨taken, dropped⟩ := takeWhile_digits all fun c hc => (stop c hc).1
  have noPoint : ∀ more, tail ≠ '.' :: more := by
    rintro more rfl
    exact (stop '.' rfl).2 rfl
  have filled : whole.isEmpty = false := by simpa using nonempty
  simp [decimal?, signs, taken, dropped, filled]

theorem decimal?_point (negative : Bool) (digits : isDigits whole = true)
    (digits' : ∀ c ∈ fraction, c.isDigit = true) (stop : ∀ c ∈ tail.head?, c.isDigit = false) :
    decimal? (signed negative (whole ++ '.' :: (fraction ++ tail))) = (exponent? tail).map fun e =>
      ⟨negative, Binary64.ofDecimal (value (whole ++ fraction)) (e - fraction.length)⟩ := by
  obtain ⟨nonempty, all⟩ := isDigits_iff.1 digits
  have signs := sign_signed negative (head_append (t := '.' :: (fraction ++ tail)) nonempty all)
    (by simp [nonempty])
  have point : ∀ c ∈ ('.' :: (fraction ++ tail)).head?, c.isDigit = false := by simp
  obtain ⟨taken, dropped⟩ := takeWhile_digits all point
  obtain ⟨taken', dropped'⟩ := takeWhile_digits digits' stop
  have filled : whole.isEmpty = false := by simpa using nonempty
  simp [decimal?, signs, taken, dropped, taken', dropped', filled]

end Numeral

structure Digits.StandsFor (d : Digits) (code : Nat) : Prop where
  digits : Numeral.isDigits d.digits = true
  lead : d.digits.head? ≠ some '0'
  reads : Binary64.ofDecimal (Numeral.value d.digits) (d.point - d.digits.length) = code

namespace Binary64
open Numeral
variable {code : Nat}

theorem decimal_ne_zero (positive : code ≠ 0) (finite : code < infinityCode) : (decimal code).1 ≠ 0 := by
  intro zero
  have reads := ofDecimal_decimal finite
  rw [zero] at reads
  exact positive (by simpa [ofDecimal] using reads.symm)

theorem shortest_eq (nonzero : (decimal code).1 ≠ 0) : ∃ s t : Nat, (decimal code).1 = s * 10 ^ t ∧ s % 10 ≠ 0 ∧
    shortest code = ⟨Text.ofNat s, (Text.ofNat s).length + t + (decimal code).2⟩ := by
  unfold shortest
  generalize decimal code = number at nonzero ⊢
  obtain ⟨c, e⟩ := number
  dsimp only at nonzero ⊢
  obtain ⟨zeros, split, allZero⟩ := Text.exists_eq_dropEndWhile_append (· == '0') (Text.ofNat c)
  have stripped := Text.getLast?_dropEndWhile (· == '0') (Text.ofNat c)
  generalize Text.dropEndWhile (· == '0') (Text.ofNat c) = digits at split stripped ⊢
  have number : c = value digits * 10 ^ zeros.length := by
    have noRest : value zeros = 0 := value_of_zeros fun d hd => by simpa using allZero d hd
    have whole := value_append digits zeros
    rwa [← split, value_ofNat, noRest, Nat.add_zero] at whole
  have nonempty : digits ≠ [] := by
    rintro rfl
    exact nonzero (by simpa [value] using number)
  have all : ∀ d ∈ digits, d.isDigit = true := fun d hd => digits_ofNat c d (split ▸ List.mem_append_left zeros hd)
  have lead := head_ofNat nonzero
  rw [split, List.head?_append_of_ne_nil _ nonempty] at lead
  have same : Text.ofNat (value digits) = digits := ofNat_value (isDigits_iff.2 ⟨nonempty, all⟩) lead
  refine ⟨value digits, zeros.length, number, fun zero => ?_, ?_⟩
  · obtain ⟨init, last, rfl⟩ := (List.eq_nil_or_concat' digits).resolve_left nonempty
    obtain ⟨small, char⟩ := digitChar_value (all last (by simp))
    have ends : value (init ++ [last]) = value init * 10 + value [last] := value_append _ _
    have noValue : value [last] = 0 := by omega
    rw [noValue] at char
    have notZero := stripped last (by simp)
    rw [← char] at notZero
    exact absurd notZero (by decide)
  · rw [same, split, List.length_append, Nat.cast_add]

theorem standsFor_shortest (positive : code ≠ 0) (finite : code < infinityCode) : (shortest code).StandsFor code := by
  obtain ⟨s, t, number, last, same⟩ := shortest_eq (decimal_ne_zero positive finite)
  have reads := ofDecimal_decimal finite
  rw [number, ofDecimal_mul_pow] at reads
  have nonzero : s ≠ 0 := by
    rintro rfl
    exact last rfl
  have place : (Text.ofNat s).length + t + (decimal code).2 - (Text.ofNat s).length = (decimal code).2 + t := by omega
  rw [same]
  refine ⟨isDigits_ofNat s, head_ofNat nonzero, ?_⟩
  dsimp only
  rw [value_ofNat, place, reads]

end Binary64
end PageComposer
