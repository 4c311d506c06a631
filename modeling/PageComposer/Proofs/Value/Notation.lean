import PageComposer.Proofs.Number.Pointed
import PageComposer.Proofs.Number.Shortest
import PageComposer.Value

/-!
# How numbers are written on a page

`NumberText` says how JavaScript's `Number::toString` writes a finite number: by the shortest digits that stand for
it, in one of the five forms of `DigitsText`. A page has the same text for all numbers but those that are `Shortened`,
which are whole numbers from `2 ^ 53` to below `10 ^ 21` with more digits than it takes to tell them apart
(`numberText_onPage_iff`). A page gives all digits of these.
-/

namespace PageComposer
open Numeral

namespace JavaScript

def mantissa (c : Char) (rest : Text) : Text := if rest = [] then [c] else c :: '.' :: rest

/-- The forms of digits `d₁…dₖ` with the value `0.d₁…dₖ * 10 ^ point`, by the place of the point. -/
inductive DigitsText : Digits → Text → Prop
  | whole {digits : Text} {zeros : Nat} : digits ≠ [] → digits.length + zeros ≤ 21 →
      DigitsText ⟨digits, (digits.length + zeros : Nat)⟩ (digits ++ List.replicate zeros '0')
  | pointed {before after : Text} : before ≠ [] → after ≠ [] → before.length ≤ 21 →
      DigitsText ⟨before ++ after, before.length⟩ (before ++ '.' :: after)
  | fraction {digits : Text} {zeros : Nat} : digits ≠ [] → zeros < 6 →
      DigitsText ⟨digits, -zeros⟩ ('0' :: '.' :: (List.replicate zeros '0' ++ digits))
  | large {c : Char} {rest : Text} {e : Nat} : 21 ≤ e →
      DigitsText ⟨c :: rest, e + 1⟩ (mantissa c rest ++ 'e' :: '+' :: Text.ofNat e)
  | small {c : Char} {rest : Text} {e : Nat} : 7 ≤ e →
      DigitsText ⟨c :: rest, 1 - e⟩ (mantissa c rest ++ 'e' :: '-' :: Text.ofNat e)

/-- The text of a finite number. -/
inductive NumberText : Binary64 → Text → Prop
  | zero (negative : Bool) : NumberText ⟨negative, 0⟩ ['0']
  | digits {negative : Bool} {code : Nat} {d : Digits} {s : Text} : code ≠ 0 → d.IsShortest code → DigitsText d s →
      NumberText ⟨negative, code⟩ (Numeral.signed negative s)

theorem scientific_eq (c : Char) (rest : Text) (point : Int) :
    Value.pageLayout.scientific ⟨c :: rest, point⟩ = mantissa c rest ++ Value.pageLayout.exponent (point - 1) := by
  cases rest with
  | nil => rfl
  | cons d rest => simp [Layout.scientific, mantissa]

theorem exponent_eq (e : Int) :
    Value.pageLayout.exponent e = 'e' :: (if e < 0 then '-' else '+') :: Text.ofNat e.natAbs := by
  have length : 1 ≤ (Text.ofNat e.natAbs).length := List.length_pos_of_ne_nil Nat.toDigits_ne_nil
  have padding : 1 - (Text.ofNat e.natAbs).length = 0 := by omega
  simp [Layout.exponent, Value.pageLayout, Text.padLeft, padding]

theorem writeDigits_eq (digits : Text) (point : Int) : Value.pageLayout.writeDigits ⟨digits, point⟩ =
    if -6 < point ∧ point ≤ 21 then
      if point ≤ 0 then '0' :: '.' :: (List.replicate (-point).toNat '0' ++ digits)
      else if point < digits.length then digits.take point.toNat ++ '.' :: digits.drop point.toNat
      else digits ++ List.replicate (point - digits.length).toNat '0'
    else Value.pageLayout.scientific ⟨digits, point⟩ := by
  have noPoint : (if Value.pageLayout.wholePoint then ".0".toList else []) = [] := rfl
  rw [Layout.writeDigits, Layout.positional, noPoint, List.append_nil]
  rfl

theorem digitsText_writeDigits {d : Digits} (nonempty : d.digits ≠ []) :
    DigitsText d (Value.pageLayout.writeDigits d) := by
  obtain ⟨digits, point⟩ := d
  dsimp only at nonempty
  rw [writeDigits_eq]
  split
  · rename_i inside
    split
    · obtain ⟨zeros, rfl⟩ : ∃ zeros : Nat, point = -zeros := ⟨(-point).toNat, by omega⟩
      rw [neg_neg, Int.toNat_natCast]
      exact .fraction nonempty (by omega)
    · split
      · obtain ⟨n, rfl⟩ : ∃ n : Nat, point = n := ⟨point.toNat, by omega⟩
        rw [Int.toNat_natCast]
        have length : (digits.take n).length = n := List.length_take_of_le (by omega)
        have before : digits.take n ≠ [] := List.length_pos_iff.1 (by omega)
        have after : digits.drop n ≠ [] := List.length_pos_iff.1 (by rw [List.length_drop]; omega)
        have form := DigitsText.pointed before after (by omega)
        rwa [List.take_append_drop, length] at form
      · obtain ⟨zeros, rfl⟩ : ∃ zeros : Nat, point = (digits.length + zeros : Nat) :=
          ⟨(point - digits.length).toNat, by omega⟩
        rw [Int.natCast_add, add_sub_cancel_left, Int.toNat_natCast, ← Int.natCast_add]
        exact .whole nonempty (by omega)
  · rename_i outside
    obtain ⟨c, rest, rfl⟩ := List.exists_cons_of_ne_nil nonempty
    rw [scientific_eq, exponent_eq]
    split
    · obtain ⟨e, rfl⟩ : ∃ e : Nat, point = 1 - e := ⟨(1 - point).toNat, by omega⟩
      rw [show (1 - (e : Int) - 1).natAbs = e by omega]
      exact .small (by omega)
    · obtain ⟨e, rfl⟩ : ∃ e : Nat, point = e + 1 := ⟨(point - 1).toNat, by omega⟩
      rw [add_sub_cancel_right, Int.natAbs_natCast]
      exact .large (by omega)

theorem DigitsText.eq_writeDigits {d : Digits} {s : Text} (h : DigitsText d s) :
    s = Value.pageLayout.writeDigits d := by
  cases h with
  | whole nonempty bound =>
      have length := List.length_pos_of_ne_nil nonempty
      rw [writeDigits_eq, if_pos (by omega), if_neg (by omega), if_neg (by omega)]
      congr 2
      omega
  | pointed before after bound =>
      have length := List.length_pos_of_ne_nil before
      have length' := List.length_pos_of_ne_nil after
      rw [writeDigits_eq, if_pos (by omega), if_neg (by omega), if_pos (by rw [List.length_append]; omega)]
      simp
  | fraction _ bound =>
      rw [writeDigits_eq, if_pos (by omega), if_pos (by omega)]
      simp
  | large bound =>
      rw [writeDigits_eq, if_neg (by omega), scientific_eq, exponent_eq, if_neg (by omega)]
      simp
  | @small c rest e bound =>
      have exponent : 1 - (e : Int) - 1 = -e := by ring
      rw [writeDigits_eq, if_neg (by omega), scientific_eq, exponent, exponent_eq, if_pos (by omega)]
      simp

theorem DigitsText.amount_eq {d : Digits} {s : Text} (h : DigitsText d s) (digits : ∀ c ∈ s, c.isDigit = true) :
    d.amount = value s := by
  have only {c : Char} (member : c ∈ s) (other : c.isDigit = false) : False := by
    rw [digits c member] at other
    cases other
  cases h with
  | @whole digits zeros =>
      rw [value_append, value_of_zeros fun c hc => List.eq_of_mem_replicate hc, List.length_replicate, Nat.add_zero,
        Digits.amount]
      push_cast
      rw [add_sub_cancel_left, zpow_natCast]
  | pointed => exact (only (c := '.') (by simp) rfl).elim
  | fraction => exact (only (c := '.') (by simp) rfl).elim
  | large => exact (only (c := 'e') (by simp) rfl).elim
  | small => exact (only (c := 'e') (by simp) rfl).elim

theorem writeDigits_of_amount {d : Digits} {code n : Nat} (stands : d.StandsFor code) (last : value d.digits % 10 ≠ 0)
    (amount : d.amount = n) (small : n < 10 ^ 21) : Value.pageLayout.writeDigits d = Text.ofNat n := by
  obtain ⟨nonempty, all⟩ := isDigits_iff.1 stands.digits
  have length := List.length_pos_of_ne_nil nonempty
  have whole : d.digits.length ≤ d.point := by
    by_contra! less
    obtain ⟨k, more⟩ : ∃ k : Nat, d.point - d.digits.length = -(k + 1 : Nat) :=
      ⟨(d.digits.length - d.point).toNat - 1, by omega⟩
    rw [Digits.amount, more, zpow_neg, zpow_natCast, mul_inv_eq_iff_eq_mul₀ (by positivity)] at amount
    have scaled : value d.digits = n * 10 ^ k * 10 := by
      rw [Nat.mul_assoc, ← Nat.pow_succ]
      exact_mod_cast amount
    omega
  obtain ⟨zeros, place⟩ : ∃ zeros : Nat, d.point = (d.digits.length + zeros : Nat) :=
    ⟨(d.point - d.digits.length).toNat, by omega⟩
  have bound : d.point - 1 < (21 : Nat) := by
    rw [← zpow_lt_zpow_iff_right₀ (a := (10 : ℚ)) (by norm_num), zpow_natCast]
    refine stands.le_amount.trans_lt ?_
    rw [amount]
    exact_mod_cast small
  have form : DigitsText d (d.digits ++ List.replicate zeros '0') := by
    obtain ⟨digits, point⟩ := d
    obtain rfl : point = (digits.length + zeros : Nat) := place
    dsimp only at bound
    exact .whole nonempty (by omega)
  have digits : ∀ c ∈ d.digits ++ List.replicate zeros '0', c.isDigit = true :=
    List.forall_mem_append.2 ⟨all, fun c hc => by rw [List.eq_of_mem_replicate hc]; rfl⟩
  have number : value (d.digits ++ List.replicate zeros '0') = n := by
    have same := form.amount_eq digits
    rw [amount] at same
    exact_mod_cast same.symm
  rw [← form.eq_writeDigits, ← number]
  refine (ofNat_value (isDigits_iff.2 ⟨by simp [nonempty], digits⟩) ?_).symm
  rw [List.head?_append_of_ne_nil _ nonempty]
  exact stands.lead

end JavaScript

section Whole
variable {x : Binary64} {n : Nat}

theorem Binary64.magnitude_zero : magnitude 0 = (0 : Nat) := by simp [magnitude, significand]

theorem Binary64.ratio_of_magnitude {code : Nat} (same : magnitude code = n) : (ratio code).1 = n * (ratio code).2 := by
  have den : ((ratio code).2 : ℚ) ≠ 0 := by exact_mod_cast ratio_den_ne_zero code
  rw [← ratio_div, div_eq_iff den] at same
  exact_mod_cast same

theorem Binary64.truncate_of_magnitude (same : magnitude x.code = n) :
    x.truncate = if x.negative then -(n : Int) else n := by
  have quotient : (ratio x.code).1 / (ratio x.code).2 = n := by
    rw [ratio_of_magnitude same, Nat.mul_div_cancel _ (Nat.pos_of_ne_zero (ratio_den_ne_zero x.code))]
  rw [truncate]
  simp only [quotient]

theorem Binary64.natAbs_truncate (same : magnitude x.code = n) : x.truncate.natAbs = n := by
  rw [truncate_of_magnitude same]
  split
  · rw [Int.natAbs_neg, Int.natAbs_natCast]
  · rw [Int.natAbs_natCast]

namespace Value

theorem writtenOut_iff (finite : x.isFinite = true) :
    writtenOut x = true ↔ ∃ n : Nat, n < 10 ^ 21 ∧ Binary64.magnitude x.code = n := by
  rw [writtenOut, Binary64.isWhole, finite, Bool.true_and, Bool.and_eq_true, beq_iff_eq, decide_eq_true_eq]
  constructor
  · rintro ⟨whole, small⟩
    obtain ⟨n, product⟩ := Nat.dvd_of_mod_eq_zero whole
    have same : Binary64.magnitude x.code = n := by
      have den : ((Binary64.ratio x.code).2 : ℚ) ≠ 0 := by exact_mod_cast Binary64.ratio_den_ne_zero x.code
      rw [← Binary64.ratio_div, div_eq_iff den, mul_comm]
      exact_mod_cast product
    exact ⟨n, Binary64.natAbs_truncate same ▸ small, same⟩
  · rintro ⟨n, small, same⟩
    rw [Binary64.natAbs_truncate same, Binary64.ratio_of_magnitude same]
    exact ⟨Nat.mul_mod_left _ _, small⟩

theorem writtenOut_zero (negative : Bool) : writtenOut ⟨negative, 0⟩ = true :=
  (writtenOut_iff (by cases negative <;> rfl)).2 ⟨0, by decide, Binary64.magnitude_zero⟩

theorem onPage_of_magnitude (finite : x.isFinite = true) (positive : n ≠ 0) (small : n < 10 ^ 21)
    (same : Binary64.magnitude x.code = n) : (Value.number x).onPage = signed x.negative (Text.ofNat n) := by
  rw [onPage, if_pos ((writtenOut_iff finite).2 ⟨n, small, same⟩), Binary64.truncate_of_magnitude same]
  have written := ofInt_signed x.negative (isDigits_ofNat n) (head_ofNat positive)
  rwa [value_ofNat] at written

theorem writtenOut_of_shortest (negative : Bool) {code : Nat} (positive : code ≠ 0)
    (finite : code < Binary64.infinityCode)
    (whole : (Binary64.shortest code).digits.length ≤ (Binary64.shortest code).point)
    (short : (Binary64.shortest code).point ≤ 21) : writtenOut ⟨negative, code⟩ = true := by
  have shortest := Binary64.isShortest_shortest positive finite
  generalize Binary64.shortest code = d at shortest whole short
  have reads := shortest.stands.rounded_amount
  have below := shortest.stands.amount_lt.trans_le (zpow_le_zpow_right₀ (by norm_num) short)
  obtain ⟨m, amount⟩ : ∃ m : Nat, d.amount = m := ⟨_, Digits.amount_of_length_le whole⟩
  have itself := Binary64.rounded_magnitude finite
  rw [amount] at reads below
  refine (writtenOut_iff (decide_eq_true finite)).2 ?_
  obtain ⟨n, same⟩ := Binary64.exists_natCast_of_rounded finite reads
  refine ⟨n, ?_, same⟩
  by_contra! large
  -- Then the limit lies between the two, and one digit stands for it.
  have large' : (10 : ℚ) ^ (21 : ℤ) ≤ n := by exact_mod_cast large
  have one : Digits.amount ⟨['1'], 22⟩ = 10 ^ (21 : ℤ) := Digits.amount_one 21
  have stands : Digits.StandsFor ⟨['1'], 22⟩ code := by
    refine ⟨rfl, by decide, ?_⟩
    rw [Binary64.ofDecimal_eq_rounded, ← Digits.amount, one]
    exact Binary64.rounded_between (Nat.cast_nonneg m) below.le large' reads (same ▸ itself)
  have length := List.length_pos_of_ne_nil (isDigits_iff.1 shortest.stands.digits).1
  have near := shortest.nearest _ stands (Nat.le_antisymm length (shortest.fewest _ stands))
  rw [amount, one, same, abs_of_neg (by linarith), abs_of_nonpos (by linarith)] at near
  linarith

end Value
end Whole

namespace JavaScript
variable {x : Binary64}

/-- A whole number that is written without an exponent, but not with all its digits. -/
def Shortened (x : Binary64) : Prop :=
  ∃ n : Nat, 0 < n ∧ n < 10 ^ 21 ∧ Binary64.magnitude x.code = n ∧ ∀ d : Digits, d.IsShortest x.code → d.amount ≠ n

theorem numberText_zero_iff {negative : Bool} {s : Text} : NumberText ⟨negative, 0⟩ s ↔ s = ['0'] := by
  constructor
  · intro h
    cases h with
    | zero => rfl
    | digits positive => exact absurd rfl positive
  · rintro rfl
    exact .zero negative

theorem numberText_iff {negative : Bool} {code : Nat} {s : Text} (positive : code ≠ 0)
    (finite : code < Binary64.infinityCode) :
    NumberText ⟨negative, code⟩ s ↔ s = signed negative (Value.pageLayout.writeDigits (Binary64.shortest code)) := by
  have shortest := Binary64.isShortest_shortest positive finite
  constructor
  · intro h
    cases h with
    | zero => exact absurd rfl positive
    | digits _ shortest' form => rw [form.eq_writeDigits, shortest'.unique shortest finite]
  · rintro rfl
    obtain ⟨nonempty, -⟩ := isDigits_iff.1 shortest.stands.digits
    exact .digits positive shortest (digitsText_writeDigits nonempty)

theorem numberText_unique (finite : x.isFinite = true) : ∃! s, NumberText x s := by
  obtain ⟨negative, code⟩ := x
  rcases eq_or_ne code 0 with rfl | positive
  · exact ⟨_, numberText_zero_iff.2 rfl, fun s => numberText_zero_iff.1⟩
  · have finite : code < Binary64.infinityCode := of_decide_eq_true finite
    exact ⟨_, (numberText_iff positive finite).2 rfl, fun s => (numberText_iff positive finite).1⟩

theorem onPage_zero (negative : Bool) : (Value.number ⟨negative, 0⟩).onPage = ['0'] := by
  rw [Value.onPage, if_pos (Value.writtenOut_zero negative), Binary64.truncate_of_magnitude Binary64.magnitude_zero]
  cases negative <;> rfl

theorem numberText_of_magnitude {negative : Bool} {code n : Nat} (positive : code ≠ 0)
    (finite : code < Binary64.infinityCode)
    (small : n < 10 ^ 21) :
    NumberText ⟨negative, code⟩ (signed negative (Text.ofNat n)) ↔ (Binary64.shortest code).amount = n := by
  have stands := Binary64.standsFor_shortest positive finite
  rw [numberText_iff positive finite, signed, signed, List.append_cancel_left_eq]
  constructor
  · intro same
    have form := digitsText_writeDigits (isDigits_iff.1 stands.digits).1
    have number := form.amount_eq (same ▸ digits_ofNat n)
    rwa [← same, value_ofNat] at number
  · exact fun amount => (writeDigits_of_amount stands (Binary64.last_shortest positive finite) amount small).symm

theorem numberText_iff_not_shortened {negative : Bool} {code n : Nat} (positive : code ≠ 0)
    (finite : code < Binary64.infinityCode) (small : n < 10 ^ 21) (same : Binary64.magnitude code = n) :
    NumberText ⟨negative, code⟩ (signed negative (Text.ofNat n)) ↔ ¬Shortened ⟨negative, code⟩ := by
  have shortest := Binary64.isShortest_shortest positive finite
  rw [numberText_of_magnitude positive finite small]
  constructor
  · rintro amount ⟨m, -, -, same', other⟩
    refine other _ shortest ?_
    rw [amount, ← same, same']
  · intro whole
    by_contra apart
    have nonzero : 0 < n := by exact_mod_cast same ▸ Binary64.magnitude_pos positive
    refine whole ⟨n, nonzero, small, same, fun d shortest' => ?_⟩
    rwa [shortest'.unique shortest finite]

theorem numberText_onPage {negative : Bool} {code : Nat} (finite : code < Binary64.infinityCode) :
    NumberText ⟨negative, code⟩ (Value.number ⟨negative, code⟩).onPage ↔ ¬Shortened ⟨negative, code⟩ := by
  have finite' : Binary64.isFinite ⟨negative, code⟩ = true := decide_eq_true finite
  by_cases out : ∃ n : Nat, n < 10 ^ 21 ∧ Binary64.magnitude code = n
  · obtain ⟨n, small, same⟩ := out
    rcases eq_or_ne code 0 with rfl | positive
    · rw [onPage_zero, numberText_zero_iff]
      refine iff_of_true rfl ?_
      rintro ⟨n, nonzero, -, same, -⟩
      rw [Binary64.magnitude_zero] at same
      exact nonzero.ne (by exact_mod_cast same)
    · have nonzero : 0 < n := by exact_mod_cast same ▸ Binary64.magnitude_pos positive
      rw [Value.onPage_of_magnitude finite' nonzero.ne' small same]
      exact numberText_iff_not_shortened positive finite small same
  · have positive : code ≠ 0 := by
      rintro rfl
      exact out ⟨0, by decide, Binary64.magnitude_zero⟩
    have written := Layout.write_eq_signed Value.pageLayout negative positive finite
    rw [Value.onPage, if_neg (mt (Value.writtenOut_iff finite').1 out), written]
    refine iff_of_true ((numberText_iff positive finite).2 rfl) ?_
    rintro ⟨n, -, small, same, -⟩
    exact out ⟨n, small, same⟩

theorem Shortened.large (shortened : Shortened x) (finite : x.code < Binary64.infinityCode) :
    2 ^ 53 ≤ Binary64.magnitude x.code := by
  obtain ⟨n, positive, -, same, other⟩ := shortened
  have nonzero : x.code ≠ 0 := by
    intro zero
    rw [zero, Binary64.magnitude_zero] at same
    exact positive.ne (by exact_mod_cast same)
  by_contra! small
  rw [same] at small
  have shortest := Binary64.isShortest_shortest nonzero finite
  exact other _ shortest (Binary64.amount_eq_of_natCast shortest finite positive.ne' same (by exact_mod_cast small))

/-- A page has the text of every finite number, but gives all digits of the whole numbers that are shortened. -/
theorem numberText_onPage_iff (finite : x.isFinite = true) :
    (∃! s, NumberText x s) ∧ (NumberText x (Value.number x).onPage ↔ ¬Shortened x) ∧
    (∀ n : Nat, 0 < n → n < 10 ^ 21 → Binary64.magnitude x.code = n →
      (Value.number x).onPage = signed x.negative (Text.ofNat n)) ∧
    (Shortened x → 2 ^ 53 ≤ Binary64.magnitude x.code) :=
  have finite' : x.code < Binary64.infinityCode := of_decide_eq_true finite
  ⟨numberText_unique finite, numberText_onPage finite',
    fun _ positive small same => Value.onPage_of_magnitude finite positive.ne' small same,
    fun shortened => shortened.large finite'⟩

theorem numberText_onPage_tenth : Binary64.isFinite ⟨true, 0x3fb999999999999a⟩ = true ∧
    NumberText ⟨true, 0x3fb999999999999a⟩ "-0.1".toList := by
  have finite : Binary64.isFinite ⟨true, 0x3fb999999999999a⟩ = true := by decide
  obtain ⟨-, alike, -, large⟩ := numberText_onPage_iff finite
  have written : (Value.number ⟨true, 0x3fb999999999999a⟩).onPage = "-0.1".toList := by decide +kernel
  refine ⟨finite, written ▸ alike.2 fun shortened => ?_⟩
  have bound := large shortened
  norm_num [Binary64.magnitude, Binary64.significand, Binary64.exponent] at bound

/-- The seventh of the last digits of `2 ^ 60` is rounded away, and a page shows what it was. -/
theorem onPage_not_numberText : NumberText ⟨false, 0x43b0000000000000⟩ "1152921504606847000".toList ∧
    (Value.number ⟨false, 0x43b0000000000000⟩).onPage = "1152921504606846976".toList ∧
    ¬NumberText ⟨false, 0x43b0000000000000⟩ "1152921504606846976".toList := by
  have iff {s : Text} : NumberText ⟨false, 0x43b0000000000000⟩ s ↔ _ := numberText_iff (by decide) (by decide)
  have written : signed false (Value.pageLayout.writeDigits (Binary64.shortest 0x43b0000000000000)) =
      "1152921504606847000".toList := by decide +kernel
  rw [written] at iff
  exact ⟨iff.2 rfl, by decide +kernel, fun other => absurd (iff.1 other) (by decide)⟩

end JavaScript
end PageComposer
