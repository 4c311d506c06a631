import Mathlib.Algebra.Order.Field.Basic
import Mathlib.Data.Int.Log
import Mathlib.Data.Rat.Cast.Order
import Mathlib.Data.Rat.Floor
import Mathlib.Tactic.FieldSimp
import Mathlib.Tactic.Linarith
import Mathlib.Tactic.Ring
import PageComposer.Number.Shortest

/-!
# Rounding to binary64

`nearest` depends on the value of a ratio only (`nearest_congr`) and gives a magnitude back for its own
value (`nearest_of_eq_magnitude`). `ofDecimal` is `nearest` of the decimal's value even where it does not
compute it (`ofDecimal_eq_nearest`), so `decimal` always reads back (`ofDecimal_decimal`).
-/

namespace PageComposer.Binary64

def magnitude (code : Nat) : ℚ := significand code * 2 ^ exponent code

theorem pow_toNat_div (b : ℚ) (q : ℤ) : b ^ q.toNat / b ^ (-q).toNat = b ^ q := by
  rcases Int.eq_nat_or_neg q with ⟨n, rfl | rfl⟩
  · simp
  · simp

theorem scaled_div {b : Nat} (hb : b ≠ 0) (num den : Nat) (q : ℤ) :
    ((num * Nat.pow b (-q).toNat : Nat) : ℚ) / (den * Nat.pow b q.toNat : Nat) = num / den / (b : ℚ) ^ q := by
  have base : (b : ℚ) ≠ 0 := by exact_mod_cast hb
  rw [← pow_toNat_div b q]
  simp only [Nat.pow_eq, Nat.cast_mul, Nat.cast_pow]
  field_simp

theorem scaled_pos {b den : Nat} (hb : b ≠ 0) (hd : den ≠ 0) (n : Nat) : 0 < den * Nat.pow b n :=
  Nat.mul_pos (Nat.pos_of_ne_zero hd) (Nat.pow_pos (Nat.pos_of_ne_zero hb))

theorem scaled_lt_iff {b : Nat} (hb : b ≠ 0) {num den : Nat} (hd : den ≠ 0) (q : ℤ) :
    num * Nat.pow b (-q).toNat < den * Nat.pow b q.toNat ↔ (num : ℚ) / den < (b : ℚ) ^ q := by
  have power : (0 : ℚ) < (b : ℚ) ^ q := zpow_pos (by exact_mod_cast Nat.pos_of_ne_zero hb) q
  have bottom : (0 : ℚ) < (den * Nat.pow b q.toNat : Nat) := by exact_mod_cast scaled_pos hb hd _
  rw [← Nat.cast_lt (α := ℚ), ← div_lt_one bottom, scaled_div hb, div_lt_one power]

theorem roundQuotient_mul {k : Nat} (hk : k ≠ 0) (num den : Nat) :
    roundQuotient (k * num) (k * den) = roundQuotient num den := by
  have pos := Nat.pos_of_ne_zero hk
  have low : 2 * (k * (num % den)) < k * den ↔ 2 * (num % den) < den := by
    rw [Nat.mul_left_comm]
    exact Nat.mul_lt_mul_left pos
  have high : k * den < 2 * (k * (num % den)) ↔ den < 2 * (num % den) := by
    rw [Nat.mul_left_comm]
    exact Nat.mul_lt_mul_left pos
  simp only [roundQuotient, Nat.mul_div_mul_left _ _ pos, Nat.mul_mod_mul_left, low, high]

theorem roundQuotient_congr {a b c d : Nat} (hb : b ≠ 0) (hd : d ≠ 0) (same : (a : ℚ) / b = c / d) :
    roundQuotient a b = roundQuotient c d := by
  have hb' : (b : ℚ) ≠ 0 := by exact_mod_cast hb
  have hd' : (d : ℚ) ≠ 0 := by exact_mod_cast hd
  rw [div_eq_div_iff hb' hd'] at same
  have cross : d * a = b * c := by
    rw [Nat.mul_comm d a, Nat.mul_comm b c]
    exact_mod_cast same
  rw [← roundQuotient_mul hd, ← roundQuotient_mul hb c d, cross, Nat.mul_comm d b]

theorem roundQuotient_of_eq {a b m : Nat} (hb : b ≠ 0) (same : (a : ℚ) / b = m) : roundQuotient a b = m := by
  rw [roundQuotient_congr hb Nat.one_ne_zero (c := m) (by simpa using same)]
  simp [roundQuotient, Nat.mod_one]

theorem roundQuotient_of_small {a b : Nat} (hb : b ≠ 0) (small : (a : ℚ) / b < 1 / 2) :
    roundQuotient a b = 0 := by
  rw [div_lt_div_iff₀ (by exact_mod_cast Nat.pos_of_ne_zero hb) two_pos] at small
  have twice : 2 * a < b := by
    rw [Nat.mul_comm]
    simpa using (by exact_mod_cast small : a * 2 < 1 * b)
  have less : a < b := by omega
  simp only [roundQuotient, Nat.div_eq_of_lt less, Nat.mod_eq_of_lt less, twice, if_true]

theorem binaryExponent_eq_log {num den : Nat} (hn : num ≠ 0) (hd : den ≠ 0) :
    binaryExponent num den = Int.log 2 ((num : ℚ) / den) := by
  have ratio : (0 : ℚ) < (num : ℚ) / den :=
    div_pos (by exact_mod_cast Nat.pos_of_ne_zero hn) (by exact_mod_cast Nat.pos_of_ne_zero hd)
  have above : Int.log 2 ((num : ℚ) / den) < (num.log2 : ℤ) - den.log2 + 1 := by
    rw [← Int.lt_zpow_iff_log_lt (by decide) ratio]
    have top : (num : ℚ) < 2 ^ (num.log2 + 1) := by exact_mod_cast Nat.lt_log2_self
    have bottom : (2 : ℚ) ^ den.log2 ≤ den := by exact_mod_cast Nat.log2_self_le hd
    rw [div_lt_iff₀ (by exact_mod_cast Nat.pos_of_ne_zero hd)]
    refine top.trans_le ?_
    calc (2 : ℚ) ^ (num.log2 + 1) = 2 ^ ((num.log2 : ℤ) - den.log2 + 1) * 2 ^ den.log2 := by
          rw [← zpow_natCast, ← zpow_natCast, ← zpow_add₀ two_ne_zero]
          congr 1
          push_cast
          ring
      _ ≤ _ := mul_le_mul_of_nonneg_left bottom (zpow_nonneg zero_le_two _)
  have below : (num.log2 : ℤ) - den.log2 - 1 ≤ Int.log 2 ((num : ℚ) / den) := by
    rw [← Int.zpow_le_iff_le_log (by decide) ratio]
    have top : (den : ℚ) ≤ 2 ^ (den.log2 + 1) := by exact_mod_cast Nat.lt_log2_self.le
    have bottom : (2 : ℚ) ^ num.log2 ≤ num := by exact_mod_cast Nat.log2_self_le hn
    rw [le_div_iff₀ (by exact_mod_cast Nat.pos_of_ne_zero hd)]
    refine le_trans ?_ bottom
    calc (2 : ℚ) ^ ((num.log2 : ℤ) - den.log2 - 1) * den
        ≤ 2 ^ ((num.log2 : ℤ) - den.log2 - 1) * 2 ^ (den.log2 + 1) :=
          mul_le_mul_of_nonneg_left top (zpow_nonneg zero_le_two _)
      _ = 2 ^ num.log2 := by
          rw [← zpow_natCast, ← zpow_natCast, ← zpow_add₀ two_ne_zero]
          congr 1
          push_cast
          ring
  have less (q : ℤ) : (num : ℚ) / den < ((2 : Nat) : ℚ) ^ q ↔ Int.log 2 ((num : ℚ) / den) < q :=
    Int.lt_zpow_iff_log_lt Nat.one_lt_two ratio
  simp only [binaryExponent, scaled_lt_iff two_ne_zero hd, less]
  split <;> omega

theorem nearest_congr {a b c d : Nat} (hb : b ≠ 0) (hd : d ≠ 0) (same : (a : ℚ) / b = c / d) :
    nearest a b = nearest c d := by
  have hb' : (b : ℚ) ≠ 0 := by exact_mod_cast hb
  have hd' : (d : ℚ) ≠ 0 := by exact_mod_cast hd
  by_cases ha : a = 0
  · have hc : c = 0 := by
      subst ha
      rw [Nat.cast_zero, zero_div, eq_comm, div_eq_zero_iff, or_iff_left hd'] at same
      exact_mod_cast same
    simp [nearest, ha, hc]
  · have hc : c ≠ 0 := by
      rintro rfl
      rw [Nat.cast_zero, zero_div, div_eq_zero_iff, or_iff_left hb'] at same
      exact ha (by exact_mod_cast same)
    have exponents : binaryExponent a b = binaryExponent c d := by
      rw [binaryExponent_eq_log ha hb, binaryExponent_eq_log hc hd, same]
    have significands (q : ℤ) : roundQuotient (a * Nat.pow 2 (-q).toNat) (b * Nat.pow 2 q.toNat) =
        roundQuotient (c * Nat.pow 2 (-q).toNat) (d * Nat.pow 2 q.toNat) := by
      refine roundQuotient_congr (scaled_pos two_ne_zero hb _).ne' (scaled_pos two_ne_zero hd _).ne' ?_
      rw [scaled_div two_ne_zero, scaled_div two_ne_zero, same]
    simp only [nearest, ha, hc, if_false, exponents, significands]

theorem ratio_div (code : Nat) : ((ratio code).1 : ℚ) / (ratio code).2 = magnitude code := by
  rw [ratio, magnitude, ← pow_toNat_div 2 (exponent code)]
  simp only [Nat.pow_eq, Nat.cast_mul, Nat.cast_pow, Nat.cast_ofNat]
  exact mul_div_assoc _ _ _

theorem ratio_den_ne_zero (code : Nat) : (ratio code).2 ≠ 0 := (Nat.pow_pos Nat.two_pos).ne'

theorem code_eq (code : Nat) : (exponent code + 1074).toNat * Nat.pow 2 52 + significand code = code := by
  simp only [exponent, significand, Nat.pow_eq]
  split <;> omega

theorem significand_bounds (code : Nat) : -1074 ≤ exponent code ∧ significand code < 2 ^ 53 ∧
    (exponent code = -1074 ∨ 2 ^ 52 ≤ significand code) := by
  simp only [exponent, significand, Nat.pow_eq]
  split <;> omega

theorem scale_eq_exponent {code : Nat} (nonzero : significand code ≠ 0) :
    max (-1074) (Int.log 2 (magnitude code) - 52) = exponent code := by
  obtain ⟨least, below, normal⟩ := significand_bounds code
  have positive : 0 < magnitude code :=
    mul_pos (by exact_mod_cast Nat.pos_of_ne_zero nonzero) (zpow_pos two_pos _)
  have upper : Int.log 2 (magnitude code) < exponent code + 53 := by
    rw [← Int.lt_zpow_iff_log_lt (by decide) positive]
    have bound : (significand code : ℚ) < 2 ^ 53 := by exact_mod_cast below
    calc magnitude code < 2 ^ 53 * 2 ^ exponent code := mul_lt_mul_of_pos_right bound (zpow_pos two_pos _)
      _ = (2 : ℚ) ^ (exponent code + 53) := by
          rw [zpow_add₀ two_ne_zero, mul_comm]
          rfl
  rcases normal with subnormal | normal
  · rw [subnormal] at upper ⊢
    omega
  · have lower : exponent code + 52 ≤ Int.log 2 (magnitude code) := by
      rw [← Int.zpow_le_iff_le_log (by decide) positive]
      have bound : (2 : ℚ) ^ 52 ≤ significand code := by exact_mod_cast normal
      calc (2 : ℚ) ^ (exponent code + 52) = 2 ^ 52 * 2 ^ exponent code := by
            rw [zpow_add₀ two_ne_zero, mul_comm]
            rfl
        _ ≤ magnitude code := mul_le_mul_of_nonneg_right bound (zpow_nonneg zero_le_two _)
    omega

theorem nearest_of_eq_magnitude {num den code : Nat} (finite : code < infinityCode) (hd : den ≠ 0)
    (same : (num : ℚ) / den = magnitude code) : nearest num den = code := by
  rw [nearest_congr hd (ratio_den_ne_zero code) (same.trans (ratio_div code).symm)]
  have together := code_eq code
  by_cases nonzero : significand code = 0
  · have zero : code = 0 := by
      obtain ⟨-, -, normal⟩ := significand_bounds code
      rcases normal with least | normal
      · simpa [nonzero, least] using together.symm
      · omega
    subst zero
    decide
  · have top : (ratio code).1 ≠ 0 := Nat.mul_ne_zero nonzero (Nat.pow_pos Nat.two_pos).ne'
    have scale := scale_eq_exponent nonzero
    rw [← ratio_div, ← binaryExponent_eq_log top (ratio_den_ne_zero code)] at scale
    have rounded : roundQuotient ((ratio code).1 * Nat.pow 2 (-exponent code).toNat)
        ((ratio code).2 * Nat.pow 2 (exponent code).toNat) = significand code := by
      refine roundQuotient_of_eq (scaled_pos two_ne_zero (ratio_den_ne_zero code) _).ne' ?_
      rw [scaled_div two_ne_zero, ratio_div, magnitude, Nat.cast_ofNat]
      exact mul_div_cancel_right₀ _ (zpow_ne_zero _ two_ne_zero)
    simp only [nearest, top, if_false, scale, rounded, together]
    exact Nat.min_eq_right finite.le

theorem nearest_of_large {num den : Nat} (hd : den ≠ 0) (large : (2 : ℚ) ^ (1025 : ℤ) ≤ num / den) :
    nearest num den = infinityCode := by
  have ratio : (0 : ℚ) < num / den := (zpow_pos two_pos _).trans_le large
  have hn : num ≠ 0 := by
    rintro rfl
    simp at ratio
  have exponent : 1025 ≤ binaryExponent num den := by
    rw [binaryExponent_eq_log hn hd, ← Int.zpow_le_iff_le_log Nat.one_lt_two ratio]
    exact large
  have full : 2047 ≤ (max (-1074) (binaryExponent num den - 52) + 1074).toNat := by omega
  simp only [nearest, hn, if_false]
  exact Nat.min_eq_left ((Nat.mul_le_mul_right _ full).trans (Nat.le_add_right _ _))

theorem nearest_of_small {num den : Nat} (hd : den ≠ 0) (small : (num : ℚ) / den < 2 ^ (-1076 : ℤ)) :
    nearest num den = 0 := by
  by_cases hn : num = 0
  · simp [nearest, hn]
  · have ratio : (0 : ℚ) < num / den :=
      div_pos (by exact_mod_cast Nat.pos_of_ne_zero hn) (by exact_mod_cast Nat.pos_of_ne_zero hd)
    have exponent : binaryExponent num den < -1076 := by
      rw [binaryExponent_eq_log hn hd, ← Int.lt_zpow_iff_log_lt Nat.one_lt_two ratio]
      exact small
    have least : max (-1074) (binaryExponent num den - 52) = -1074 := by omega
    have down : roundQuotient (num * Nat.pow 2 (-(-1074 : ℤ)).toNat) (den * Nat.pow 2 (-1074 : ℤ).toNat) = 0 := by
      refine roundQuotient_of_small (scaled_pos two_ne_zero hd _).ne' ?_
      rw [scaled_div two_ne_zero, Nat.cast_ofNat, div_lt_iff₀ (zpow_pos two_pos _)]
      refine small.trans_le (le_of_le_of_eq ?_ (?_ : (2 : ℚ) ^ (-1075 : ℤ) = _))
      · exact zpow_le_zpow_right₀ one_le_two (by decide)
      · rw [show (-1075 : ℤ) = -1 + -1074 from rfl, zpow_add₀ two_ne_zero, zpow_neg_one, one_div]
    simp only [nearest, hn, if_false, least, down]
    exact Nat.min_eq_right (Nat.zero_le _)

theorem decimal_div (digits : Nat) (e : ℤ) :
    ((digits * Nat.pow 10 e.toNat : Nat) : ℚ) / (Nat.pow 10 (-e).toNat : Nat) = digits * 10 ^ e := by
  rw [← pow_toNat_div 10 e]
  simp only [Nat.pow_eq, Nat.cast_mul, Nat.cast_pow, Nat.cast_ofNat]
  exact mul_div_assoc _ _ _

theorem two_zpow_le_ten_zpow {n : ℤ} (hn : 0 ≤ n) : (2 : ℚ) ^ (3 * n) ≤ 10 ^ n := by
  rw [zpow_mul]
  exact zpow_le_zpow_left₀ hn (by norm_num) (by norm_num)

theorem ofDecimal_eq_nearest (digits : Nat) (e : ℤ) :
    ofDecimal digits e = nearest (digits * Nat.pow 10 e.toNat) (Nat.pow 10 (-e).toNat) := by
  have hd : Nat.pow 10 (-e).toNat ≠ 0 := (Nat.pow_pos (by decide)).ne'
  unfold ofDecimal
  split
  · rename_i zero
    simp [nearest, zero]
  · rename_i nonzero
    have one : (1 : ℚ) ≤ digits := by exact_mod_cast Nat.pos_of_ne_zero nonzero
    split
    · rename_i large
      refine (nearest_of_large hd ?_).symm
      rw [decimal_div]
      calc (2 : ℚ) ^ (1025 : ℤ) ≤ 2 ^ (3 * e) := zpow_le_zpow_right₀ one_le_two (by omega)
        _ ≤ 10 ^ e := two_zpow_le_ten_zpow (by omega)
        _ ≤ digits * 10 ^ e := le_mul_of_one_le_left (zpow_nonneg (by norm_num) _) one
    · split
      · rename_i small
        refine (nearest_of_small hd ?_).symm
        rw [decimal_div]
        have digitsBelow : (digits : ℚ) < 10 ^ ((digits.log2 + 1 : Nat) : ℤ) := by
          rw [zpow_natCast]
          exact_mod_cast Nat.lt_log2_self.trans_le (Nat.pow_le_pow_left (by decide) _)
        have least : (2 : ℚ) ^ (1076 : ℤ) ≤ 10 ^ (-(e + (digits.log2 + 1 : Nat))) :=
          (zpow_le_zpow_right₀ one_le_two (by omega)).trans (two_zpow_le_ten_zpow (by omega))
        calc (digits : ℚ) * 10 ^ e < 10 ^ ((digits.log2 + 1 : Nat) : ℤ) * 10 ^ e :=
              mul_lt_mul_of_pos_right digitsBelow (zpow_pos (by norm_num) _)
          _ = (10 ^ (-(e + (digits.log2 + 1 : Nat))))⁻¹ := by
              rw [← zpow_neg, neg_neg, ← zpow_add₀ (by norm_num), add_comm]
          _ ≤ (2 ^ (1076 : ℤ))⁻¹ := inv_anti₀ (zpow_pos two_pos _) least
          _ = 2 ^ (-1076 : ℤ) := (zpow_neg _ _).symm
      · rfl

theorem ofDecimal_congr {c d : Nat} {e f : ℤ} (same : (c : ℚ) * 10 ^ e = d * 10 ^ f) :
    ofDecimal c e = ofDecimal d f := by
  rw [ofDecimal_eq_nearest, ofDecimal_eq_nearest]
  refine nearest_congr (Nat.pow_pos (by decide)).ne' (Nat.pow_pos (by decide)).ne' ?_
  rw [decimal_div, decimal_div, same]

theorem ofDecimal_mul_pow (digits n : Nat) (e : ℤ) :
    ofDecimal (digits * 10 ^ n) e = ofDecimal digits (e + n) := by
  refine ofDecimal_congr ?_
  rw [zpow_add₀ (by norm_num), zpow_natCast]
  push_cast
  ring

theorem exactDecimal_value (code : Nat) :
    ((exactDecimal code).1 : ℚ) * 10 ^ (exactDecimal code).2 = magnitude code := by
  have ten : (10 : ℚ) = 5 * 2 := by norm_num
  simp only [exactDecimal, magnitude, zpow_neg, zpow_natCast, ten, mul_pow, ← pow_toNat_div 2 (exponent code)]
  push_cast [Nat.pow_eq]
  field_simp

theorem ofDecimal_exactDecimal {code : Nat} (finite : code < infinityCode) :
    ofDecimal (exactDecimal code).1 (exactDecimal code).2 = code := by
  rw [ofDecimal_eq_nearest]
  refine nearest_of_eq_magnitude finite (Nat.pow_pos (by decide)).ne' ?_
  rw [decimal_div, exactDecimal_value]

theorem ofDecimal_decimal {code : Nat} (finite : code < infinityCode) :
    ofDecimal (decimal code).1 (decimal code).2 = code := by
  unfold decimal
  cases found : coarsest? code with
  | some d => exact ofDecimal_of_coarsest? found
  | none => exact ofDecimal_exactDecimal finite

end PageComposer.Binary64
