import Mathlib.Tactic.Positivity
import PageComposer.Proofs.Number.Rounding

/-!
# Rounding and order

`rounded` is `nearest` as a function of rational numbers, and reading a decimal is `rounded` of its value
(`ofDecimal_eq_rounded`). Rounding keeps the order (`rounded_mono`), so that a number between two others that round to
one magnitude rounds to it too, and a number close to a magnitude rounds to that magnitude (`rounded_of_close`).
-/

namespace PageComposer.Binary64

theorem toNat_num {y : ℚ} (nonneg : 0 ≤ y) : (y.num.toNat : ℚ) / y.den = y := by
  have top : ((y.num.toNat : ℤ) : ℚ) = y.num := by rw [Int.toNat_of_nonneg (Rat.num_nonneg.2 nonneg)]
  rw [Int.cast_natCast] at top
  rw [top, Rat.num_div_den]

def whole (y : ℚ) : Nat := roundQuotient y.num.toNat y.den

variable {x y : ℚ} {m : Nat}

theorem roundQuotient_eq_whole {a b : Nat} (hb : b ≠ 0) : roundQuotient a b = whole (a / b) :=
  roundQuotient_congr hb (Rat.den_ne_zero _) (toNat_num (by positivity)).symm

theorem roundQuotient_bounds {a b : Nat} (hb : b ≠ 0) :
    2 * a ≤ b * (2 * roundQuotient a b + 1) ∧ b * (2 * roundQuotient a b) ≤ 2 * a + b := by
  have divided := Nat.div_add_mod a b
  have below := Nat.mod_lt a (Nat.pos_of_ne_zero hb)
  have up : b * (2 * (a / b + 1)) = 2 * (b * (a / b)) + 2 * b := by ring
  have up' : b * (2 * (a / b + 1) + 1) = 2 * (b * (a / b)) + 3 * b := by ring
  have down : b * (2 * (a / b)) = 2 * (b * (a / b)) := by ring
  have down' : b * (2 * (a / b) + 1) = 2 * (b * (a / b)) + b := by ring
  unfold roundQuotient
  dsimp only
  split
  · omega
  · split
    · omega
    · split <;> omega

theorem abs_sub_whole (nonneg : 0 ≤ y) : |y - whole y| ≤ 1 / 2 := by
  obtain ⟨above, below⟩ := roundQuotient_bounds (a := y.num.toNat) (Rat.den_ne_zero y)
  have den : (0 : ℚ) < y.den := by exact_mod_cast y.den_pos
  have top : (y.num.toNat : ℚ) = y * y.den := by
    rw [← div_eq_iff den.ne', toNat_num nonneg]
  have above' : 2 * (y * y.den) ≤ y.den * (2 * whole y + 1) := by rw [← top]; exact_mod_cast above
  have below' : y.den * (2 * whole y) ≤ 2 * (y * y.den) + y.den := by rw [← top]; exact_mod_cast below
  have high : 2 * y ≤ 2 * whole y + 1 := by nlinarith
  have low : (2 * whole y : ℚ) ≤ 2 * y + 1 := by nlinarith
  rw [abs_le]
  constructor <;> linarith

theorem whole_mono (nonneg : 0 ≤ x) (le : x ≤ y) : whole x ≤ whole y := by
  by_contra! greater
  have step : (whole y : ℚ) + 1 ≤ whole x := by exact_mod_cast greater
  have low := (abs_le.1 (abs_sub_whole nonneg)).1
  have high := (abs_le.1 (abs_sub_whole (nonneg.trans le))).2
  have same : x = y := by linarith
  rw [same] at greater
  exact lt_irrefl _ greater

theorem whole_of_close (nonneg : 0 ≤ y) (close : |y - m| < 1 / 2) : whole y = m := by
  have near : |(whole y : ℚ) - m| < 1 := by
    have apart := abs_sub_whole nonneg
    rw [abs_lt] at close ⊢
    rw [abs_le] at apart
    constructor <;> linarith
  have near' : |(whole y : ℤ) - m| < 1 := by exact_mod_cast near
  have same := Int.abs_lt_one_iff.1 near'
  omega

theorem whole_natCast (m : Nat) : whole m = m := whole_of_close (Nat.cast_nonneg m) (by simp)

def rounded (y : ℚ) : Nat := nearest y.num.toNat y.den

theorem nearest_eq_rounded {num den : Nat} (hd : den ≠ 0) : nearest num den = rounded (num / den) :=
  nearest_congr hd (Rat.den_ne_zero _) (toNat_num (by positivity)).symm

theorem ofDecimal_eq_rounded (digits : Nat) (e : ℤ) : ofDecimal digits e = rounded (digits * 10 ^ e) := by
  have bottom : Nat.pow 10 (-e).toNat ≠ 0 := (Nat.pow_pos (by decide)).ne'
  rw [ofDecimal_eq_nearest, nearest_eq_rounded bottom, decimal_div]

theorem rounded_magnitude {code : Nat} (finite : code < infinityCode) : rounded (magnitude code) = code := by
  rw [← ratio_div, ← nearest_eq_rounded (ratio_den_ne_zero code)]
  exact nearest_of_eq_magnitude finite (ratio_den_ne_zero code) (ratio_div code)

theorem rounded_zero : rounded 0 = 0 := rfl

def unitExponent (y : ℚ) : ℤ := max (-1074) (Int.log 2 y - 52)

theorem rounded_eq (positive : 0 < y) :
    rounded y = min infinityCode ((unitExponent y + 1074).toNat * 2 ^ 52 + whole (y / 2 ^ unitExponent y)) := by
  have top : y.num.toNat ≠ 0 := by
    have num := Rat.num_pos.2 positive
    omega
  have exponent : binaryExponent y.num.toNat y.den = Int.log 2 y := by
    rw [binaryExponent_eq_log top (Rat.den_ne_zero y), toNat_num positive.le]
  have significand :
    roundQuotient (y.num.toNat * Nat.pow 2 (-unitExponent y).toNat) (y.den * Nat.pow 2 (unitExponent y).toNat) =
      whole (y / 2 ^ unitExponent y) := by
    rw [roundQuotient_eq_whole (scaled_pos two_ne_zero (Rat.den_ne_zero y) _).ne', scaled_div two_ne_zero,
      toNat_num positive.le, Nat.cast_ofNat]
  rw [rounded, nearest, if_neg top]
  simp only [exponent]
  rw [← unitExponent, significand]
  rfl

theorem unitExponent_bounds (positive : 0 < y) :
    y / 2 ^ unitExponent y < 2 ^ 53 ∧ (-1074 < unitExponent y → 2 ^ 52 ≤ y / 2 ^ unitExponent y) := by
  have unit : (0 : ℚ) < 2 ^ unitExponent y := zpow_pos two_pos _
  constructor
  · have above : y < 2 ^ (Int.log 2 y + 1) := Int.lt_zpow_succ_log_self (by decide) y
    rw [div_lt_iff₀ unit]
    refine above.trans_le ?_
    rw [← zpow_natCast, ← zpow_add₀ two_ne_zero]
    refine zpow_le_zpow_right₀ one_le_two ?_
    rw [unitExponent]
    push_cast
    omega
  · intro normal
    have exponent : (52 : ℤ) + unitExponent y = Int.log 2 y := by
      rw [unitExponent] at normal ⊢
      omega
    have below : (2 : ℚ) ^ Int.log 2 y ≤ y := Int.zpow_log_le_self (by decide) positive
    rw [le_div_iff₀ unit, ← zpow_natCast, ← zpow_add₀ two_ne_zero]
    simpa [exponent] using below

theorem unitExponent_mono (positive : 0 < x) (le : x ≤ y) : unitExponent x ≤ unitExponent y := by
  have logs : Int.log 2 x ≤ Int.log 2 y := Int.log_mono_right positive le
  rw [unitExponent, unitExponent]
  omega

theorem rounded_mono (nonneg : 0 ≤ x) (le : x ≤ y) : rounded x ≤ rounded y := by
  rcases nonneg.eq_or_lt with rfl | positive
  · rw [rounded_zero]
    exact Nat.zero_le _
  · have positive' := positive.trans_le le
    rw [rounded_eq positive, rounded_eq positive']
    refine min_le_min_left _ ?_
    rcases (unitExponent_mono positive le).eq_or_lt with same | less
    · -- At one exponent the significands are compared.
      rw [same]
      refine Nat.add_le_add_left (whole_mono (div_nonneg positive.le (zpow_pos two_pos _).le) ?_) _
      exact div_le_div_of_nonneg_right le (zpow_pos two_pos _).le
    · -- A greater exponent outweighs the significand.
      have least : -1074 ≤ unitExponent x := le_max_left _ _
      have small : whole (x / 2 ^ unitExponent x) ≤ 2 ^ 53 := by
        rw [← whole_natCast (2 ^ 53)]
        refine whole_mono (div_nonneg positive.le (zpow_pos two_pos _).le) ?_
        exact_mod_cast (unitExponent_bounds positive).1.le
      have large : 2 ^ 52 ≤ whole (y / 2 ^ unitExponent y) := by
        rw [← whole_natCast (2 ^ 52)]
        refine whole_mono (Nat.cast_nonneg _) ?_
        exact_mod_cast (unitExponent_bounds positive').2 (least.trans_lt less)
      omega

theorem rounded_between {code : Nat} {z : ℚ} (nonneg : 0 ≤ x) (le : x ≤ y) (le' : y ≤ z) (low : rounded x = code)
    (high : rounded z = code) : rounded y = code :=
  le_antisymm (high ▸ rounded_mono (nonneg.trans le) le') (low ▸ rounded_mono nonneg le)

theorem magnitude_of_parts {q : ℤ} (least : -1074 ≤ q) (le : m ≤ 2 ^ 53) (normal : q = -1074 ∨ 2 ^ 52 ≤ m) :
    magnitude ((q + 1074).toNat * 2 ^ 52 + m) = m * 2 ^ q := by
  obtain ⟨k, rfl⟩ : ∃ k : Nat, q = k - 1074 := ⟨(q + 1074).toNat, by omega⟩
  rw [sub_add_cancel, Int.toNat_natCast]
  rcases Nat.lt_or_ge m (2 ^ 52) with small | large
  · obtain rfl : k = 0 := by omega
    simp only [magnitude, significand, exponent, Nat.pow_eq, Nat.zero_mul, Nat.zero_add, if_pos small]
    rfl
  · have notSmall : ¬k * 2 ^ 52 + m < 2 ^ 52 := by omega
    rcases le.lt_or_eq with less | rfl
    · have quotient : (k * 2 ^ 52 + m) / 2 ^ 52 = k + 1 := by omega
      have remainder : 2 ^ 52 + (k * 2 ^ 52 + m) % 2 ^ 52 = m := by omega
      simp only [magnitude, significand, exponent, Nat.pow_eq, if_neg notSmall, quotient, remainder]
      congr 2
      omega
    · have quotient : (k * 2 ^ 52 + 2 ^ 53) / 2 ^ 52 = k + 2 := by omega
      have remainder : 2 ^ 52 + (k * 2 ^ 52 + 2 ^ 53) % 2 ^ 52 = 2 ^ 52 := by omega
      have carried : ((k + 2 : Nat) : ℤ) - 1075 = 1 + (k - 1074) := by omega
      simp only [magnitude, significand, exponent, Nat.pow_eq, if_neg notSmall, quotient, remainder, carried]
      rw [zpow_one_add₀ two_ne_zero]
      push_cast
      ring

theorem magnitude_rounded (positive : 0 < y) (finite : rounded y < infinityCode) :
    magnitude (rounded y) = whole (y / 2 ^ unitExponent y) * 2 ^ unitExponent y := by
  obtain ⟨below, normal⟩ := unitExponent_bounds positive
  have nonneg : 0 ≤ y / 2 ^ unitExponent y := div_nonneg positive.le (zpow_pos two_pos _).le
  have least : -1074 ≤ unitExponent y := le_max_left _ _
  rw [rounded_eq positive] at finite ⊢
  have inside := (min_lt_iff.1 finite).resolve_left (lt_irrefl _)
  rw [min_eq_right inside.le]
  refine magnitude_of_parts least ?_ ?_
  · rw [← whole_natCast (2 ^ 53)]
    refine whole_mono nonneg ?_
    exact_mod_cast below.le
  · rcases least.eq_or_lt with same | less
    · exact .inl same.symm
    · right
      rw [← whole_natCast (2 ^ 52)]
      refine whole_mono (Nat.cast_nonneg _) ?_
      exact_mod_cast normal less

theorem abs_sub_magnitude_rounded (positive : 0 < y) (finite : rounded y < infinityCode) :
    |y - magnitude (rounded y)| ≤ 2 ^ unitExponent y / 2 := by
  have unit : (0 : ℚ) < 2 ^ unitExponent y := zpow_pos two_pos _
  have near := abs_sub_whole (div_nonneg positive.le unit.le)
  have scaled := mul_le_mul_of_nonneg_right near unit.le
  rw [← abs_of_pos unit, ← abs_mul, abs_of_pos unit, sub_mul, div_mul_cancel₀ _ unit.ne'] at scaled
  rw [magnitude_rounded positive finite]
  linarith

theorem exists_magnitude_eq {n : Nat} (positive : n ≠ 0) (le : n ≤ 2 ^ 53) :
    ∃ code < infinityCode, magnitude code = n := by
  have parts {q : ℤ} {m : Nat} (least : -1074 ≤ q) (most : q ≤ 1) (large : 2 ^ 52 ≤ m) (less : m < 2 ^ 53)
      (same : (m : ℚ) * 2 ^ q = n) : ∃ code < infinityCode, magnitude code = n := by
    refine ⟨_, ?_, (magnitude_of_parts least less.le (.inr large)).trans same⟩
    simp only [infinityCode, Nat.pow_eq]
    omega
  rcases le.lt_or_eq with less | rfl
  · have log : n.log2 < 53 := (Nat.log2_lt positive).2 less
    have split : (2 : Nat) ^ 52 = 2 ^ n.log2 * 2 ^ (52 - n.log2) := by
      rw [← pow_add]
      congr 1
      omega
    refine parts (q := (n.log2 : ℤ) - 52) (m := n * 2 ^ (52 - n.log2)) (by omega) (by omega) ?_ ?_ ?_
    · rw [split]
      exact Nat.mul_le_mul_right _ (Nat.log2_self_le positive)
    · have top : (2 : Nat) ^ 53 = 2 ^ (n.log2 + 1) * 2 ^ (52 - n.log2) := by
        rw [← pow_add]
        congr 1
        omega
      rw [top]
      exact Nat.mul_lt_mul_of_pos_right Nat.lt_log2_self (by positivity)
    · push_cast
      rw [mul_assoc, ← zpow_natCast, ← zpow_add₀ two_ne_zero,
        show ((52 - n.log2 : Nat) : ℤ) + (n.log2 - 52) = 0 by omega, zpow_zero, mul_one]
  · exact parts (q := 1) (m := 2 ^ 52) (by decide) (by decide) le_rfl (by decide) (by norm_num)

theorem magnitude_rounded_natCast {n : Nat} (le : n ≤ 2 ^ 53) : magnitude (rounded n) = n := by
  rcases eq_or_ne n 0 with rfl | positive
  · rw [Nat.cast_zero, rounded_zero]
    simp [magnitude, significand]
  · obtain ⟨code, finite, same⟩ := exists_magnitude_eq positive le
    rw [← same, rounded_magnitude finite]

theorem exists_natCast_of_rounded {code : Nat} (finite : code < infinityCode) (reads : rounded m = code) :
    ∃ n : Nat, magnitude code = n := by
  rcases le_or_gt 0 (exponent code) with up | down
  · obtain ⟨k, exponent⟩ := Int.eq_ofNat_of_zero_le up
    refine ⟨significand code * 2 ^ k, ?_⟩
    rw [magnitude, exponent, zpow_natCast]
    norm_cast
  · obtain ⟨-, below, -⟩ := significand_bounds code
    have small : magnitude code ≤ (2 ^ 53 : Nat) := by
      calc magnitude code ≤ significand code * 1 :=
            mul_le_mul_of_nonneg_left (zpow_le_one_of_nonpos₀ one_le_two down.le) (Nat.cast_nonneg _)
        _ ≤ (2 ^ 53 : Nat) := by
            rw [mul_one]
            exact_mod_cast below.le
    rcases le_or_gt m (2 ^ 53) with le | greater
    · exact ⟨m, reads ▸ magnitude_rounded_natCast le⟩
    · have nonneg : 0 ≤ magnitude code := mul_nonneg (Nat.cast_nonneg _) (zpow_nonneg zero_le_two _)
      have limit := rounded_between nonneg small (by exact_mod_cast greater.le) (rounded_magnitude finite) reads
      exact ⟨2 ^ 53, limit ▸ magnitude_rounded_natCast le_rfl⟩

theorem significand_pos {code : Nat} (positive : code ≠ 0) : 0 < significand code := by
  refine Nat.pos_of_ne_zero fun zero => ?_
  have together := code_eq code
  obtain ⟨-, -, normal⟩ := significand_bounds code
  rcases normal with least | normal
  · rw [zero, least] at together
    exact positive together.symm
  · omega

theorem magnitude_pos {code : Nat} (positive : code ≠ 0) : 0 < magnitude code :=
  mul_pos (by exact_mod_cast significand_pos positive) (zpow_pos two_pos _)

theorem unitExponent_magnitude {code : Nat} (positive : code ≠ 0) : unitExponent (magnitude code) = exponent code :=
  scale_eq_exponent (significand_pos positive).ne'

theorem unitExponent_le {q : ℤ} (positive : 0 < x) (least : -1074 ≤ q) (less : x < 2 ^ 53) :
    unitExponent (x * 2 ^ q) ≤ q := by
  have unit : (0 : ℚ) < 2 ^ q := zpow_pos two_pos _
  have log : Int.log 2 (x * 2 ^ q) < 53 + q := by
    rw [← Int.lt_zpow_iff_log_lt (by decide) (mul_pos positive unit), Nat.cast_ofNat, zpow_add₀ two_ne_zero]
    exact mul_lt_mul_of_pos_right less unit
  rw [unitExponent]
  omega

theorem le_unitExponent {q : ℤ} (large : 2 ^ 51 ≤ x) : q - 1 ≤ unitExponent (x * 2 ^ q) := by
  have unit : (0 : ℚ) < 2 ^ q := zpow_pos two_pos _
  have positive : 0 < x * 2 ^ q := mul_pos (lt_of_lt_of_le (by norm_num) large) unit
  have log : 51 + q ≤ Int.log 2 (x * 2 ^ q) := by
    rw [← Int.zpow_le_iff_le_log (by decide) positive, Nat.cast_ofNat, zpow_add₀ two_ne_zero]
    exact mul_le_mul_of_nonneg_right large unit.le
  rw [unitExponent]
  omega

theorem whole_of_lower {k : Nat} {w : ℚ} (normal : 2 ^ 52 ≤ k) (close : |w - k| < k / 2 ^ 54) (bound : 2 * w < 2 ^ 53) :
    k = 2 ^ 52 ∧ whole (2 * w) = 2 ^ 53 := by
  -- Where the exponent is smaller than that of a significand close by, the significand is a power of two.
  obtain ⟨low, high⟩ := abs_lt.1 close
  norm_num at low high bound
  have power : k = 2 ^ 52 := by
    have less : (k : ℚ) < 4503599627370497 := by linarith
    refine le_antisymm (Nat.lt_succ_iff.1 ?_) normal
    exact_mod_cast less
  rw [power] at low high
  norm_num at low high
  refine ⟨power, whole_of_close (by linarith) ?_⟩
  norm_num [abs_lt]
  constructor <;> linarith

theorem rounded_of_close {code : Nat} (positive : code ≠ 0) (finite : code < infinityCode)
    (close : |y - magnitude code| < magnitude code / 2 ^ 54) : rounded y = code := by
  -- What is this close to a magnitude, as a decimal of seventeen digits is, rounds to it.
  obtain ⟨least, below, normal⟩ := significand_bounds code
  have together : (exponent code + 1074).toNat * 2 ^ 52 + significand code = code := code_eq code
  have significand_pos : 0 < (significand code : ℚ) := by exact_mod_cast significand_pos positive
  have unit : (0 : ℚ) < 2 ^ exponent code := zpow_pos two_pos _
  obtain ⟨w, rfl⟩ : ∃ w, y = w * 2 ^ exponent code := ⟨y / 2 ^ exponent code, (div_mul_cancel₀ y unit.ne').symm⟩
  rw [magnitude, ← sub_mul, abs_mul, abs_of_pos unit, mul_div_right_comm, mul_lt_mul_iff_left₀ unit] at close
  obtain ⟨low, high⟩ := abs_lt.1 close
  norm_num at low high
  have top : (significand code : ℚ) + 1 ≤ 9007199254740992 := by exact_mod_cast below
  have w_pos : 0 < w := by linarith
  have upper := unitExponent_le w_pos least (by norm_num; linarith)
  rcases upper.eq_or_lt with same | less
  · have rounds : whole w = significand code := by
      refine whole_of_close w_pos.le ?_
      rw [abs_lt]
      constructor <;> linarith
    rw [rounded_eq (mul_pos w_pos unit), same, mul_div_cancel_right₀ _ unit.ne', rounds, together]
    exact Nat.min_eq_right finite.le
  · -- Only right below a power of two the exponent is smaller, by one.
    have bottom : -1074 ≤ unitExponent (w * 2 ^ exponent code) := le_max_left _ _
    have normal : 2 ^ 52 ≤ significand code := normal.resolve_left (by omega)
    have normal' : (4503599627370496 : ℚ) ≤ significand code := by exact_mod_cast normal
    have lower : unitExponent (w * 2 ^ exponent code) = exponent code - 1 := by
      have bound := le_unitExponent (x := w) (q := exponent code) (by norm_num; linarith)
      omega
    have scaled : w * 2 ^ exponent code / 2 ^ (exponent code - 1) = 2 * w := by
      rw [mul_div_assoc, ← zpow_sub₀ two_ne_zero, sub_sub_cancel, zpow_one, mul_comm]
    have bound := (unitExponent_bounds (mul_pos w_pos unit)).1
    rw [lower, scaled] at bound
    obtain ⟨power, rounds⟩ := whole_of_lower normal close bound
    have carried : (exponent code - 1 + 1074).toNat * 2 ^ 52 + 2 ^ 53 = code := by
      have lowered : (exponent code + 1074).toNat = (exponent code - 1 + 1074).toNat + 1 := by omega
      rw [power, lowered] at together
      exact (by ring : _ = ((exponent code - 1 + 1074).toNat + 1) * 2 ^ 52 + 2 ^ 52).trans together
    rw [rounded_eq (mul_pos w_pos unit), lower, scaled, rounds, carried]
    exact Nat.min_eq_right finite.le

end PageComposer.Binary64
