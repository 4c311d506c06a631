import PageComposer.Proofs.Number.Grid
import PageComposer.Proofs.Number.Numeral

/-!
# Shortest digits

Many digits can stand for one magnitude, for what matters is that they are read as it (`Digits.StandsFor`). The
shortest of them are as few as possible, then as near to the magnitude as possible, and then even
(`Digits.IsShortest`).

* `Binary64.isShortest_shortest`: `shortest` gives them for every finite magnitude but zero.
* `Digits.IsShortest.unique`: there are no others.
* `Binary64.amount_eq_of_natCast`: for a whole number below `2 ^ 53` they are its own digits.
-/

namespace PageComposer
open Numeral

theorem Numeral.value_lt_pow {s : Text} (digits : isDigits s = true) : value s < 10 ^ s.length := by
  obtain ⟨nonempty, all⟩ := isDigits_iff.1 digits
  exact (Nat.length_toDigits_le_iff (by decide) (List.length_pos_of_ne_nil nonempty)).1
    (length_ofNat_value nonempty all)

theorem Numeral.pow_length_le {n : Nat} (positive : n ≠ 0) : 10 ^ ((Text.ofNat n).length - 1) ≤ n := by
  have length : 0 < (Text.ofNat n).length := List.length_pos_of_ne_nil Nat.toDigits_ne_nil
  rcases Nat.eq_or_lt_of_le (Nat.succ_le_of_lt length) with single | several
  · rw [← single]
    exact Nat.pos_of_ne_zero positive
  · by_contra! less
    have fewer : (Text.ofNat n).length ≤ (Text.ofNat n).length - 1 :=
      (Nat.length_toDigits_le_iff (by decide) (by omega)).2 less
    omega

namespace Digits

def amount (d : Digits) : ℚ := value d.digits * 10 ^ (d.point - d.digits.length)

/-- The digits of a magnitude that are to be written: the fewest that stand for it, of those the nearest, and of two
that are equally near the even ones. -/
structure IsShortest (d : Digits) (code : Nat) : Prop where
  stands : d.StandsFor code
  fewest : ∀ other : Digits, other.StandsFor code → d.digits.length ≤ other.digits.length
  nearest : ∀ other : Digits, other.StandsFor code → other.digits.length = d.digits.length →
    |d.amount - Binary64.magnitude code| ≤ |other.amount - Binary64.magnitude code|
  even : ∀ other : Digits, other.StandsFor code → other.digits.length = d.digits.length → other.point = d.point →
    other ≠ d → |d.amount - Binary64.magnitude code| = |other.amount - Binary64.magnitude code| →
    value d.digits % 2 = 0

variable {d d' : Digits} {code : Nat}

theorem amount_nonneg (d : Digits) : 0 ≤ d.amount := mul_nonneg (Nat.cast_nonneg _) (zpow_nonneg (by norm_num) _)

theorem amount_of_length_le (whole : d.digits.length ≤ d.point) :
    d.amount = (value d.digits * 10 ^ (d.point - d.digits.length).toNat : Nat) := by
  push_cast
  rw [amount, ← zpow_natCast, Int.toNat_of_nonneg (by omega)]

theorem amount_ofNat (n : Nat) (e : ℤ) : amount ⟨Text.ofNat n, (Text.ofNat n).length + e⟩ = n * 10 ^ e := by
  rw [amount, value_ofNat, add_sub_cancel_left]

theorem StandsFor.eq_of_value {code' : Nat} (h : d.StandsFor code) (h' : d'.StandsFor code')
    (point : d.point = d'.point)
    (same : value d.digits = value d'.digits) : d = d' := by
  have digits : d.digits = d'.digits := by
    rw [← ofNat_value h.digits h.lead, same, ofNat_value h'.digits h'.lead]
  cases d
  cases d'
  rw [mk.injEq]
  exact ⟨digits, point⟩

theorem StandsFor.rounded_amount (h : d.StandsFor code) : Binary64.rounded d.amount = code := by
  rw [amount, ← Binary64.ofDecimal_eq_rounded, h.reads]

theorem StandsFor.value_pos (h : d.StandsFor code) : 0 < value d.digits := by
  refine Nat.pos_of_ne_zero fun zero => h.lead ?_
  rw [← ofNat_value h.digits h.lead, zero]
  rfl

theorem StandsFor.amount_lt (h : d.StandsFor code) : d.amount < 10 ^ d.point := by
  have below : (value d.digits : ℚ) < 10 ^ (d.digits.length : ℤ) := by exact_mod_cast value_lt_pow h.digits
  calc d.amount < 10 ^ (d.digits.length : ℤ) * 10 ^ (d.point - d.digits.length) :=
        mul_lt_mul_of_pos_right below (zpow_pos (by norm_num) _)
    _ = 10 ^ d.point := by
        rw [← zpow_add₀ (by norm_num)]
        congr 1
        ring

end Digits

namespace Binary64
variable {code : Nat}

theorem exists_multiple (positive : code ≠ 0) (finite : code < infinityCode) {d : Digits} (stands : d.StandsFor code) :
    ∃ c, ofDecimal c (point code - d.digits.length) = code ∧
      (c * 10 ^ (point code - d.digits.length) = d.amount ∨
        |c * 10 ^ (point code - d.digits.length) - magnitude code| < |d.amount - magnitude code|) := by
  -- Digits that stand for a magnitude are on the grid of that many digits, or something nearer to the magnitude is.
  obtain ⟨low, -⟩ := point_bounds positive finite
  generalize point code = point at low ⊢
  rcases le_or_gt point d.point with le | less
  · have same :
        ((value d.digits * 10 ^ (d.point - point).toNat : Nat) : ℚ) * 10 ^ (point - d.digits.length) = d.amount := by
      rw [Digits.amount]
      push_cast
      rw [mul_assoc, ← zpow_natCast, ← zpow_add₀ (by norm_num), Int.toNat_of_nonneg (by omega)]
      congr 2
      ring
    refine ⟨_, ?_, .inl same⟩
    rw [ofDecimal_eq_rounded, same, stands.rounded_amount]
  · -- The power of ten below the magnitude lies between the two.
    have length := List.length_pos_of_ne_nil (isDigits_iff.1 stands.digits).1
    have power : ((10 ^ (d.digits.length - 1) : Nat) : ℚ) * 10 ^ (point - d.digits.length) = 10 ^ (point - 1) := by
      push_cast
      rw [← zpow_natCast, ← zpow_add₀ (by norm_num)]
      congr 1
      omega
    have above : d.amount < 10 ^ (point - 1) :=
      stands.amount_lt.trans_le (zpow_le_zpow_right₀ (by norm_num) (by omega))
    refine ⟨10 ^ (d.digits.length - 1), ofDecimal_between finite stands.reads (.inl ⟨?_, ?_⟩), .inr ?_⟩
    · rw [power]
      exact above.le
    · rw [power]
      exact low
    · rw [power, abs_of_nonpos (by linarith), abs_of_nonpos (by linarith)]
      linarith

section Coarsest
variable {c : Nat} {e : ℤ} {d : Digits}

theorem IsCoarsest.le_length (h : IsCoarsest code c e) (positive : code ≠ 0) (finite : code < infinityCode)
    (stands : d.StandsFor code) : point code - e ≤ d.digits.length := by
  obtain ⟨n, reads, -⟩ := exists_multiple positive finite stands
  have length := List.length_pos_of_ne_nil (isDigits_iff.1 stands.digits).1
  by_contra! fewer
  exact h.coarser _ (by omega) (by omega) n reads

theorem IsCoarsest.compared (h : IsCoarsest code c e) (positive : code ≠ 0) (finite : code < infinityCode)
    (stands : d.StandsFor code) (length : d.digits.length ≤ point code - e) :
    ∃ n : Nat, Chosen (magnitude code / 10 ^ e) c n ∧
      (n * 10 ^ e = d.amount ∨ |n * 10 ^ e - magnitude code| < |d.amount - magnitude code|) := by
  -- As few digits as the coarsest grid has are compared on that grid.
  obtain ⟨n, reads, near⟩ := exists_multiple positive finite stands
  have scale : e + (point code - d.digits.length - e).toNat = point code - d.digits.length := by omega
  have value : ((n * 10 ^ (point code - d.digits.length - e).toNat : Nat) : ℚ) * 10 ^ e =
      n * 10 ^ (point code - d.digits.length) := by
    push_cast
    rw [mul_assoc, ← zpow_natCast, ← zpow_add₀ (by norm_num), add_comm, scale]
  refine ⟨n * 10 ^ (point code - d.digits.length - e).toNat, h.chosen _ ?_, ?_⟩
  · rw [ofDecimal_mul_pow, scale, reads]
  · rwa [value]

theorem abs_sub_magnitude (n : Nat) (e : ℤ) (code : Nat) :
    |n * 10 ^ e - magnitude code| = |n - magnitude code / 10 ^ e| * 10 ^ e := by
  have unit : (0 : ℚ) < 10 ^ e := zpow_pos (by norm_num) e
  rw [← abs_of_pos unit, ← abs_mul, abs_of_pos unit, sub_mul, div_mul_cancel₀ _ unit.ne']

theorem Chosen.le {n : Nat} (h : Chosen (magnitude code / 10 ^ e) c n) :
    |c * 10 ^ e - magnitude code| ≤ |n * 10 ^ e - magnitude code| := by
  rw [abs_sub_magnitude, abs_sub_magnitude]
  exact mul_le_mul_of_nonneg_right (h.elim le_of_lt fun tie => tie.1.le) (zpow_nonneg (by norm_num) e)

theorem Chosen.even_of_tie {n : Nat} (h : Chosen (magnitude code / 10 ^ e) c n) (apart : n ≠ c)
    (tie : |c * 10 ^ e - magnitude code| = |n * 10 ^ e - magnitude code|) : c % 2 = 0 := by
  rw [abs_sub_magnitude, abs_sub_magnitude] at tie
  rcases h with less | ⟨-, even⟩
  · exact absurd (mul_right_cancel₀ (zpow_ne_zero e (by norm_num)) tie) less.ne
  · exact even apart

theorem IsCoarsest.point_eq {s t : Nat} (h : IsCoarsest code (s * 10 ^ (t + 1)) e) : point code = e + 1 := by
  have below := h.below
  by_contra more
  refine h.coarser (e + 1) (by omega) (by omega) (s * 10 ^ t) ?_
  have reads := h.reads
  rwa [pow_succ, ← mul_assoc, ← pow_one 10, ofDecimal_mul_pow] at reads

theorem magnitude_lt {m : Nat} {f : ℤ} (positive : code ≠ 0) (finite : code < infinityCode) (hm : 0 < m)
    (le : point code ≤ f) : magnitude code < m * 10 ^ f := by
  have one : (1 : ℚ) ≤ m := by exact_mod_cast hm
  calc magnitude code < 10 ^ point code := (point_bounds positive finite).2
    _ ≤ 10 ^ f := zpow_le_zpow_right₀ (by norm_num) le
    _ ≤ m * 10 ^ f := le_mul_of_one_le_left (zpow_nonneg (by norm_num) _) one

theorem amount_stripped (s t : Nat) (e : ℤ) :
    Digits.amount ⟨Text.ofNat s, (Text.ofNat s).length + t + e⟩ = ((s * 10 ^ t : Nat) : ℚ) * 10 ^ e := by
  rw [add_assoc, Digits.amount_ofNat, zpow_add₀ (by norm_num), zpow_natCast]
  push_cast
  ring

theorem IsCoarsest.length_le {s t : Nat} (h : IsCoarsest code (s * 10 ^ t) e) (last : s % 10 ≠ 0) :
    (Text.ofNat s).length ≤ point code - e := by
  have below := h.below
  have few : (Text.ofNat s).length ≤ (point code - e).toNat := by
    refine (Nat.length_toDigits_le_iff (by decide) (by omega)).2 (lt_of_le_of_ne ?_ ?_)
    · exact (Nat.le_mul_of_pos_right s (by positivity)).trans h.le
    · rintro rfl
      exact last (Nat.mod_eq_zero_of_dvd (dvd_pow_self 10 (by omega)))
  omega

theorem IsCoarsest.even_of_tie {s t : Nat} (h : IsCoarsest code (s * 10 ^ t) e) (positive : code ≠ 0)
    (finite : code < infinityCode) (stands : d.StandsFor code) (length : d.digits.length ≤ point code - e)
    (place : d.point - d.digits.length = t + e) (distinct : d.amount ≠ ((s * 10 ^ t : Nat) : ℚ) * 10 ^ e)
    (tie : |((s * 10 ^ t : Nat) : ℚ) * 10 ^ e - magnitude code| = |d.amount - magnitude code|) (nonzero : 0 < s) :
    s % 2 = 0 := by
  obtain ⟨n, chosen, near⟩ := h.compared positive finite stands length
  have onGrid : n * 10 ^ e = d.amount := near.resolve_right fun nearer => (chosen.le.trans_lt nearer).ne tie
  have even := chosen.even_of_tie (fun same => distinct (by rw [← onGrid, same])) (onGrid.symm ▸ tie)
  cases t with
  | zero => simpa using even
  | succ t =>
      -- Both are greater than the magnitude then, and no tie is possible.
      have first := h.point_eq
      have itself : ((s * 10 ^ (t + 1) : Nat) : ℚ) * 10 ^ e = s * 10 ^ ((t + 1 : Nat) + e) := by
        rw [zpow_add₀ (by norm_num), zpow_natCast]
        push_cast
        ring
      have greater : magnitude code < d.amount := by
        rw [Digits.amount, place]
        exact magnitude_lt positive finite stands.value_pos (by omega)
      have greater' : magnitude code < ((s * 10 ^ (t + 1) : Nat) : ℚ) * 10 ^ e := by
        rw [itself]
        exact magnitude_lt positive finite nonzero (by omega)
      rw [abs_of_pos (sub_pos.2 greater'), abs_of_pos (sub_pos.2 greater)] at tie
      exact absurd (sub_left_injective tie).symm distinct

end Coarsest

theorem last_shortest (positive : code ≠ 0) (finite : code < infinityCode) : value (shortest code).digits % 10 ≠ 0 := by
  obtain ⟨s, t, -, last, same⟩ := shortest_eq (decimal_ne_zero positive finite)
  rwa [same, value_ofNat]

theorem isShortest_shortest (positive : code ≠ 0) (finite : code < infinityCode) : (shortest code).IsShortest code := by
  have coarsest := isCoarsest_decimal positive finite
  have stands := standsFor_shortest positive finite
  obtain ⟨s, t, number, last, same⟩ := shortest_eq (decimal_ne_zero positive finite)
  rw [same] at stands ⊢
  rw [number] at coarsest
  generalize (decimal code).2 = e at coarsest stands ⊢
  have amount := amount_stripped s t e
  have short := coarsest.length_le last
  refine ⟨stands, fun d other => ?_, fun d other length => ?_, fun d other length place apart tie => ?_⟩
  · have least := coarsest.le_length positive finite other
    dsimp only
    omega
  · dsimp only at length
    obtain ⟨n, chosen, near⟩ := coarsest.compared positive finite other (by omega)
    rw [amount]
    refine chosen.le.trans ?_
    rcases near with same | nearer
    · rw [same]
    · exact nearer.le
  · dsimp only at length place
    have distinct : d.amount ≠ ((s * 10 ^ t : Nat) : ℚ) * 10 ^ e := by
      rw [← amount, Digits.amount, Digits.amount, length, place]
      intro sameAmount
      refine apart (other.eq_of_value stands place ?_)
      exact_mod_cast mul_right_cancel₀ (zpow_ne_zero _ (by norm_num)) sameAmount
    rw [amount] at tie
    rw [value_ofNat]
    exact coarsest.even_of_tie positive finite other (by omega) (by omega) distinct tie (by omega)

theorem standsFor_ofNat {n : Nat} (positive : n ≠ 0) (finite : code < infinityCode) (same : magnitude code = n) :
    Digits.StandsFor ⟨Text.ofNat n, (Text.ofNat n).length⟩ code := by
  refine ⟨isDigits_ofNat n, head_ofNat positive, ?_⟩
  rw [value_ofNat, sub_self, ofDecimal_eq_rounded, zpow_zero, mul_one, ← same, rounded_magnitude finite]

section Small
variable {n : Nat}

theorem natCast_eq_of_rounded {m : Nat} (le : m ≤ 2 ^ 53) (reads : rounded m = code)
    (same : magnitude code = n) : m = n := by
  have exact := magnitude_rounded_natCast le
  rw [reads, same] at exact
  exact_mod_cast exact.symm

theorem natCast_eq_of_rounded_of_lt {m : Nat} (finite : code < infinityCode) (reads : rounded m = code)
    (same : magnitude code = n) (small : n < 2 ^ 53) : m = n := by
  rcases le_or_gt m (2 ^ 53) with le | greater
  · exact natCast_eq_of_rounded le reads same
  · have itself := rounded_magnitude finite
    rw [same] at itself
    have limit : rounded ((2 ^ 53 : Nat) : ℚ) = code :=
      rounded_between (Nat.cast_nonneg n) (by exact_mod_cast small.le) (by exact_mod_cast greater.le) itself reads
    exact absurd (natCast_eq_of_rounded le_rfl limit same) small.ne'

theorem amount_eq_of_natCast {d : Digits} (shortest : d.IsShortest code) (finite : code < infinityCode)
    (positive : n ≠ 0) (same : magnitude code = n) (small : n < 2 ^ 53) : d.amount = n := by
  have other := standsFor_ofNat positive finite same
  have reads := shortest.stands.rounded_amount
  rcases (shortest.fewest _ other).lt_or_eq with fewer | equal
  · dsimp only at fewer
    rcases le_or_gt (d.digits.length : ℤ) d.point with whole | broken
    · rw [Digits.amount_of_length_le whole] at reads ⊢
      rw [natCast_eq_of_rounded_of_lt finite reads same small]
    · -- Then a power of ten lies between the digits and the number.
      have length := List.length_pos_of_ne_nil (isDigits_iff.1 shortest.stands.digits).1
      have below : 10 ^ ((Text.ofNat n).length - 2) < n :=
        (Nat.pow_lt_pow_right (by decide) (by omega)).trans_le (Numeral.pow_length_le positive)
      have above : d.amount ≤ (10 ^ ((Text.ofNat n).length - 2) : Nat) := by
        push_cast
        rw [← zpow_natCast]
        exact shortest.stands.amount_lt.le.trans (zpow_le_zpow_right₀ (by norm_num) (by omega))
      have itself := rounded_magnitude finite
      rw [same] at itself
      have between := rounded_between d.amount_nonneg above (by exact_mod_cast below.le) reads itself
      exact absurd (natCast_eq_of_rounded (below.le.trans small.le) between same) below.ne
  · have near := shortest.nearest _ other equal.symm
    rw [same, Digits.amount, Digits.amount, value_ofNat, sub_self, zpow_zero, mul_one, sub_self, abs_zero] at near
    exact sub_eq_zero.1 (abs_nonpos_iff.1 near)

end Small

theorem rounded_ne_of_midpoint {f : ℤ} (finite : code < infinityCode) (mid : 2 * magnitude code = 19 * 10 ^ f) :
    rounded (10 ^ (f + 1)) ≠ code := by
  rcases le_or_gt 0 f with nonneg | negative
  · -- The two are too far from each other.
    rintro rfl
    have positive : (0 : ℚ) < 10 ^ (f + 1) := zpow_pos (by norm_num) _
    have near := abs_sub_magnitude_rounded positive finite
    have one : (1 : ℚ) ≤ 10 ^ (f + 1) := one_le_zpow₀ (by norm_num) (by omega)
    have normal : -1074 < unitExponent ((10 : ℚ) ^ (f + 1)) := by
      have log : Int.log 2 (1 : ℚ) ≤ Int.log 2 ((10 : ℚ) ^ (f + 1)) := Int.log_mono_right one_pos one
      rw [Int.log_one_right] at log
      rw [unitExponent]
      omega
    have unit := (unitExponent_bounds positive).2 normal
    rw [le_div_iff₀ (zpow_pos two_pos _)] at unit
    rw [zpow_add_one₀ (by norm_num)] at near unit mid
    generalize unitExponent ((10 : ℚ) ^ f * 10) = u at near unit
    have difference := (abs_le.1 near).2
    have power : (0 : ℚ) < 10 ^ f := zpow_pos (by norm_num) _
    norm_num at unit
    linarith
  · -- Five divides the one side only.
    intro _
    obtain ⟨j, rfl⟩ : ∃ j : Nat, f = -(j + 1 : Nat) := ⟨(-f - 1).toNat, by omega⟩
    have den : ((ratio code).2 : ℚ) ≠ 0 := by exact_mod_cast ratio_den_ne_zero code
    rw [← ratio_div, zpow_neg, zpow_natCast, ← mul_div_assoc, div_eq_iff den, mul_right_comm,
      ← div_eq_mul_inv, eq_div_iff (by positivity)] at mid
    have whole : 2 * (ratio code).1 * 10 ^ (j + 1) = 19 * (ratio code).2 := by exact_mod_cast mid
    have divides : 5 ∣ 19 * (ratio code).2 := by
      rw [← whole, pow_succ]
      exact Dvd.dvd.mul_left (Dvd.dvd.mul_left (by decide) _) _
    have coprime : Nat.Coprime 5 (19 * (ratio code).2) :=
      Nat.Coprime.mul_right (by decide) (Nat.Coprime.pow_right _ (by decide))
    exact absurd (coprime.eq_one_of_dvd divides) (by decide)

end Binary64

namespace Digits
variable {d d' : Digits} {code : Nat}

theorem abs_sub_lt_of_between {x y z v : ℚ} (tie : |x - v| = |z - v|) (less : x < y) (less' : y < z) :
    |y - v| < |x - v| := by
  have middle : x - v = -(z - v) := by
    rcases abs_eq_abs.1 tie with same | opposite
    · linarith
    · exact opposite
  rw [abs_of_neg (by linarith : x - v < 0), abs_lt]
  constructor <;> linarith

theorem StandsFor.between {other : Digits} (h : d.StandsFor code) (h' : d'.StandsFor code)
    (digits : isDigits other.digits = true) (lead : other.digits.head? ≠ some '0') (le : d.amount ≤ other.amount)
    (le' : other.amount ≤ d'.amount) : other.StandsFor code := by
  refine ⟨digits, lead, ?_⟩
  rw [Binary64.ofDecimal_eq_rounded]
  exact Binary64.rounded_between d.amount_nonneg le le' h.rounded_amount h'.rounded_amount

theorem IsShortest.not_between {o : Digits} (h : d.IsShortest code) (h' : d'.IsShortest code)
    (digits : isDigits o.digits = true) (lead : o.digits.head? ≠ some '0') (length : o.digits.length ≤ d.digits.length)
    (less : d.amount < o.amount) : d'.amount ≤ o.amount := by
  -- Shortest digits leave no room between them for as many digits.
  by_contra! less'
  have stands := h.stands.between h'.stands digits lead less.le less'.le
  have length := length.antisymm (h.fewest _ stands)
  have same := (h.fewest _ h'.stands).antisymm (h'.fewest _ h.stands)
  have tie := (h.nearest _ h'.stands same.symm).antisymm (h'.nearest _ h.stands same)
  exact absurd (h.nearest _ stands length) (not_le.2 (abs_sub_lt_of_between tie less less'))

theorem StandsFor.le_amount (h : d.StandsFor code) : 10 ^ (d.point - 1) ≤ d.amount := by
  have length := List.length_pos_of_ne_nil (isDigits_iff.1 h.digits).1
  have large : 10 ^ (d.digits.length - 1) ≤ value d.digits := by
    have bound := pow_length_le h.value_pos.ne'
    rwa [ofNat_value h.digits h.lead] at bound
  have large' : (10 : ℚ) ^ ((d.digits.length - 1 : Nat) : ℤ) ≤ value d.digits := by exact_mod_cast large
  calc (10 : ℚ) ^ (d.point - 1) = 10 ^ ((d.digits.length - 1 : Nat) : ℤ) * 10 ^ (d.point - d.digits.length) := by
        rw [← zpow_add₀ (by norm_num)]
        congr 1
        omega
    _ ≤ d.amount := mul_le_mul_of_nonneg_right large' (zpow_nonneg (by norm_num) _)

theorem amount_one (point : ℤ) : amount ⟨['1'], point + 1⟩ = 10 ^ point := by simp [amount, value, Nat.ofDigitChars]

theorem amount_nine (point : ℤ) : amount ⟨['9'], point⟩ = 9 * 10 ^ (point - 1) := by
  simp [amount, value, Nat.ofDigitChars]

theorem amount_le_nine (digits : isDigits d.digits = true) (single : d.digits.length = 1) :
    d.amount ≤ 9 * 10 ^ (d.point - 1) := by
  have digit := value_lt_pow digits
  rw [single, pow_one] at digit
  rw [amount, single, Nat.cast_one]
  exact mul_le_mul_of_nonneg_right (by exact_mod_cast Nat.lt_succ_iff.1 digit) (zpow_nonneg (by norm_num) _)

theorem IsShortest.point_le (h : d.IsShortest code) (h' : d'.IsShortest code) (finite : code < Binary64.infinityCode) :
    d'.point ≤ d.point := by
  -- Shortest digits do not differ in their point: those with the smaller one would be a nine, and those with the
  -- greater one a one, with the magnitude halfway between them.
  by_contra! less
  have same := (h.fewest _ h'.stands).antisymm (h'.fewest _ h.stands)
  have tie := (h.nearest _ h'.stands same.symm).antisymm (h'.nearest _ h.stands same)
  have length := List.length_pos_of_ne_nil (isDigits_iff.1 h.stands.digits).1
  -- The power of ten between the two has one digit, so it is the greater of them.
  have above : (10 : ℚ) ^ d.point ≤ d'.amount :=
    (zpow_le_zpow_right₀ (by norm_num) (by omega)).trans h'.stands.le_amount
  have one := amount_one d.point
  have upper : d'.amount = 10 ^ d.point := by
    refine (above.antisymm ?_).symm
    rw [← one]
    exact h.not_between h' rfl (by simp) length (one ▸ h.stands.amount_lt)
  have stands : StandsFor ⟨['1'], d.point + 1⟩ code :=
    h.stands.between h'.stands rfl (by simp) (one ▸ h.stands.amount_lt.le) (one ▸ above)
  have single : d.digits.length = 1 := Nat.le_antisymm (h.fewest _ stands) length
  have power : (10 : ℚ) ^ d.point = 10 * 10 ^ (d.point - 1) := by
    rw [← zpow_one_add₀ (by norm_num), add_sub_cancel]
  have unit : (0 : ℚ) < 10 ^ (d.point - 1) := zpow_pos (by norm_num) _
  have lower : d.amount = 9 * 10 ^ (d.point - 1) := by
    refine (amount_le_nine h.stands.digits single).antisymm ?_
    by_contra! less
    rw [← amount_nine] at less
    have beyond := h.not_between (o := ⟨['9'], d.point⟩) h' rfl (by simp) length less
    rw [upper, amount_nine, power] at beyond
    linarith
  have mid : 2 * Binary64.magnitude code = 19 * 10 ^ (d.point - 1) := by
    rw [lower, upper, power] at tie
    rcases abs_eq_abs.1 tie with equal | opposite
    · linarith
    · linarith
  refine Binary64.rounded_ne_of_midpoint finite mid ?_
  rw [sub_add_cancel, ← upper, h'.stands.rounded_amount]

theorem IsShortest.not_value_lt (h : d.IsShortest code) (h' : d'.IsShortest code) (point : d.point = d'.point)
    (length : d.digits.length = d'.digits.length) (even : value d.digits % 2 = 0) (even' : value d'.digits % 2 = 0) :
    ¬value d.digits < value d'.digits := by
  -- Two even numbers have an odd one between them.
  intro less
  have unit : (0 : ℚ) < 10 ^ (d.point - d.digits.length) := zpow_pos (by norm_num) _
  have middle := amount_ofNat (value d.digits + 1) (d.point - d.digits.length)
  have next : value d.digits + 1 < value d'.digits := by omega
  have short : (Text.ofNat (value d.digits + 1)).length ≤ d.digits.length := by
    refine (Nat.length_toDigits_le_iff (by decide) (List.length_pos_of_ne_nil (isDigits_iff.1 h.stands.digits).1)).2 ?_
    rw [length]
    exact next.trans (value_lt_pow h'.stands.digits)
  have greater : d.amount < (value d.digits + 1 : Nat) * 10 ^ (d.point - d.digits.length) :=
    mul_lt_mul_of_pos_right (by exact_mod_cast Nat.lt_succ_self _) unit
  have beyond := h.not_between h' (isDigits_ofNat _) (head_ofNat (Nat.succ_ne_zero _)) short (middle ▸ greater)
  rw [middle, amount, ← point, ← length] at beyond
  exact absurd (le_of_mul_le_mul_right beyond unit) (not_le.2 (by exact_mod_cast next))

theorem IsShortest.unique (h : d.IsShortest code) (h' : d'.IsShortest code) (finite : code < Binary64.infinityCode) :
    d = d' := by
  have point := (h'.point_le h finite).antisymm (h.point_le h' finite)
  have same := (h.fewest _ h'.stands).antisymm (h'.fewest _ h.stands)
  have tie := (h.nearest _ h'.stands same.symm).antisymm (h'.nearest _ h.stands same)
  by_contra apart
  have even := h.even _ h'.stands same.symm point.symm (Ne.symm apart) tie
  have even' := h'.even _ h.stands same point apart tie.symm
  have notLess := h.not_value_lt h' point same even even'
  have notLess' := h'.not_value_lt h point.symm same.symm even' even
  exact apart (h.stands.eq_of_value h'.stands point (Nat.le_antisymm (Nat.not_lt.1 notLess') (Nat.not_lt.1 notLess)))

end Digits
end PageComposer
