import PageComposer.Proofs.Number.Nearest

/-!
# Decimal grids

`point` is where the digits of a magnitude begin (`point_bounds`). On a grid `onGrid?` finds the multiple that is
nearest of those which are read as the magnitude (`onGrid?_spec`). `decimal` takes the coarsest grid that has such a
multiple at all (`isCoarsest_decimal`), for with seventeen digits there always is one (`exists_seventeen`).
-/

namespace PageComposer.Binary64

/-- The least power of ten that a magnitude does not reach. -/
def point (code : Nat) : ℤ := decimalPoint (ratio code).1 (ratio code).2

theorem ten_zpow_le_two_zpow_of_le {k n : ℤ} (hn : 0 ≤ n) (le : 103 * k ≤ 31 * n) : (10 : ℚ) ^ k ≤ 2 ^ n := by
  refine le_of_pow_le_pow_left₀ (n := 103) (by decide) (zpow_nonneg zero_le_two _) ?_
  calc ((10 : ℚ) ^ k) ^ 103 = 10 ^ (103 * k) := by rw [← zpow_natCast, ← zpow_mul, mul_comm]; rfl
    _ ≤ 10 ^ (31 * n) := zpow_le_zpow_right₀ (by norm_num) le
    _ = (10 ^ (31 : ℤ)) ^ n := zpow_mul _ _ _
    _ ≤ (2 ^ (103 : ℤ)) ^ n := zpow_le_zpow_left₀ hn (by norm_num) (by norm_num)
    _ = ((2 : ℚ) ^ n) ^ 103 := by rw [← zpow_mul, mul_comm, zpow_mul]; rfl

theorem two_zpow_le_ten_zpow_of_le {k n : ℤ} (hn : 0 ≤ n) (le : 28 * n ≤ 93 * k) : (2 : ℚ) ^ n ≤ 10 ^ k := by
  refine le_of_pow_le_pow_left₀ (n := 93) (by decide) (zpow_nonneg (by norm_num) _) ?_
  calc ((2 : ℚ) ^ n) ^ 93 = (2 ^ (93 : ℤ)) ^ n := by rw [← zpow_mul, mul_comm, zpow_mul]; rfl
    _ ≤ (10 ^ (28 : ℤ)) ^ n := zpow_le_zpow_left₀ hn (by norm_num) (by norm_num)
    _ = 10 ^ (28 * n) := (zpow_mul _ _ _).symm
    _ ≤ 10 ^ (93 * k) := zpow_le_zpow_right₀ (by norm_num) le
    _ = ((10 : ℚ) ^ k) ^ 93 := by rw [mul_comm, zpow_mul]; rfl

theorem guess_bounds {e : ℤ} (low : -1074 ≤ e) (high : e ≤ 1023) :
    (10 : ℚ) ^ (e * 30103 / 100000 - 2) ≤ 2 ^ e ∧ (2 : ℚ) ^ (e + 1) ≤ 10 ^ (e * 30103 / 100000 + 2) := by
  have invert {a b : ℚ} {k n : ℤ} (ha : 0 < a) (hb : 0 < b) (le : a ^ (-k) ≤ b ^ (-n)) : b ^ n ≤ a ^ k := by
    rw [zpow_neg, zpow_neg] at le
    exact (inv_le_inv₀ (zpow_pos ha k) (zpow_pos hb n)).1 le
  constructor
  · rcases le_or_gt 0 e with up | down
    · exact ten_zpow_le_two_zpow_of_le up (by omega)
    · exact invert two_pos (by norm_num) (two_zpow_le_ten_zpow_of_le (by omega) (by omega))
  · rcases le_or_gt 0 (e + 1) with up | down
    · exact two_zpow_le_ten_zpow_of_le up (by omega)
    · exact invert (by norm_num) two_pos (ten_zpow_le_two_zpow_of_le (by omega) (by omega))

theorem log_magnitude_bounds {code : Nat} (positive : code ≠ 0) (finite : code < infinityCode) :
    -1074 ≤ Int.log 2 (magnitude code) ∧ Int.log 2 (magnitude code) ≤ 1023 := by
  have scale := unitExponent_magnitude positive
  obtain ⟨least, below, -⟩ := significand_bounds code
  have pos := magnitude_pos positive
  have one : (1 : ℚ) ≤ significand code := by exact_mod_cast significand_pos positive
  have top : exponent code ≤ 971 := by
    simp only [exponent, infinityCode, Nat.pow_eq] at finite ⊢
    split <;> omega
  constructor
  · rw [← Int.zpow_le_iff_le_log (by decide) pos]
    calc ((2 : Nat) : ℚ) ^ (-1074 : ℤ) ≤ 2 ^ exponent code := by
          rw [Nat.cast_ofNat]
          exact zpow_le_zpow_right₀ one_le_two least
      _ ≤ magnitude code := le_mul_of_one_le_left (zpow_nonneg zero_le_two _) one
  · rw [unitExponent] at scale
    omega

theorem point_bounds {code : Nat} (positive : code ≠ 0) (finite : code < infinityCode) :
    (10 : ℚ) ^ (point code - 1) ≤ magnitude code ∧ magnitude code < 10 ^ point code := by
  have pos := magnitude_pos positive
  have top : (ratio code).1 ≠ 0 := by
    intro zero
    rw [← ratio_div, zero, Nat.cast_zero, zero_div] at pos
    exact lt_irrefl _ pos
  have exponent : binaryExponent (ratio code).1 (ratio code).2 = Int.log 2 (magnitude code) := by
    rw [binaryExponent_eq_log top (ratio_den_ne_zero code), ratio_div]
  have below (k : ℤ) : (ratio code).1 * Nat.pow 10 (-k).toNat < (ratio code).2 * Nat.pow 10 k.toNat ↔
      magnitude code < 10 ^ k := by
    rw [scaled_lt_iff (by decide) (ratio_den_ne_zero code), ratio_div, Nat.cast_ofNat]
  obtain ⟨low, high⟩ := log_magnitude_bounds positive finite
  obtain ⟨above, under⟩ := guess_bounds low high
  replace above := above.trans (Int.zpow_log_le_self (by decide) pos)
  replace under := (Int.lt_zpow_succ_log_self (b := 2) (by decide) (magnitude code)).trans_le under
  simp only [point, decimalPoint, exponent, decide_eq_true_eq, below]
  generalize Int.log 2 (magnitude code) * 30103 / 100000 = guess at above under
  split
  · rename_i here
    exact ⟨by rwa [show guess - 1 - 1 = guess - 2 by ring], here⟩
  · rename_i notBefore
    split
    · rename_i here
      exact ⟨not_lt.1 notBefore, here⟩
    · rename_i notBefore
      split
      · rename_i here
        exact ⟨by rw [add_sub_cancel_right]; exact not_lt.1 notBefore, here⟩
      · rename_i notBefore
        exact ⟨by rw [show guess + 2 - 1 = guess + 1 by ring]; exact not_lt.1 notBefore, under⟩

structure Around (u : ℚ) (first second : Nat) : Prop where
  sides : (first ≤ u ∧ u < second ∧ second = first + 1) ∨ (second ≤ u ∧ u < first ∧ first = second + 1)
  nearer : |first - u| ≤ |second - u|
  even : |first - u| = |second - u| → first % 2 = 0

def Chosen (u : ℚ) (c other : Nat) : Prop :=
  |c - u| < |other - u| ∨ |c - u| = |other - u| ∧ (other ≠ c → c % 2 = 0)

variable {u : ℚ} {first second c : Nat}

theorem around_of_fraction (low : Nat) {f : ℚ} (nonneg : 0 ≤ f) (less : f < 1) :
    Around (low + f) (if f < 1 / 2 ∨ f = 1 / 2 ∧ low % 2 = 0 then low else low + 1)
      (if f < 1 / 2 ∨ f = 1 / 2 ∧ low % 2 = 0 then low + 1 else low) := by
  have below : |(low : ℚ) - (low + f)| = f := by rw [sub_add_cancel_left, abs_neg, abs_of_nonneg nonneg]
  have above : |((low + 1 : Nat) : ℚ) - (low + f)| = 1 - f := by
    rw [Nat.cast_succ, add_sub_add_left_eq_sub, abs_of_pos (by linarith)]
  split
  · rename_i lower
    refine ⟨.inl ⟨by linarith, by push_cast; linarith, rfl⟩, ?_, fun tie => ?_⟩
    · rw [below, above]
      rcases lower with half | half
      · linarith
      · linarith [half.1]
    · rw [below, above] at tie
      exact (lower.resolve_left (by linarith)).2
  · rename_i upper
    obtain ⟨notLess, notEven⟩ := not_or.1 upper
    refine ⟨.inr ⟨by linarith, by push_cast; linarith, rfl⟩, ?_, fun tie => ?_⟩
    · rw [below, above]
      linarith
    · rw [below, above] at tie
      have odd : ¬low % 2 = 0 := fun even => notEven ⟨by linarith, even⟩
      omega

theorem around_gridNeighbours (num : Nat) {den : Nat} (hd : den ≠ 0) (e : ℤ) :
    ∃ first second, gridNeighbours num den e = [first, second] ∧ Around (num / den / 10 ^ e) first second := by
  have bottom := scaled_pos (b := 10) (by decide) hd e.toNat
  have quotient := scaled_div (b := 10) (by decide) num den e
  rw [Nat.cast_ofNat] at quotient
  rw [← quotient]
  unfold gridNeighbours
  dsimp only
  generalize num * Nat.pow 10 (-e).toNat = n
  generalize den * Nat.pow 10 e.toNat = d at bottom
  have bottom' : (0 : ℚ) < d := by exact_mod_cast bottom
  have same : (n : ℚ) / d = (n / d : Nat) + (n % d : Nat) / d := by
    rw [div_eq_iff bottom'.ne', add_mul, div_mul_cancel₀ _ bottom'.ne']
    exact_mod_cast (Nat.div_add_mod' n d).symm
  have less : ((n % d : Nat) : ℚ) / d < 1 := by
    rw [div_lt_one bottom']
    exact_mod_cast Nat.mod_lt n bottom
  have half : (2 * (n % d) < d ∨ 2 * (n % d) = d ∧ n / d % 2 = 0) ↔
      (((n % d : Nat) : ℚ) / d < 1 / 2 ∨ ((n % d : Nat) : ℚ) / d = 1 / 2 ∧ n / d % 2 = 0) := by
    rw [div_lt_div_iff₀ bottom' two_pos, div_eq_div_iff bottom'.ne' two_ne_zero, one_mul, mul_comm]
    norm_cast
  have around := around_of_fraction (n / d) (div_nonneg (Nat.cast_nonneg _) bottom'.le) less
  rw [← same] at around
  simp only [Bool.or_eq_true, Bool.and_eq_true, decide_eq_true_eq, beq_iff_eq, half]
  split
  · rename_i lower
    rw [if_pos lower, if_pos lower] at around
    exact ⟨_, _, rfl, around⟩
  · rename_i upper
    rw [if_neg upper, if_neg upper] at around
    exact ⟨_, _, rfl, around⟩

theorem Around.between (h : Around u first second) (c : Nat) : ∃ g, (g = first ∨ g = second) ∧
    (((c : ℚ) ≤ g ∧ g ≤ u) ∨ (u ≤ g ∧ (g : ℚ) ≤ c)) ∧ (|g - u| < |c - u| ∨ g = c) := by
  have farther {g : Nat} (between : ((c : ℚ) ≤ g ∧ g ≤ u) ∨ (u ≤ g ∧ (g : ℚ) ≤ c)) : |g - u| < |c - u| ∨ g = c := by
    rcases eq_or_ne g c with same | apart
    · exact .inr same
    · have apart : (g : ℚ) ≠ c := by exact_mod_cast apart
      left
      rcases between with ⟨le, le'⟩ | ⟨le, le'⟩
      · have less := lt_of_le_of_ne le apart.symm
        rw [abs_of_nonpos (by linarith), abs_of_nonpos (by linarith)]
        linarith
      · have less := lt_of_le_of_ne le' apart
        rw [abs_of_nonneg (by linarith), abs_of_nonneg (by linarith)]
        linarith
  have choose {low high : Nat} (le : low ≤ u) (less : u < high) (next : high = low + 1) :
      ((c : ℚ) ≤ low ∧ low ≤ u) ∨ (u ≤ high ∧ (high : ℚ) ≤ c) := by
    rcases Nat.lt_or_ge low c with above | below
    · exact .inr ⟨less.le, by exact_mod_cast (by omega : high ≤ c)⟩
    · exact .inl ⟨by exact_mod_cast below, le⟩
  rcases h.sides with ⟨le, less, next⟩ | ⟨le, less, next⟩
  · rcases choose le less next with before | behind
    · exact ⟨first, .inl rfl, .inl before, farther (.inl before)⟩
    · exact ⟨second, .inr rfl, .inr behind, farther (.inr behind)⟩
  · rcases choose le less next with before | behind
    · exact ⟨second, .inr rfl, .inl before, farther (.inl before)⟩
    · exact ⟨first, .inl rfl, .inr behind, farther (.inr behind)⟩

theorem chosen_of_nearer {g other : Nat} (h : |g - u| < |other - u| ∨ g = other) : Chosen u g other := by
  rcases h with less | rfl
  · exact .inl less
  · exact .inr ⟨rfl, fun apart => absurd rfl apart⟩

theorem Around.chosen (h : Around u first second) : Chosen u first second :=
  h.nearer.lt_or_eq.imp_right fun tie => ⟨tie, fun _ => h.even tie⟩

theorem Around.le_add_one (h : Around u first second) : (first : ℚ) ≤ u + 1 ∧ (second : ℚ) ≤ u + 1 := by
  rcases h.sides with ⟨le, less, next⟩ | ⟨le, less, next⟩
  · rw [next, Nat.cast_succ]
    constructor <;> linarith
  · rw [next, Nat.cast_succ]
    constructor <;> linarith

theorem Around.half (h : Around u first second) : |first - u| ≤ 1 / 2 := by
  have nearer := h.nearer
  rcases h.sides with ⟨le, less, next⟩ | ⟨le, less, next⟩
  · rw [next, Nat.cast_succ] at nearer less
    rw [abs_of_nonpos (by linarith), abs_of_pos (by linarith)] at nearer
    rw [abs_of_nonpos (by linarith)]
    linarith
  · rw [next, Nat.cast_succ] at nearer less ⊢
    rw [abs_of_pos (by linarith), abs_of_nonpos (by linarith)] at nearer
    rw [abs_of_pos (by linarith)]
    linarith

section Grid
variable {code : Nat} {e : ℤ}

theorem ofDecimal_between {c d : Nat} {f : ℤ} (finite : code < infinityCode) (reads : ofDecimal c e = code)
    (between : ((c : ℚ) * 10 ^ e ≤ d * 10 ^ f ∧ d * 10 ^ f ≤ magnitude code) ∨
      (magnitude code ≤ d * 10 ^ f ∧ (d : ℚ) * 10 ^ f ≤ c * 10 ^ e)) : ofDecimal d f = code := by
  -- Between a decimal that reads back and the magnitude itself all decimals read back.
  rw [ofDecimal_eq_rounded] at reads ⊢
  have itself := rounded_magnitude finite
  rcases between with ⟨le, le'⟩ | ⟨le, le'⟩
  · exact rounded_between (mul_nonneg (Nat.cast_nonneg _) (zpow_nonneg (by norm_num) _)) le le' reads itself
  · have nonneg : 0 ≤ magnitude code := mul_nonneg (Nat.cast_nonneg _) (zpow_nonneg zero_le_two _)
    exact rounded_between nonneg le le' itself reads

theorem onGrid?_reads {c : Nat} (hit : onGrid? code e = some c) : ofDecimal c e = code := by
  simpa using List.find?_some hit

theorem onGrid?_spec {c' : Nat} (finite : code < infinityCode) (reads : ofDecimal c' e = code) :
    ∃ c, onGrid? code e = some c ∧ (c : ℚ) ≤ magnitude code / 10 ^ e + 1 ∧
      ∀ other, ofDecimal other e = code → Chosen (magnitude code / 10 ^ e) c other := by
  obtain ⟨first, second, neighbours, around⟩ := around_gridNeighbours (ratio code).1 (ratio_den_ne_zero code) e
  rw [ratio_div] at around
  have unit : (0 : ℚ) < 10 ^ e := zpow_pos (by norm_num) e
  -- Of the neighbours one reads back if any multiple does.
  have neighbour {other : Nat} (reads : ofDecimal other e = code) : ∃ g, (g = first ∨ g = second) ∧
      ofDecimal g e = code ∧ (|g - magnitude code / 10 ^ e| < |other - magnitude code / 10 ^ e| ∨ g = other) := by
    obtain ⟨g, isNeighbour, between, nearer⟩ := around.between other
    refine ⟨g, isNeighbour, ofDecimal_between finite reads ?_, nearer⟩
    rw [le_div_iff₀ unit, div_le_iff₀ unit] at between
    exact between.imp (And.imp_left fun le => mul_le_mul_of_nonneg_right le unit.le)
      (And.imp_right fun le => mul_le_mul_of_nonneg_right le unit.le)
  unfold onGrid?
  rw [neighbours]
  by_cases hit : ofDecimal first e = code
  · refine ⟨first, by simp [hit], around.le_add_one.1, fun other reads => ?_⟩
    obtain ⟨g, isNeighbour, -, nearer⟩ := neighbour reads
    rcases isNeighbour with rfl | rfl
    · exact chosen_of_nearer nearer
    · rcases nearer with less | rfl
      · exact .inl (around.nearer.trans_lt less)
      · exact around.chosen
  · have only {g : Nat} (isNeighbour : g = first ∨ g = second) (reads : ofDecimal g e = code) : g = second :=
      isNeighbour.resolve_left fun same => hit (same ▸ reads)
    obtain ⟨g, isNeighbour, hit', -⟩ := neighbour reads
    obtain rfl := only isNeighbour hit'
    refine ⟨g, by simp [hit, hit'], around.le_add_one.2, fun other reads => ?_⟩
    obtain ⟨g', isNeighbour, reads', nearer⟩ := neighbour reads
    obtain rfl := only isNeighbour reads'
    exact chosen_of_nearer nearer

theorem exists_seventeen (positive : code ≠ 0) (finite : code < infinityCode) :
    ∃ c, ofDecimal c (point code - 17) = code := by
  obtain ⟨low, -⟩ := point_bounds positive finite
  generalize point code = point at low ⊢
  obtain ⟨first, second, -, around⟩ := around_gridNeighbours (ratio code).1 (ratio_den_ne_zero code) (point - 17)
  rw [ratio_div] at around
  have unit : (0 : ℚ) < 10 ^ (point - 17) := zpow_pos (by norm_num) _
  have close : |first * 10 ^ (point - 17) - magnitude code| ≤ 1 / 2 * 10 ^ (point - 17) := by
    rw [← div_mul_cancel₀ (magnitude code) unit.ne', ← sub_mul, abs_mul, abs_of_pos unit]
    exact mul_le_mul_of_nonneg_right around.half unit.le
  have split : (10 : ℚ) ^ (point - 1) = 10 ^ 16 * 10 ^ (point - 17) := by
    rw [← zpow_natCast, ← zpow_add₀ (by norm_num)]
    congr 1
    push_cast
    ring
  refine ⟨first, ?_⟩
  rw [ofDecimal_eq_rounded]
  refine rounded_of_close positive finite (close.trans_lt ?_)
  rw [split] at low
  norm_num at low ⊢
  linarith

/-- A decimal that is read as a magnitude, on the coarsest grid that has one, and chosen before the others there. -/
structure IsCoarsest (code c : Nat) (e : ℤ) : Prop where
  reads : ofDecimal c e = code
  below : e < point code
  le : c ≤ 10 ^ (point code - e).toNat
  chosen : ∀ other, ofDecimal other e = code → Chosen (magnitude code / 10 ^ e) c other
  coarser : ∀ f, e < f → f < point code → ∀ other, ofDecimal other f ≠ code

theorem le_pow_of_le_add_one {c : Nat} (positive : code ≠ 0) (finite : code < infinityCode) (below : e < point code)
    (le : (c : ℚ) ≤ magnitude code / 10 ^ e + 1) : c ≤ 10 ^ (point code - e).toNat := by
  obtain ⟨-, high⟩ := point_bounds positive finite
  have less : magnitude code / 10 ^ e < 10 ^ (point code - e).toNat := by
    rw [div_lt_iff₀ (zpow_pos (by norm_num) e), ← zpow_natCast, ← zpow_add₀ (by norm_num),
      Int.toNat_of_nonneg (by omega), sub_add_cancel]
    exact high
  have less' : (c : ℚ) < (10 ^ (point code - e).toNat + 1 : Nat) := by
    push_cast
    linarith
  exact Nat.lt_succ_iff.1 (by exact_mod_cast less')

theorem isCoarsest_decimal (positive : code ≠ 0) (finite : code < infinityCode) :
    IsCoarsest code (decimal code).1 (decimal code).2 := by
  obtain ⟨c₀, reads₀⟩ := exists_seventeen positive finite
  have coarsest : coarsest? code = (List.range 17).findSome? fun n =>
      (onGrid? code (point code - (n + 1 : Nat))).map fun c => (c, point code - (n + 1 : Nat)) := rfl
  rw [decimal]
  cases found : coarsest? code with
  | none =>
      obtain ⟨c, hit, -⟩ := onGrid?_spec finite reads₀
      have missed := List.findSome?_eq_none_iff.1 (coarsest ▸ found) 16 (by decide)
      rw [Option.map_eq_none_iff] at missed
      exact absurd (missed.symm.trans hit) (by simp)
  | some d =>
      obtain ⟨before, n, behind, split, hit, missed⟩ := List.findSome?_eq_some_iff.1 (coarsest ▸ found)
      rw [List.range_eq_range', List.range'_eq_append_iff] at split
      obtain ⟨k, -, rfl, same⟩ := split
      have counted : k = n ∧ k < 17 := by
        cases size : 17 - k with
        | zero => simp [size] at same
        | succ more =>
            rw [size, List.range'_succ, List.cons.injEq] at same
            omega
      obtain ⟨rfl, -⟩ := counted
      obtain ⟨c, onGrid, rfl⟩ := Option.map_eq_some_iff.1 hit
      have reads := onGrid?_reads onGrid
      obtain ⟨c', onGrid', bound, chosen⟩ := onGrid?_spec finite reads
      obtain rfl := Option.some.inj (onGrid.symm.trans onGrid')
      have below : point code - (k + 1 : Nat) < point code := by omega
      refine ⟨reads, below, le_pow_of_le_add_one positive finite below bound, chosen,
        fun f finer less other reads => ?_⟩
      -- A coarser grid has been tried before.
      simp only [Option.getD_some] at finer
      obtain ⟨m, rfl⟩ : ∃ m : Nat, f = point code - (m + 1 : Nat) := ⟨(point code - f - 1).toNat, by omega⟩
      obtain ⟨c', onGrid', -⟩ := onGrid?_spec finite reads
      have missed := missed m (List.mem_range'_1.2 (by omega))
      rw [onGrid'] at missed
      cases missed

end Grid

end PageComposer.Binary64
