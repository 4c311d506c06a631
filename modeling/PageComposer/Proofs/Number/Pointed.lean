import PageComposer.Number.Layout
import PageComposer.Proofs.Number.Numeral

/-!
# Numbers with a point

A number that is written with a point has digits on both sides of it and perhaps an exponent behind them
(`IsPointed`). It is read as the magnitude that its digits stand for (`IsPointed.decimal?`), and a layout that puts a
point wherever it can writes no others (`pointed_write`).
-/

namespace PageComposer
namespace Layout
open Numeral

theorem digits_zeros (n : Int) : ∀ c ∈ zeros n, c.isDigit = true := by
  intro c hc
  rw [List.eq_of_mem_replicate hc]
  rfl

theorem digits_padLeft (width n : Nat) : isDigits (Text.padLeft width '0' (Text.ofNat n)) = true := by
  refine isDigits_iff.2 ⟨by simp [Text.padLeft, Text.ofNat], fun c hc => ?_⟩
  rcases List.mem_append.1 hc with zero | digit
  · rw [List.eq_of_mem_replicate zero]
    rfl
  · exact digits_ofNat _ c digit

theorem exponent?_exponent (layout : Layout) (e : Int) : exponent? (layout.exponent e) = some e := by
  have digits := digits_padLeft layout.exponentWidth e.natAbs
  have value' : value (Text.padLeft layout.exponentWidth '0' (Text.ofNat e.natAbs)) = e.natAbs := by
    rw [Text.padLeft, value_append, value_of_zeros fun c hc => List.eq_of_mem_replicate hc, value_ofNat]
    omega
  by_cases negative : e < 0
  · simp only [exponent, negative, if_true, exponent?, sign, digits, value']
    simp [abs_of_neg negative]
  · simpa [exponent, negative, exponent?, sign, digits, value'] using Int.not_lt.1 negative

theorem head_exponent (layout : Layout) (e : Int) :
    ∀ c ∈ (layout.exponent e).head?, c.isDigit = false ∧ c ≠ '.' := by
  intro c hc
  cases hc
  decide

end Layout

namespace Numeral

inductive Ending : Text → Int → Prop
  | nothing : Ending [] 0
  | exponent (layout : Layout) (e : Int) : Ending (layout.exponent e) e

inductive IsPointed (code : Nat) : Text → Prop
  | mk {whole fraction tail : Text} {e : Int} (digits : isDigits whole = true) (digits' : isDigits fraction = true)
      (ending : Ending tail e) (reads : Binary64.ofDecimal (value (whole ++ fraction)) (e - fraction.length) = code) :
      IsPointed code (whole ++ '.' :: (fraction ++ tail))

theorem IsPointed.decimal? {code : Nat} {s : Text} (pointed : IsPointed code s) (negative : Bool) :
    decimal? (signed negative s) = some ⟨negative, code⟩ := by
  obtain @⟨whole, fraction, tail, e, digits, digits', ending, reads⟩ := pointed
  obtain ⟨-, all⟩ := isDigits_iff.1 digits'
  cases ending with
  | nothing => rw [decimal?_point negative digits all (by simp), ← reads]; rfl
  | exponent layout =>
      have stop := fun c hc => (layout.head_exponent e c hc).1
      rw [decimal?_point negative digits all stop, layout.exponent?_exponent, ← reads]
      rfl

end Numeral

namespace Layout
open Numeral

variable {layout : Layout} {d : Digits} {code : Nat}

theorem pointed_fraction (layout : Layout) (stands : d.StandsFor code) (fraction : d.point < d.digits.length) :
    IsPointed code (layout.positional d) := by
  obtain ⟨nonempty, digits⟩ := isDigits_iff.1 stands.digits
  unfold positional
  split
  · rename_i below
    have all : isDigits (zeros (-d.point) ++ d.digits) = true :=
      isDigits_iff.2 ⟨by simp [nonempty], List.forall_mem_append.2 ⟨digits_zeros _, digits⟩⟩
    have same : value (['0'] ++ (zeros (-d.point) ++ d.digits)) = value d.digits := by
      have lead : ∀ c ∈ ['0'] ++ zeros (-d.point), c = '0' :=
        List.forall_mem_cons.2 ⟨rfl, fun c hc => List.eq_of_mem_replicate hc⟩
      rw [← List.append_assoc, value_append, value_of_zeros lead, Nat.zero_mul, Nat.zero_add]
    have scale : (0 : Int) - (zeros (-d.point) ++ d.digits).length = d.point - d.digits.length := by
      simp only [zeros, List.length_append, List.length_replicate]
      omega
    have pointed : IsPointed code (['0'] ++ '.' :: (zeros (-d.point) ++ d.digits ++ [])) :=
      .mk rfl all .nothing (by rw [same, scale, stands.reads])
    simpa using pointed
  · rename_i above
    have whole : isDigits (d.digits.take d.point.toNat) = true := by
      refine isDigits_iff.2 ⟨?_, fun c hc => digits c (List.mem_of_mem_take hc)⟩
      simp only [ne_eq, List.take_eq_nil_iff, nonempty, or_false]
      omega
    have rest : isDigits (d.digits.drop d.point.toNat) = true := by
      refine isDigits_iff.2 ⟨?_, fun c hc => digits c (List.mem_of_mem_drop hc)⟩
      simp only [ne_eq, List.drop_eq_nil_iff]
      omega
    have scale : (0 : Int) - (d.digits.drop d.point.toNat).length = d.point - d.digits.length := by
      simp only [List.length_drop]
      omega
    have pointed := IsPointed.mk whole rest .nothing (by rw [List.take_append_drop, scale, stands.reads])
    rwa [List.append_nil] at pointed

theorem pointed_whole (stands : d.StandsFor code) (point : layout.wholePoint = true)
    (whole : d.digits.length ≤ d.point) :
    IsPointed code (layout.positional d) := by
  obtain ⟨nonempty, digits⟩ := isDigits_iff.1 stands.digits
  have length := List.length_pos_of_ne_nil nonempty
  have written : layout.positional d = d.digits ++ zeros (d.point - d.digits.length) ++ '.' :: (['0'] ++ []) := by
    rw [positional, if_neg (by omega), if_neg (by omega), point]
    rfl
  have all : isDigits (d.digits ++ zeros (d.point - d.digits.length)) = true :=
    isDigits_iff.2 ⟨by simp [nonempty], List.forall_mem_append.2 ⟨digits, digits_zeros _⟩⟩
  have reads : Binary64.ofDecimal (value (d.digits ++ zeros (d.point - d.digits.length) ++ ['0'])) (0 - 1) = code := by
    have zeros' : ∀ c ∈ zeros (d.point - d.digits.length) ++ ['0'], c = '0' :=
      List.forall_mem_append.2 ⟨fun c hc => List.eq_of_mem_replicate hc, by simp⟩
    have scale : (0 : Int) - 1 + (zeros (d.point - d.digits.length) ++ ['0']).length = d.point - d.digits.length := by
      simp only [zeros, List.length_append, List.length_replicate, List.length_singleton]
      omega
    rw [List.append_assoc, value_append, value_of_zeros zeros', Nat.add_zero, Binary64.ofDecimal_mul_pow, scale,
      stands.reads]
  rw [written]
  exact .mk all rfl .nothing reads

theorem pointed_scientific (stands : d.StandsFor code) (point : layout.mantissaPoint = true ∨ 1 < d.digits.length) :
    IsPointed code (layout.scientific d) := by
  obtain ⟨nonempty, digits⟩ := isDigits_iff.1 stands.digits
  obtain ⟨c, rest, split⟩ := List.exists_cons_of_ne_nil nonempty
  obtain ⟨digit, digits'⟩ := List.forall_mem_cons.1 (split ▸ digits)
  have whole : isDigits [c] = true := isDigits_iff.2 ⟨by simp, by simpa using digit⟩
  have reads := stands.reads
  rw [split, List.length_cons] at reads
  unfold scientific
  rw [split] at point ⊢
  cases rest with
  | nil =>
      have point : layout.mantissaPoint = true := by simpa using point
      have reads' : Binary64.ofDecimal (value ([c] ++ ['0'])) (d.point - 1 - 1) = code := by
        have zero : value ['0'] = 0 := rfl
        rw [value_append, zero, Nat.add_zero, Binary64.ofDecimal_mul_pow]
        simpa using reads
      have pointed := IsPointed.mk whole rfl (.exponent layout (d.point - 1)) reads'
      simpa [point] using pointed
  | cons c' rest =>
      have scale : d.point - 1 - ((c' :: rest).length : Int) = d.point - (((c' :: rest).length + 1 : Nat) : Int) := by
        push_cast
        omega
      have pointed := IsPointed.mk whole (isDigits_iff.2 ⟨by simp, digits'⟩) (.exponent layout (d.point - 1))
        (by rw [List.singleton_append, scale, reads])
      simpa using pointed

theorem write_eq_signed (layout : Layout) (negative : Bool) (positive : code ≠ 0)
    (finite : code < Binary64.infinityCode) :
    layout.write ⟨negative, code⟩ = signed negative (layout.writeDigits (Binary64.shortest code)) := by
  have noNaN : Binary64.isNaN ⟨negative, code⟩ = false := decide_eq_false (Nat.not_lt.2 finite.le)
  have noInfinity : Binary64.isInfinite ⟨negative, code⟩ = false := beq_false_of_ne finite.ne
  simp only [write, noNaN, noInfinity, positive, signed, if_false, Bool.false_eq_true]

theorem pointed_write (point : layout.wholePoint = true) (point' : layout.mantissaPoint = true) (positive : code ≠ 0)
    (finite : code < Binary64.infinityCode) : IsPointed code (layout.write ⟨false, code⟩) := by
  have stands := Binary64.standsFor_shortest positive finite
  rw [write_eq_signed layout false positive finite, signed, if_neg Bool.false_ne_true, List.nil_append, writeDigits]
  split
  · rcases Int.lt_or_le (Binary64.shortest code).point (Binary64.shortest code).digits.length with fraction | whole
    · exact pointed_fraction layout stands fraction
    · exact pointed_whole stands point whole
  · exact pointed_scientific stands (.inl point')

end Layout
end PageComposer
