import PageComposer.Proofs.Value.Notation
import PageComposer.Proofs.Value.OnPage

/-!
# Values read back

What a value looks like on a page can be read again, and it then looks the same and is the same number
(`coerce_onPage`): a number that is written out is read as that integer, every other finite number as itself, and an
infinity as a text.
-/

namespace PageComposer
open Numeral

namespace Property

def ReadsBack (s : Text) : Prop := ∃ value, coerce s = .ok value ∧ value.onPage = s

theorem coerce_signed (negative : Bool) {s : Text} (lead : ∀ c ∈ s.head?, c.isDigit = true)
    (nonempty : s ≠ []) : coerce (signed negative s) =
      if isInteger (signed negative s) then (readInteger (signed negative s)).map .integer
      else match decimal? (signed negative s) with
        | some x => .ok (.number x)
        | none => .ok (.text (signed negative s)) := by
  have start : ∀ c ∈ (signed negative s).head?, c ≠ 't' ∧ c ≠ 'f' := by
    obtain ⟨c, s, rfl⟩ := List.exists_cons_of_ne_nil nonempty
    have digit := lead c rfl
    cases negative with
    | true => simp [signed]
    | false =>
        rintro d hd
        cases hd
        exact ⟨fun h => by simp [h] at digit, fun h => by simp [h] at digit⟩
  have noTrue : signed negative s ≠ "true".toList := fun h => (start 't' (by rw [h]; rfl)).1 rfl
  have noFalse : signed negative s ≠ "false".toList := fun h => (start 'f' (by rw [h]; rfl)).2 rfl
  exact (if_neg noTrue).trans (if_neg noFalse)

theorem coerce_digits (negative : Bool) {s : Text} (digits : isDigits s = true) (short : s.length ≤ digitLimit) :
    coerce (signed negative s) = .ok (.integer (if negative then -(value s : Int) else value s)) := by
  obtain ⟨nonempty, all⟩ := isDigits_iff.1 digits
  rw [coerce_signed negative (fun c hc => all c (List.mem_of_mem_head? hc)) nonempty,
    isInteger_signed negative digits, readInteger_signed negative digits short]
  rfl

theorem coerce_decimal (negative : Bool) {s : Text} {x : Binary64} (lead : ∀ c ∈ s.head?, c.isDigit = true)
    {c : Char} (member : c ∈ s) (other : c.isDigit = false) (read : decimal? (signed negative s) = some x) :
    coerce (signed negative s) = .ok (.number x) := by
  rw [coerce_signed negative lead (List.ne_nil_of_mem member), not_isInteger_signed negative lead member other,
    read]
  rfl

theorem coerce_pointed (negative : Bool) {s : Text} {code : Nat} (pointed : IsPointed code s) :
    coerce (signed negative s) = .ok (.number ⟨negative, code⟩) := by
  have read := pointed.decimal? negative
  obtain @⟨whole, fraction, tail, e, digits, -, -, -⟩ := pointed
  obtain ⟨nonempty, all⟩ := isDigits_iff.1 digits
  exact coerce_decimal negative (head_append nonempty all) (c := '.') (by simp) rfl read

theorem coerce_ofInt {n : Int} (short : (Text.ofNat n.natAbs).length ≤ digitLimit) :
    coerce (Text.ofInt n) = .ok (.integer n) := by
  have same : (if decide (n < 0) then -(value (Text.ofNat n.natAbs) : Int) else value (Text.ofNat n.natAbs)) = n := by
    rw [value_ofNat]
    by_cases negative : n < 0
    · simp only [negative, decide_true, if_true]
      omega
    · simp only [negative, decide_false]
      change (n.natAbs : Int) = n
      omega
  rw [ofInt_eq_signed, coerce_digits _ (isDigits_ofNat _) short, same]

theorem length_ofNat_le {n k : Nat} (hk : 0 < k) (below : n < 10 ^ k) : (Text.ofNat n).length ≤ k :=
  (Nat.length_toDigits_le_iff (by decide) hk).2 below

theorem length_of_readInteger {raw : Text} {n : Int} (integer : isInteger raw = true)
    (read : readInteger raw = .ok n) : (Text.ofNat n.natAbs).length ≤ digitLimit := by
  obtain ⟨nonempty, digits⟩ := isDigits_iff.1 integer
  simp only [readInteger] at read
  split at read
  · cases read
  · rename_i short
    have bound := (length_ofNat_value nonempty digits).trans (Nat.not_lt.1 short)
    cases read
    split
    · simpa using bound
    · exact bound

end Property

namespace Layout

variable {layout : Layout} {d : Digits} {code : Nat}

theorem coerce_scientific (negative : Bool) (stands : d.StandsFor code) (noPoint : layout.mantissaPoint = false) :
    Property.coerce (signed negative (layout.scientific d)) = .ok (.number ⟨negative, code⟩) := by
  rcases Nat.lt_or_ge 1 d.digits.length with several | single
  · exact Property.coerce_pointed negative (pointed_scientific stands (.inr several))
  · obtain ⟨nonempty, digits⟩ := isDigits_iff.1 stands.digits
    obtain ⟨c, split⟩ := List.length_eq_one_iff.1 (Nat.le_antisymm single (List.length_pos_of_ne_nil nonempty))
    have digit := digits c (by simp [split])
    have whole : isDigits [c] = true := isDigits_iff.2 ⟨by simp, by simpa using digit⟩
    have written : layout.scientific d = [c] ++ layout.exponent (d.point - 1) := by simp [scientific, split, noPoint]
    have read := decimal?_whole negative whole (head_exponent layout (d.point - 1))
    have reads := stands.reads
    rw [split] at reads
    rw [exponent?_exponent, Option.map_some, show d.point - 1 = d.point - ([c].length : Nat) from rfl, reads] at read
    rw [written]
    have mark : 'e' ∈ layout.exponent (d.point - 1) := List.mem_cons_self
    exact Property.coerce_decimal negative (by simpa using digit) (List.mem_append_right _ mark) rfl read

end Layout

namespace Property

theorem code_of_decimal? {raw : Text} {x : Binary64} (read : decimal? raw = some x) :
    x.code ≤ Binary64.infinityCode := by
  have bound (digits : Nat) (e : Int) : Binary64.ofDecimal digits e ≤ Binary64.infinityCode := by
    rw [Binary64.ofDecimal_eq_nearest, Binary64.nearest]
    split
    · exact Nat.zero_le _
    · exact Nat.min_le_left _ _
  simp only [decimal?] at read
  split at read
  all_goals
    rw [Option.ite_none_left_eq_some] at read
    obtain ⟨e, -, rfl⟩ := Option.map_eq_some_iff.1 read.2
    exact bound _ _

theorem coerce_write {x : Binary64} (finite : x.isFinite = true) (notOut : Value.writtenOut x ≠ true) :
    coerce (Value.pageLayout.write x) = .ok (.number x) := by
  obtain ⟨negative, code⟩ := x
  have finite : code < Binary64.infinityCode := of_decide_eq_true finite
  have positive : code ≠ 0 := by
    rintro rfl
    exact notOut (Value.writtenOut_zero negative)
  have stands := Binary64.standsFor_shortest positive finite
  rw [Layout.write_eq_signed Value.pageLayout negative positive finite, Layout.writeDigits]
  split
  · rename_i range
    rcases Int.lt_or_le (Binary64.shortest code).point (Binary64.shortest code).digits.length with fraction | whole
    · exact coerce_pointed negative (Layout.pointed_fraction _ stands fraction)
    · exact absurd (Value.writtenOut_of_shortest negative positive finite whole range.2) notOut
  · exact Layout.coerce_scientific negative stands rfl

def reread : Value → Value
  | .number x =>
    if Value.writtenOut x then .integer x.truncate
    else if x.isFinite then .number x
    else .text (Value.number x).onPage
  | value => value

theorem onPage_reread (value : Value) : (reread value).onPage = value.onPage := by
  cases value with
  | number x =>
      rw [reread]
      split
      · rename_i out
        rw [Value.onPage, if_pos out]
        rfl
      · split <;> rfl
  | _ => rfl

theorem coerce_onPage_number {x : Binary64} (bound : x.code ≤ Binary64.infinityCode) :
    coerce (Value.number x).onPage = .ok (reread (.number x)) := by
  rw [reread]
  split
  · rename_i out
    have whole := out
    rw [Value.writtenOut, Bool.and_eq_true, decide_eq_true_eq] at whole
    rw [Value.onPage, if_pos out]
    exact coerce_ofInt ((length_ofNat_le (by decide) whole.2).trans (by decide))
  · rename_i notOut
    split
    · rename_i finite
      rw [Value.onPage, if_neg notOut]
      exact coerce_write finite notOut
    · rename_i infinite
      obtain ⟨negative, code⟩ := x
      obtain rfl : code = Binary64.infinityCode := by
        rw [Binary64.isFinite, decide_eq_true_eq] at infinite
        exact bound.antisymm (Nat.not_lt.1 infinite)
      cases negative <;> rfl

theorem coerce_onPage_eq {raw : Text} {value : Value} (read : coerce raw = .ok value) :
    coerce value.onPage = .ok (reread value) := by
  have whole := read
  unfold coerce at read
  split at read
  · cases read
    rfl
  · split at read
    · cases read
      rfl
    · split at read
      · rename_i integer
        cases number : readInteger raw with
        | error e => simp [number, Except.map] at read
        | ok n =>
            simp only [number, Except.map, Except.ok.injEq] at read
            subst read
            exact coerce_ofInt (length_of_readInteger integer number)
      · split at read
        · rename_i x found
          cases read
          exact coerce_onPage_number (code_of_decimal? found)
        · cases read
          exact whole

theorem readsBack_onPage {raw : Text} {value : Value} (read : coerce raw = .ok value) :
    ReadsBack value.onPage :=
  ⟨reread value, coerce_onPage_eq read, onPage_reread value⟩

end Property

def Value.amount? : Value → Option ℚ
  | integer n => some n
  | number x =>
    if x.isFinite then some (if x.negative then -Binary64.magnitude x.code else Binary64.magnitude x.code) else none
  | _ => none

namespace Property

theorem amount?_reread (value : Value) : (reread value).amount? = value.amount? := by
  cases value with
  | number x =>
      rw [reread]
      split
      · rename_i out
        have finite : x.isFinite = true := by
          simp only [Value.writtenOut, Binary64.isWhole, Bool.and_eq_true] at out
          exact out.1.1
        obtain ⟨n, -, same⟩ := (Value.writtenOut_iff finite).1 out
        simp only [Value.amount?, finite, Binary64.truncate_of_magnitude same, same]
        split <;> simp
      · split
        · rfl
        · rename_i infinite
          simp only [Value.amount?, infinite]
          rfl
  | _ => rfl

/-- What has been read can be read again from a page, where it looks the same and is the same number. -/
theorem coerce_onPage {raw : Text} {value : Value} (read : coerce raw = .ok value) :
    ∃ again, coerce value.onPage = .ok again ∧ again.onPage = value.onPage ∧ again.amount? = value.amount? :=
  ⟨reread value, coerce_onPage_eq read, onPage_reread value, amount?_reread value⟩

theorem coerce_onPage_padded : coerce "-00.50e+1".toList = .ok (.number ⟨true, 0x4014000000000000⟩) ∧
    ∃ again, coerce "-5".toList = .ok again ∧ again.onPage = "-5".toList ∧ again.amount? = some (-5) := by
  have read : coerce "-00.50e+1".toList = .ok (.number ⟨true, 0x4014000000000000⟩) := by
    have number : decimal? "-00.50e+1".toList = some ⟨true, 0x4014000000000000⟩ := by decide +kernel
    rw [coerce, if_neg (by decide), if_neg (by decide), if_neg (by decide), number]
  have shown : (Value.number ⟨true, 0x4014000000000000⟩).onPage = "-5".toList := by decide +kernel
  obtain ⟨again, read', same, amount⟩ := coerce_onPage read
  rw [shown] at read' same
  refine ⟨read, again, read', same, ?_⟩
  rw [amount]
  norm_num [Value.amount?, Binary64.isFinite, Binary64.infinityCode, Binary64.magnitude, Binary64.significand,
    Binary64.exponent]

end Property
end PageComposer
