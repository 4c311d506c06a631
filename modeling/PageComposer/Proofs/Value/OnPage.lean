import PageComposer.Proofs.Tag.Grammar
import PageComposer.Property

/-!
# Values on a page

A number is written with digits, signs, a point and an exponent mark, so that a value which comes from a
text without braces is shown without braces (`braceless_onPage`).
-/

namespace PageComposer

def isNumeric (c : Char) : Bool := c.isDigit || c == '-' || c == '+' || c == '.' || c == 'e'

def Numeric (s : Text) : Prop := ∀ c ∈ s, isNumeric c = true

namespace Numeric

theorem of_all {s : Text} (h : s.all isNumeric = true) : Numeric s := List.all_eq_true.1 h

theorem append {s t : Text} (hs : Numeric s) (ht : Numeric t) : Numeric (s ++ t) :=
  List.forall_mem_append.2 ⟨hs, ht⟩

theorem cons {c : Char} {s : Text} (hc : isNumeric c = true) (hs : Numeric s) :
    Numeric (c :: s) :=
  List.forall_mem_cons.2 ⟨hc, hs⟩

theorem take {s : Text} (hs : Numeric s) (n : Nat) : Numeric (s.take n) :=
  fun c hc => hs c (List.mem_of_mem_take hc)

theorem drop {s : Text} (hs : Numeric s) (n : Nat) : Numeric (s.drop n) :=
  fun c hc => hs c (List.mem_of_mem_drop hc)

theorem replicate_zero (n : Nat) : Numeric (List.replicate n '0') := by
  intro c hc
  rw [List.eq_of_mem_replicate hc]
  rfl

theorem ofNat (n : Nat) : Numeric (Text.ofNat n) := by
  intro c hc
  have digit : c.isDigit = true := Nat.isDigit_of_mem_toDigits (by decide) (by decide) hc
  simp [isNumeric, digit]

theorem ofInt (n : Int) : Numeric (Text.ofInt n) := by
  cases n with
  | ofNat n => exact ofNat n
  | negSucc n => exact cons rfl (ofNat _)

end Numeric

theorem Text.mem_of_mem_dropEndWhile {p : Char → Bool} {s : Text} {c : Char}
    (h : c ∈ dropEndWhile p s) : c ∈ s := by
  have inner := (List.dropWhile_sublist p).subset (List.mem_reverse.1 h)
  exact List.mem_reverse.1 inner

namespace Layout

theorem numeric_zeros (n : Int) : Numeric (zeros n) := Numeric.replicate_zero _

theorem numeric_positional {layout : Layout} {d : Digits} (h : Numeric d.digits) :
    Numeric (layout.positional d) := by
  unfold positional
  split
  · have lead : Numeric "0.".toList := .of_all rfl
    exact (lead.append (numeric_zeros _)).append h
  · split
    · exact (h.take _).append ((h.drop _).cons rfl)
    · refine (h.append (numeric_zeros _)).append ?_
      split <;> exact .of_all rfl

theorem numeric_exponent (layout : Layout) (e : Int) : Numeric (layout.exponent e) := by
  have padded : Numeric (Text.padLeft layout.exponentWidth '0' (Text.ofNat e.natAbs)) :=
    (Numeric.replicate_zero _).append (Numeric.ofNat _)
  unfold exponent
  refine .cons rfl (.cons ?_ padded)
  split <;> rfl

theorem numeric_scientific {layout : Layout} {d : Digits} (h : Numeric d.digits) :
    Numeric (layout.scientific d) := by
  unfold scientific
  refine ((h.take 1).append ?_).append (numeric_exponent layout _)
  split
  · split <;> exact .of_all rfl
  · exact .cons rfl (h.drop 1)

theorem numeric_shortest (code : Nat) : Numeric (Binary64.shortest code).digits :=
  fun _ hc => Numeric.ofNat _ _ (Text.mem_of_mem_dropEndWhile hc)

theorem mem_write {layout : Layout} {x : Binary64} {c : Char} (h : c ∈ layout.write x) :
    isNumeric c = true ∨ c ∈ layout.notANumber ∨ c ∈ layout.infinite := by
  unfold write at h
  split at h
  · exact .inr (.inl h)
  · rcases List.mem_append.1 h with sign | h
    · have numeric : Numeric (if x.negative then ['-'] else []) := by split <;> exact .of_all rfl
      exact .inl (numeric c sign)
    · split at h
      · exact .inr (.inr h)
      · left
        split at h
        · have numeric : Numeric ('0' :: (if layout.wholePoint then ".0".toList else [])) := by
            split <;> exact .of_all rfl
          exact numeric c h
        · have digits := numeric_shortest x.code
          unfold writeDigits at h
          split at h
          · exact numeric_positional digits c h
          · exact numeric_scientific digits c h

end Layout

def isPlain (c : Char) : Bool := c.isAlpha || isNumeric c

theorem isBrace_of_isPlain {c : Char} (h : isPlain c = true) : Tag.isBrace c = false := by
  cases brace : Tag.isBrace c with
  | false => rfl
  | true =>
      simp only [Tag.isBrace, Bool.or_eq_true, beq_iff_eq] at brace
      rcases brace with rfl | rfl <;> cases h

theorem isPlain_of_isNumeric {c : Char} (h : isNumeric c = true) : isPlain c = true := by
  simp [isPlain, h]

theorem isPlain_number {x : Binary64} {c : Char} (h : c ∈ (Value.number x).onPage) : isPlain c = true := by
  rw [Value.onPage] at h
  split at h
  · exact isPlain_of_isNumeric (Numeric.ofInt _ c h)
  · rcases Layout.mem_write h with numeric | nan | infinite
    · exact isPlain_of_isNumeric numeric
    · exact List.all_eq_true.1 (show Value.pageLayout.notANumber.all isPlain = true from rfl) c nan
    · exact List.all_eq_true.1 (show Value.pageLayout.infinite.all isPlain = true from rfl) c infinite

theorem mem_onPage {raw : Text} {value : Value} (read : Property.coerce raw = .ok value) {c : Char}
    (h : c ∈ value.onPage) : c ∈ raw ∨ isPlain c = true := by
  unfold Property.coerce at read
  split at read
  · cases read
    exact .inr (List.all_eq_true.1 (show "true".toList.all isPlain = true from rfl) c h)
  · split at read
    · cases read
      exact .inr (List.all_eq_true.1 (show "false".toList.all isPlain = true from rfl) c h)
    · split at read
      · cases number : Numeral.readInteger raw with
        | error e => simp [number, Except.map] at read
        | ok n =>
            simp only [number, Except.map, Except.ok.injEq] at read
            subst read
            exact .inr (isPlain_of_isNumeric (Numeric.ofInt n c h))
      · split at read
        · cases read
          exact .inr (isPlain_number h)
        · cases read
          exact .inl h

theorem braceless_onPage {raw : Text} {value : Value} (read : Property.coerce raw = .ok value)
    (braceless : Tag.Braceless raw) : Tag.Braceless value.onPage := by
  intro c hc
  rcases mem_onPage read hc with written | plain
  · exact braceless c written
  · exact isBrace_of_isPlain plain

end PageComposer
