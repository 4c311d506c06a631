import PageComposer.Proofs.Yaml.Lines
import PageComposer.Proofs.Yaml.Number
import PageComposer.Proofs.Yaml.Values
import PageComposer.Proofs.Yaml.Writing

/-!
# Scalars behind keys

A text, a flag and a number are written so that they can stand behind a key (`stands_write`), and are read as what they
are (`means_write`).
-/

namespace PageComposer.Yaml
open Scalar (Style Form Means isPrintable)

variable {indent : Nat}

theorem ofPlain_of_isPlain {s : Text} (plain : Scalar.isPlain s = true) : Kind.ofPlain s = .text := by
  simp only [Scalar.isPlain, Bool.and_eq_true, beq_iff_eq] at plain
  exact plain.1.1.1.1.1

theorem stands_plain {s : Text} (plain : Scalar.isPlain s = true) (column : Nat) :
    Stands indent (Scalar.plainFrom indent column ' ' s) s true := by
  have kind := ofPlain_of_isPlain plain
  simp only [Scalar.isPlain, Bool.and_eq_true, bne_iff_ne, Bool.not_eq_true', Bool.or_eq_false_iff,
    List.all_eq_true] at plain
  obtain ⟨⟨⟨⟨⟨-, printable⟩, noSpace⟩, noEnd⟩, ⟨noMark, noBlankMark⟩, noInnerMark⟩, -⟩ := plain
  cases s with
  | nil => cases kind
  | cons ch rest =>
      have form : Form indent .plain (Scalar.plainFrom indent column ' ' (ch :: rest)) (ch :: rest) :=
        Scalar.form_plainFrom printable noInnerMark noEnd column ' '
      rw [Scalar.plainFrom, Scalar.stays_in_line (.inl rfl)] at form ⊢
      refine .plain
        ⟨isInk_of_isPrintable (printable ch (by simp)) (by simpa using noSpace), noMark, fun special => ?_⟩ form
      -- Neither a blank nor the end stands behind a character that can be a mark, and both count as blanks here.
      have noBlank : rest.headD ' ' ≠ ' ' := by
        intro blank
        rcases special with rfl | rfl | rfl
        · simp [Scalar.startsWithBlankMark, blank, -List.headD_eq_head?_getD] at noBlankMark
        · simp [Scalar.startsWithBlankMark, blank, -List.headD_eq_head?_getD] at noBlankMark
        · simp [Scalar.hasInnerMark, blank, -List.headD_eq_head?_getD] at noInnerMark
      cases rest with
      | nil => exact absurd rfl noBlank
      | cons d rest =>
          refine ⟨d, Scalar.head_plainFrom (.inr (by simpa using noBlank)), ?_⟩
          exact isInk_of_isPrintable (printable d (by simp)) noBlank

theorem stands_write (narrow : indent < Scalar.width) (column : Nat) (s : Text) :
    Stands indent (Scalar.write indent column s) s (Scalar.isPlain s) := by
  rw [Scalar.write]
  split
  · rename_i plain
    rw [plain]
    exact stands_plain plain column
  · rename_i noPlain
    rw [Bool.not_eq_true] at noPlain
    rw [noPlain]
    split
    · rename_i single
      rw [Scalar.isSingle, Bool.and_eq_true, Bool.not_eq_true'] at single
      have form : Form indent .single (Scalar.singleFrom indent (column + 1) ' ' s) s :=
        Scalar.form_singleFrom (List.all_eq_true.1 single.1) single.2 (column + 1) ' '
      exact @Stands.quoted indent .single _ s (by simp) form
    · exact @Stands.quoted indent .double _ s (by simp) (Scalar.form_doubleFrom narrow s (column + 1) true false)

theorem means_write (s : Text) : Means (Scalar.isPlain s) s (.text s) := by
  cases plain : Scalar.isPlain s with
  | false => exact ⟨rfl, rfl⟩
  | true =>
      have kind : (Reader.scalarNode none true (some s)).kind = .text := ofPlain_of_isPlain plain
      exact ⟨by rw [kind]; rfl, by rw [kind]; rfl⟩

theorem stands_word {ch : Char} {rest : Text} (begins : Begins ch rest)
    (inks : ∀ d ∈ ch :: rest, isInk d = true ∧ d ≠ ':') :
    Stands indent (ch :: rest) (ch :: rest) true := by
  have form (w : Text) (inks : ∀ d ∈ w, isInk d = true ∧ d ≠ ':') : Form indent .plain w w := by
    induction w with
    | nil => exact .nil
    | cons d w ih =>
        obtain ⟨⟨ink, noColon⟩, later⟩ := List.forall_mem_cons.1 inks
        exact .piece (p := [d]) (q := [d]) (.plain ink fun colon => absurd colon noColon) (ih later)
  exact .plain begins (form _ inks)

theorem stands_flag (b : Bool) : Stands indent (Scalar.writeFlag b) (Scalar.writeFlag b) true := by
  have letters : (Scalar.writeFlag b).all (fun d => d.isAlpha && d != ':') = true := by cases b <;> rfl
  have inks : ∀ d ∈ Scalar.writeFlag b, isInk d = true ∧ d ≠ ':' := fun d hd => by
    have letter := List.all_eq_true.1 letters d hd
    rw [Bool.and_eq_true, bne_iff_ne] at letter
    exact ⟨isInk_of_isAlpha letter.1, letter.2⟩
  cases b with
  | false => exact stands_word (begins_of_isAlphanum rfl _) inks
  | true => exact stands_word (begins_of_isAlphanum rfl _) inks

theorem means_flag (b : Bool) : Means true (Scalar.writeFlag b) (.flag b) := by
  cases b <;> exact ⟨rfl, rfl⟩

theorem isInk_of_isNumeric {c : Char} (numeric : isNumeric c = true) : isInk c = true := by
  simp only [isNumeric, Bool.or_eq_true, beq_iff_eq] at numeric
  rcases numeric with (((digit | rfl) | rfl) | rfl) | rfl
  · exact isInk_of_isAlphanum (by rw [Char.isAlphanum, digit, Bool.or_true])
  all_goals rfl

variable {code : Nat} {s : Text}

theorem stands_number (pointed : Numeral.IsPointed code s) : Stands indent s s true := by
  have numeric := pointed.numeric
  obtain ⟨c, rest, rfl, digit⟩ := pointed.head
  have alphanum : c.isAlphanum = true := by rw [Char.isAlphanum, digit, Bool.or_true]
  refine stands_word (begins_of_isAlphanum alphanum rest) fun d hd => ⟨isInk_of_isNumeric (numeric d hd), ?_⟩
  rintro rfl
  cases numeric ':' hd

theorem means_number (pointed : Numeral.IsPointed code s) : Means true s (.number ⟨false, code⟩) := by
  have kind : (Reader.scalarNode none true (some s)).kind = .number := ofPlain_pointed pointed
  refine ⟨?_, ?_⟩
  · rw [kind]
    rfl
  · rw [kind]
    exact readNumber_pointed pointed

end PageComposer.Yaml
