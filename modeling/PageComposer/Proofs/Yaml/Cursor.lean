import PageComposer.Proofs.Tag.Grammar
import PageComposer.Yaml.Cursor
import PageComposer.Yaml.Scalar.Printer

/-!
# Moving on

Where a cursor comes to over printable text, spaces and line feeds. Ink is what is printed and is no space: it neither
divides tokens nor ends a line.
-/

namespace PageComposer.Yaml

def isInk (c : Char) : Bool := Scalar.isPrintable c && c != ' '

theorem isGap_of_isInk {c : Char} (ink : isInk c = true) : isGap c = false := by
  by_contra gap
  simp only [isGap, isSpaceOrEnd, isLineEnd, isBreak, Bool.not_eq_false, Bool.or_eq_true, beq_iff_eq] at gap
  rcases gap with rfl | rfl | rfl | ((rfl | rfl) | rfl) | rfl <;> exact absurd ink (by decide)

theorem isBreak_of_isGap {c : Char} (noGap : isGap c = false) : isBreak c = false := by
  simp only [isGap, isSpaceOrEnd, isLineEnd, Bool.or_eq_false_iff] at noGap
  exact noGap.2.2.2

theorem isBreak_of_isPrintable {c : Char} (printable : Scalar.isPrintable c = true) : isBreak c = false := by
  by_contra ends
  simp only [isBreak, Bool.not_eq_false, Bool.or_eq_true, beq_iff_eq] at ends
  rcases ends with ((rfl | rfl) | rfl) | rfl <;> exact absurd printable (by decide)

theorem ne_space_of_isInk {c : Char} (ink : isInk c = true) : c ≠ ' ' := by
  rintro rfl
  exact absurd ink (by decide)

theorem isInk_of_isPrintable {c : Char} (printable : Scalar.isPrintable c = true) (noSpace : c ≠ ' ') :
    isInk c = true := by
  simpa [isInk, printable] using noSpace

theorem isPrintable_of_isInk {c : Char} (ink : isInk c = true) : Scalar.isPrintable c = true :=
  (Bool.and_eq_true_iff.1 ink).1

namespace Cursor
variable {c : Cursor} {s rest : Text}

theorem skip_zero (c : Cursor) : c.skip 0 = c := rfl

theorem rest_next (c : Cursor) : c.next.rest = c.rest.tail := by
  obtain ⟨_ | ⟨ch, rest⟩, index, line, column⟩ := c
  · rfl
  · simp only [next]
    split <;> rfl

theorem rest_skip (n : Nat) (c : Cursor) : (c.skip n).rest = c.rest.drop n := by
  induction n generalizing c with
  | zero => rfl
  | succ n ih => rw [skip, ih, rest_next, List.drop_tail]

theorem rest_skip_append (here : c.rest = s ++ rest) : (c.skip s.length).rest = rest := by
  rw [rest_skip, here, List.drop_left]

theorem peek_of_rest {ch : Char} (here : c.rest = ch :: rest) : c.peek = ch := by
  rw [peek, here]
  rfl

theorem next_printable {ch : Char} (printable : Scalar.isPrintable ch = true) (here : c.rest = ch :: rest) :
    c.next = ⟨rest, c.index + 1, c.line, c.column + 1⟩ := by
  have noMark : ch ≠ '\ufeff' := by
    rintro rfl
    exact absurd printable (by decide)
  simp [next, here, isBreak_of_isPrintable printable, noMark]

theorem skip_printable (printable : ∀ ch ∈ s, Scalar.isPrintable ch = true) (here : c.rest = s ++ rest) :
    c.skip s.length = ⟨rest, c.index + s.length, c.line, c.column + s.length⟩ := by
  induction s generalizing c with
  | nil =>
      rw [List.nil_append] at here
      rw [← here]
      rfl
  | cons ch s ih =>
      obtain ⟨first, later⟩ := List.forall_mem_cons.1 printable
      rw [List.length_cons, skip, next_printable first here, ih later rfl, Nat.add_assoc, Nat.add_assoc,
        Nat.add_comm 1]

theorem takeWhile_of_stop {p : Char → Bool} (inside : ∀ ch ∈ s, p ch = true) (stop : ∀ ch ∈ rest.head?, p ch = false)
    (here : c.rest = s ++ rest) : c.takeWhile p = (s, c.skip s.length) := by
  rw [takeWhile, here, Tag.takeWhile_append_stop inside stop]

theorem takeWhile_spaces {p : Char → Bool} {n : Nat} (space : p ' ' = true) (stop : ∀ ch ∈ rest.head?, p ch = false)
    (here : c.rest = List.replicate n ' ' ++ rest) :
    c.takeWhile p = (List.replicate n ' ', ⟨rest, c.index + n, c.line, c.column + n⟩) := by
  have inside : ∀ ch ∈ List.replicate n ' ', p ch = true := fun ch hch => List.eq_of_mem_replicate hch ▸ space
  have printable : ∀ ch ∈ List.replicate n ' ', Scalar.isPrintable ch = true :=
    fun ch hch => List.eq_of_mem_replicate hch ▸ rfl
  rw [takeWhile_of_stop inside stop here, skip_printable printable here, List.length_replicate]

theorem skipSpaces_spaces {n : Nat} (stop : ∀ ch ∈ rest.head?, ch ≠ ' ')
    (here : c.rest = List.replicate n ' ' ++ rest) :
    c.skipSpaces = ⟨rest, c.index + n, c.line, c.column + n⟩ := by
  rw [skipSpaces, skipWhile, takeWhile_spaces rfl (fun ch hch => beq_false_of_ne (stop ch hch)) here]

theorem lineBreak_lineFeed (here : c.rest = '\n' :: rest) :
    c.lineBreak = (['\n'], ⟨rest, c.index + 1, c.line + 1, 0⟩) := by
  have moved : c.next = ⟨rest, c.index + 1, c.line + 1, 0⟩ := by
    rw [next, here]
    rfl
  rw [lineBreak, peek_of_rest here, moved]
  rfl

theorem atSeparator_of_head {ch : Char} (here : c.rest = ch :: rest) (noDash : ch ≠ '-') (noPoint : ch ≠ '.') :
    c.atSeparator = false := by
  simp [atSeparator, here, List.isPrefixOf, beq_false_of_ne noDash.symm, beq_false_of_ne noPoint.symm]

theorem skipComment_of_head (noComment : c.peek ≠ '#') : c.skipComment = c := by
  rw [skipComment, beq_false_of_ne noComment]
  rfl

end Cursor
end PageComposer.Yaml
