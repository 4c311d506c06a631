import PageComposer.Proofs.Yaml.Form
import PageComposer.Yaml.Token.Plain

/-!
# Reading plain forms

A plain form at the end of its line is read as the content that it stands for (`plainScalar_form`), if the next line
is not indented as far as the scalar must be. A word in front of a colon is read as it is (`plainScalar_word`).
-/

namespace PageComposer.Yaml
open Scalar (Gap Form Left Open newLine)

variable {c : Cursor} {indent room : Nat} {base : Int} {w s tail : Text}

theorem plainBreaks_spaces {n : Nat} (stop : ∀ ch ∈ tail.head?, ch ≠ ' ' ∧ isBreak ch = false) (enough : n ≤ room)
    (here : c.rest = List.replicate n ' ' ++ tail) :
    plainBreaks room c = (some [], ⟨tail, c.index + n, c.line, c.column + n⟩) := by
  induction n generalizing c room with
  | zero =>
      obtain ⟨_, index, line, column⟩ := c
      cases here
      cases room with
      | zero => rfl
      | succ room =>
          have noSpace : (Cursor.peek ⟨tail, index, line, column⟩ == ' ') = false := by
            cases tail with
            | nil => rfl
            | cons ch tail => exact beq_false_of_ne (stop ch rfl).1
          have noBreak : isBreak (Cursor.peek ⟨tail, index, line, column⟩) = false := by
            cases tail with
            | nil => rfl
            | cons ch tail => exact (stop ch rfl).2
          simp only [plainBreaks, noSpace, noBreak]
          rfl
  | succ n ih =>
      obtain ⟨room, rfl⟩ := Nat.exists_eq_succ_of_ne_zero (Nat.ne_of_gt (Nat.zero_lt_of_lt enough))
      have here : c.rest = ' ' :: (List.replicate n ' ' ++ tail) := here
      have moved := Cursor.next_printable rfl here
      have onward := ih (Nat.succ_le_succ_iff.1 enough) (c := ⟨_, c.index + 1, c.line, c.column + 1⟩) rfl
      simp only [plainBreaks, Cursor.peek_of_rest here, beq_self_eq_true, if_true, moved, onward, Nat.add_assoc,
        Nat.add_comm 1]

theorem plainGap_newLine {n : Nat} (stop : ∀ ch ∈ tail.head?, ch ≠ ' ' ∧ isBreak ch = false)
    (noSeparator : n = 0 → ∀ ch ∈ tail.head?, ch ≠ '-' ∧ ch ≠ '.') (here : c.rest = newLine n ++ tail) :
    plainGap c = ([' '], true, ⟨tail, c.index + 1 + n, c.line + 1, n⟩) := by
  have here : c.rest = '\n' :: (List.replicate n ' ' ++ tail) := here
  have skipped := Cursor.takeWhile_of_stop (s := []) (p := fun ch => ch == ' ') (by simp) (by rintro d ⟨⟩; rfl) here
  have lineFeed := Cursor.lineBreak_lineFeed here
  have apart : Cursor.atSeparator ⟨List.replicate n ' ' ++ tail, c.index + 1, c.line + 1, 0⟩ = false := by
    cases n with
    | succ n => exact Cursor.atSeparator_of_head rfl (by decide) (by decide)
    | zero =>
        cases tail with
        | nil => rfl
        | cons ch tail => exact Cursor.atSeparator_of_head rfl (noSeparator rfl ch rfl).1 (noSeparator rfl ch rfl).2
  have enough : n ≤ (List.replicate n ' ' ++ tail).length := by
    rw [List.length_append, List.length_replicate]
    omega
  have spaces := plainBreaks_spaces stop enough (c := ⟨_, c.index + 1, c.line + 1, 0⟩) rfl
  simp only [plainGap, skipped, List.length_nil, Cursor.skip, Cursor.peek_of_rest here, lineFeed, apart, spaces,
    Nat.zero_add]
  rfl

theorem stops_of_open (behind : Open .plain w) (tail : Text) : ∀ ch ∈ (w ++ tail).head?, ch ≠ ' ' ∧
    isBreak ch = false := by
  obtain ⟨d, starts, ink, -⟩ := behind
  obtain ⟨w, rfl⟩ := List.head?_eq_some_iff.1 starts
  rintro ch ⟨⟩
  exact ⟨ne_space_of_isInk ink, isBreak_of_isGap (isGap_of_isInk ink)⟩

theorem peek_of_open (behind : Open .plain w) (here : c.rest = w ++ tail) : (c.peek == '#') = false := by
  obtain ⟨d, starts, -, noComment⟩ := behind
  obtain ⟨w, rfl⟩ := List.head?_eq_some_iff.1 starts
  rw [Cursor.peek_of_rest here]
  exact beq_false_of_ne noComment

theorem plainGap_gap {g t : Text} (gap : Gap indent .plain g t) (indented : 0 < indent) (behind : Open .plain w)
    (here : c.rest = g ++ (w ++ tail)) (deep : base ≤ c.column) (deeper : base ≤ indent) :
    ∃ broken after, plainGap c = (t, broken, after) ∧ after.rest = w ++ tail ∧ base ≤ after.column := by
  have stop := stops_of_open behind tail
  cases gap with
  | spaces n =>
      have skipped := Cursor.takeWhile_spaces (p := fun ch => ch == ' ') rfl
        (fun ch hch => beq_false_of_ne (stop ch hch).1) here
      refine ⟨false, ⟨w ++ tail, c.index + (n + 1), c.line, c.column + (n + 1)⟩, ?_, rfl, ?_⟩
      · have noBreak : isBreak (Cursor.peek ⟨w ++ tail, c.index + (n + 1), c.line, c.column + (n + 1)⟩) = false := by
          obtain ⟨d, starts, -⟩ := behind
          obtain ⟨w, rfl⟩ := List.head?_eq_some_iff.1 starts
          exact (stop d rfl).2
        simp only [plainGap, skipped, noBreak]
        rfl
      · push_cast
        omega
  | fold =>
      have read := plainGap_newLine stop (fun none => absurd none (Nat.ne_of_gt indented)) here
      exact ⟨true, _, read, rfl, deeper⟩
  | breaks quoted => exact absurd rfl quoted

theorem plainRun_gap {g t : Text} (gap : Gap indent .plain g t) : plainRun false (g ++ tail) = [] := by
  obtain ⟨ch, g, rfl, blank⟩ := gap.head
  rcases blank with rfl | rfl <;> simp [plainRun, isGap, isSpaceOrEnd, isLineEnd, isBreak]

theorem plainRun_form (form : Form indent .plain w s) (ends : plainRun false tail = []) :
    ∃ left t, w = plainRun false (w ++ tail) ++ left ∧ s = plainRun false (w ++ tail) ++ t ∧ Left indent .plain left t ∧
      ∀ ch ∈ plainRun false (w ++ tail), isInk ch = true := by
  induction form with
  | nil => exact ⟨[], [], by simp [ends], by simp [ends], .nil, by simp [ends]⟩
  | @piece p q w s piece rest ih =>
      obtain ⟨left, t, written, content, left', inks⟩ := ih
      cases piece with
      | @plain ch _ ink colon =>
          have inside : plainRun false (ch :: (w ++ tail)) = ch :: plainRun false (w ++ tail) := by
            have noEnd : (ch == ':' && endsAtColon false ((w ++ tail).headD '\x00')) = false := by
              by_cases same : ch = ':'
              · obtain ⟨d, starts, ink'⟩ := colon same
                obtain ⟨w, rfl⟩ := List.head?_eq_some_iff.1 starts
                simp [endsAtColon, isGap_of_isInk ink']
              · simp [same]
            rw [plainRun, isGap_of_isInk ink, noEnd]
            rfl
          have inside : plainRun false ([ch] ++ w ++ tail) = ch :: plainRun false (w ++ tail) := inside
          rw [inside]
          exact ⟨left, t, congrArg (ch :: ·) written, congrArg (ch :: ·) content, left',
            List.forall_mem_cons.2 ⟨ink, inks⟩⟩
      | letter quoted => exact absurd rfl quoted
  | @gap g t w s gap behind rest =>
      have stops : plainRun false (g ++ w ++ tail) = [] := by rw [List.append_assoc]; exact plainRun_gap gap
      rw [stops]
      exact ⟨g ++ w, t ++ s, rfl, rfl, .gap gap behind rest, by simp⟩

theorem filled_of_open {run left t : Text} (opens : Open .plain (run ++ left)) (left' : Left indent .plain left t) :
    run.isEmpty = false := by
  obtain ⟨d, starts, ink, -⟩ := opens
  cases run with
  | cons ch run => rfl
  | nil =>
      cases left' with
      | nil => cases starts
      | gap gap =>
          obtain ⟨ch, g, rfl, blank⟩ := gap.head
          cases starts
          rcases blank with rfl | rfl <;> cases ink

theorem plainFrom_form {n : Nat} (form : Form indent .plain w s) (opens : Open .plain w)
    (indented : 0 < indent) (deep : base ≤ c.column) (deeper : base ≤ indent) (lesser : (n : Int) < base)
    (stop : ∀ ch ∈ tail.head?, (ch ≠ ' ' ∧ isBreak ch = false) ∧ ch ≠ '-' ∧ ch ≠ '.') (enough : w.length < room)
    (gap : Text) (here : c.rest = w ++ (newLine n ++ tail)) :
    ∃ after, plainFrom false base room gap c = (gap ++ s, true, after) ∧ after.rest = tail ∧ after.column = n := by
  induction room generalizing c w s gap with
  | zero => exact absurd enough (Nat.not_lt_zero _)
  | succ room ih =>
      have ends : plainRun false (newLine n ++ tail) = [] := rfl
      obtain ⟨left, t, written, rfl, left', inks⟩ := plainRun_form form ends
      rw [plainFrom, peek_of_open opens here, if_neg Bool.false_ne_true, here]
      generalize plainRun false (w ++ (newLine n ++ tail)) = run at written inks ⊢
      have filled : run.isEmpty = false := by
        rw [written] at opens
        exact filled_of_open opens left'
      rw [written, List.append_assoc] at here
      have moved := Cursor.skip_printable (fun ch hch => isPrintable_of_isInk (inks ch hch)) here
      dsimp only
      rw [if_neg (by simp [filled]), moved]
      cases left' with
      | nil =>
          have read := plainGap_newLine (c := ⟨newLine n ++ tail, c.index + run.length, c.line, c.column + run.length⟩)
            (fun ch hch => (stop ch hch).1) (fun _ ch hch => (stop ch hch).2) rfl
          refine ⟨⟨tail, c.index + run.length + 1 + n, c.line + 1, n⟩, ?_, rfl, rfl⟩
          rw [List.nil_append, read]
          simp [lesser]
      | @gap g t w' s' gap' behind onward =>
          have deep' : base ≤ (c.column + run.length : Nat) := by omega
          have ahead : g ++ w' ++ (newLine n ++ tail) = g ++ (w' ++ (newLine n ++ tail)) := List.append_assoc _ _ _
          obtain ⟨broken, next, read, rest, deep'⟩ := plainGap_gap gap' indented behind
            (c := ⟨g ++ w' ++ (newLine n ++ tail), c.index + run.length, c.line, c.column + run.length⟩) ahead
              deep' deeper
          have shorter : w'.length < room := by
            obtain ⟨_, _, rfl, -⟩ := gap'.head
            simp only [written, List.length_append, List.length_cons] at enough
            omega
          obtain ⟨last, more, rest', column⟩ := ih onward behind deep' shorter t rest
          refine ⟨last, ?_, rest', column⟩
          have filled' (u : Text) : (t ++ u).isEmpty = false := by cases gap' <;> rfl
          have goesOn : (t.isEmpty || next.peek == '#' || (!false && decide ((next.column : Int) < base))) = false := by
            have alone := filled' []
            rw [List.append_nil] at alone
            simp [alone, peek_of_open behind rest, deep']
          rw [read]
          dsimp only
          rw [goesOn, more]
          simp only [List.append_assoc, filled', Bool.false_eq_true, if_false]

theorem plainScalar_form {n : Nat} (form : Form indent .plain w s) (opens : Open .plain w) (indented : 0 < indent)
    (deep : base ≤ c.column) (deeper : base ≤ indent) (lesser : (n : Int) < base)
    (stop : ∀ ch ∈ tail.head?, (ch ≠ ' ' ∧ isBreak ch = false) ∧ ch ≠ '-' ∧ ch ≠ '.')
    (here : c.rest = w ++ (newLine n ++ tail)) :
    ∃ after, plainScalar false base c = (s, true, after) ∧ after.rest = tail ∧ after.column = n := by
  have enough : w.length < c.rest.length + 1 := by
    rw [here, List.length_append]
    omega
  exact plainFrom_form form opens indented deep deeper lesser stop enough [] here

theorem plainRun_word {word : Text} (inks : ∀ ch ∈ word, isInk ch = true ∧ ch ≠ ':') (ends : plainRun false tail = []) :
    plainRun false (word ++ tail) = word := by
  induction word with
  | nil => exact ends
  | cons ch word ih =>
      obtain ⟨⟨ink, noColon⟩, later⟩ := List.forall_mem_cons.1 inks
      rw [List.cons_append, plainRun, isGap_of_isInk ink, beq_false_of_ne noColon, ih later]
      rfl

theorem plainScalar_word {ch : Char} {word : Text} (base : Int) (inks : ∀ d ∈ ch :: word, isInk d = true ∧ d ≠ ':')
    (noComment : ch ≠ '#') (behind : isGap (tail.headD '\x00') = true) (here : c.rest = ch :: word ++ ':' :: tail) :
    plainScalar false base c = (ch :: word, false, c.skip (ch :: word).length) := by
  have ends : plainRun false (':' :: tail) = [] := by
    have colon : endsAtColon false (tail.headD '\x00') = true := by rw [endsAtColon, behind]; rfl
    rw [plainRun, colon]
    rfl
  have rest := Cursor.rest_skip_append here
  have gap : plainGap (c.skip (ch :: word).length) = ([], false, c.skip (ch :: word).length) := by
    have skipped := Cursor.takeWhile_of_stop (s := []) (p := fun ch => ch == ' ') (by simp) (by rintro d ⟨⟩; rfl) rest
    simp only [plainGap, skipped, List.length_nil, Cursor.skip_zero, Cursor.peek_of_rest rest]
    rfl
  rw [plainScalar, plainFrom, Cursor.peek_of_rest here, beq_false_of_ne noComment, here, plainRun_word inks ends]
  dsimp only
  rw [gap]
  rfl

end PageComposer.Yaml
