import PageComposer.Proofs.Yaml.Form

/-!
# Reading quoted forms

Between quotes a form is read as the content that it stands for (`quotedScalar_form`). What reads a run of pieces leaves
either nothing or a gap with a form behind it, and each gap is read as what it folds to.
-/

namespace PageComposer.Yaml
open Scalar (Style Gap Form Left Open)

theorem hexDigit_spec {n : Nat} (small : n < 16) :
    isHexDigit (Text.hexDigit true n) = true ∧ hexDigitValue (Text.hexDigit true n) = n := by
  revert n
  decide

theorem length_hex (width n : Nat) : (Text.hex true width n).length = width := by
  induction width generalizing n with
  | zero => rfl
  | succ width ih => rw [Text.hex, List.length_append, ih, List.length_singleton]

theorem isHexDigit_hex (width n : Nat) : ∀ c ∈ Text.hex true width n, isHexDigit c = true := by
  induction width generalizing n with
  | zero => simp [Text.hex]
  | succ width ih =>
      refine List.forall_mem_append.2 ⟨ih _, fun c hc => ?_⟩
      rw [List.mem_singleton.1 hc]
      exact (hexDigit_spec (Nat.mod_lt _ (by decide))).1

theorem hexValue_hex {width n : Nat} (fits : n < Nat.pow 16 width) : hexValue (Text.hex true width n) = n := by
  induction width generalizing n with
  | zero => exact (Nat.lt_one_iff.1 fits).symm
  | succ width ih =>
      have lead := ih (n := n / 16) (Nat.div_lt_of_lt_mul (Nat.mul_comm 16 _ ▸ fits))
      have last := (hexDigit_spec (Nat.mod_lt n (by decide : 16 > 0))).2
      rw [Text.hex, hexValue, List.foldl_append]
      rw [hexValue] at lead
      rw [lead, List.foldl_cons, List.foldl_nil, last]
      omega

theorem toNat_bounds (ch : Char) : ch.toNat < 0x110000 ∧ ¬ (0xD800 ≤ ch.toNat ∧ ch.toNat < 0xE000) := by
  have valid : ch.toNat < 0xD800 ∨ 0xDFFF < ch.toNat ∧ ch.toNat < 0x110000 := ch.valid
  omega

theorem ofCode_toNat (ch : Char) (index : Nat) : ofCode ch.toNat index = .ok (some [ch]) := by
  obtain ⟨below, noSurrogate⟩ := toNat_bounds ch
  have small : ¬ Nat.pow 2 31 ≤ ch.toNat := by
    have bound : Nat.pow 2 31 = 2147483648 := rfl
    omega
  rw [ofCode, if_neg small, if_neg (by omega), if_neg noSurrogate, Char.ofNat_toNat]

variable {c : Cursor} {ch : Char} {tail : Text}

theorem escape_code {mark : Char} (width : Nat) (noLetter : escapedChar? mark = none)
    (wide : codeWidth? mark = some width) (fits : ch.toNat < Nat.pow 16 width)
    (here : c.rest = mark :: (Text.hex true width ch.toNat ++ tail)) :
    ∃ after, escape c = .ok (some [ch], after) ∧ after.rest = tail := by
  have length := length_hex width ch.toNat
  have rest : c.next.rest = Text.hex true width ch.toNat ++ tail := by rw [Cursor.rest_next, here, List.tail_cons]
  have digits : (c.next.rest.take width).takeWhile isHexDigit = Text.hex true width ch.toNat := by
    rw [rest, List.take_left' length]
    exact List.takeWhile_eq_self_iff.2 (isHexDigit_hex _ _)
  refine ⟨c.skip (width + 1), ?_, ?_⟩
  · simp only [escape, Cursor.peek_of_rest here, noLetter, wide, digits, length, if_true, hexValue_hex fits,
      ofCode_toNat]
    rfl
  · rw [Cursor.rest_skip, here, List.drop_succ_cons, List.drop_left' length]

theorem escape_letter {letter : Char} (found : escapedChar? letter = some ch) (here : c.rest = letter :: tail) :
    escape c = .ok (some [ch], c.next) ∧ c.next.rest = tail := by
  refine ⟨?_, by rw [Cursor.rest_next, here, List.tail_cons]⟩
  simp only [escape, Cursor.peek_of_rest here, found]

theorem escapedChar?_escapeLetter? {letter : Char} (found : Scalar.escapeLetter? ch = some letter) :
    escapedChar? letter = some ch := by
  unfold Scalar.escapeLetter? at found
  split at found <;> cases found <;> rfl

theorem escape_escape (here : c.rest = (Scalar.escape ch).tail ++ tail) :
    ∃ after, escape c = .ok (some [ch], after) ∧ after.rest = tail := by
  unfold Scalar.escape at here
  split at here
  · rename_i letter found
    exact ⟨_, escape_letter (escapedChar?_escapeLetter? found) here⟩
  · unfold Text.escapeCode at here
    split at here
    · rename_i fits
      exact escape_code 2 rfl rfl fits here
    · split at here
      · rename_i fits
        exact escape_code 4 rfl rfl fits here
      · exact escape_code 8 rfl rfl (Nat.lt_trans (toNat_bounds ch).1 (by decide)) here

variable {indent : Nat} {style : Style} {w s : Text}

theorem noGap {ch : Char} (ink : isInk ch = true) : (ch == ' ' || ch == '\t') = false := by
  have gap := isGap_of_isInk ink
  simp only [isGap, isSpaceOrEnd, Bool.or_eq_false_iff] at gap
  simp only [gap.1, gap.2.1, Bool.or_self]

theorem quotedBreaks_lines (indented : 0 < indent) (behind : ∃ ch ∈ tail.head?, isInk ch = true) {n room : Nat}
    (enough : n < room) (here : c.rest = List.replicate n '\n' ++ (List.replicate indent ' ' ++ tail)) :
    ∃ after, quotedBreaks room c = .ok (List.replicate n '\n', after) ∧ after.rest = tail := by
  obtain ⟨ch, starts, ink⟩ := behind
  obtain ⟨tail, rfl⟩ := List.head?_eq_some_iff.1 starts
  induction n generalizing c room with
  | zero =>
      obtain ⟨room, rfl⟩ := Nat.exists_eq_succ_of_ne_zero (Nat.ne_of_gt enough)
      obtain ⟨indent, rfl⟩ := Nat.exists_eq_succ_of_ne_zero (Nat.ne_of_gt indented)
      have noSeparator : c.atSeparator = false := Cursor.atSeparator_of_head here (by decide) (by decide)
      have skipped := Cursor.takeWhile_spaces (p := fun ch => ch == ' ' || ch == '\t') rfl
        (by rintro d ⟨⟩; exact noGap ink) here
      refine ⟨⟨ch :: tail, c.index + (indent + 1), c.line, c.column + (indent + 1)⟩, ?_, rfl⟩
      rw [quotedBreaks, noSeparator]
      simp only [Cursor.skipWhile, skipped, Cursor.peek, List.headD_cons, isBreak_of_isGap (isGap_of_isInk ink)]
      rfl
  | succ n ih =>
      obtain ⟨room, rfl⟩ := Nat.exists_eq_succ_of_ne_zero (Nat.ne_of_gt (Nat.zero_lt_of_lt enough))
      replace here : c.rest = '\n' :: (List.replicate n '\n' ++ (List.replicate indent ' ' ++ ch :: tail)) := here
      have noSeparator : c.atSeparator = false := Cursor.atSeparator_of_head here (by decide) (by decide)
      have skipped := Cursor.takeWhile_of_stop (s := []) (p := fun ch => ch == ' ' || ch == '\t') (by simp)
        (by rintro d ⟨⟩; rfl) here
      have lineFeed := Cursor.lineBreak_lineFeed here
      obtain ⟨after, read, rest⟩ := ih (Nat.succ_lt_succ_iff.1 enough) (c := ⟨_, c.index + 1, c.line + 1, 0⟩) rfl
      refine ⟨after, ?_, rest⟩
      rw [quotedBreaks, noSeparator]
      simp only [Cursor.skipWhile, skipped, List.length_nil, Cursor.skip, Cursor.peek_of_rest here, lineFeed, read]
      rfl

theorem quotedGap_lines (indented : 0 < indent) (behind : ∃ ch ∈ tail.head?, isInk ch = true) (n : Nat)
    (here : c.rest = '\n' :: (List.replicate n '\n' ++ (List.replicate indent ' ' ++ tail))) :
    ∃ after, quotedGap c = .ok (if n = 0 then [' '] else List.replicate n '\n', after) ∧ after.rest = tail := by
  have skipped := Cursor.takeWhile_of_stop (s := []) (p := fun ch => ch == ' ' || ch == '\t') (by simp)
    (by rintro d ⟨⟩; rfl) here
  have lineFeed := Cursor.lineBreak_lineFeed here
  have enough : n < (List.replicate n '\n' ++ (List.replicate indent ' ' ++ tail)).length + 1 := by
    simp only [List.length_append, List.length_replicate]
    omega
  obtain ⟨after, read, rest⟩ := quotedBreaks_lines indented behind enough (c := ⟨_, c.index + 1, c.line + 1, 0⟩) rfl
  have inside : c.atEnd = false := by rw [Cursor.atEnd, here]; rfl
  refine ⟨after, ?_, rest⟩
  simp only [quotedGap, skipped, List.length_nil, Cursor.skip, inside, Cursor.peek_of_rest here, lineFeed, read]
  cases n <;> rfl

theorem quotedGap_gap {g t : Text} (indented : 0 < indent) (gap : Gap indent style g t)
    (behind : ∃ ch ∈ tail.head?, isInk ch = true) (here : c.rest = g ++ tail) :
    ∃ after, quotedGap c = .ok (t, after) ∧ after.rest = tail := by
  cases gap with
  | spaces n =>
      obtain ⟨ch, starts, ink⟩ := behind
      obtain ⟨tail, rfl⟩ := List.head?_eq_some_iff.1 starts
      have skipped := Cursor.takeWhile_spaces (p := fun ch => ch == ' ' || ch == '\t') rfl
        (by rintro d ⟨⟩; exact noGap ink) here
      refine ⟨⟨ch :: tail, c.index + (n + 1), c.line, c.column + (n + 1)⟩, ?_, rfl⟩
      simp only [quotedGap, skipped, Cursor.atEnd, Cursor.peek, List.headD_cons,
        isBreak_of_isGap (isGap_of_isInk ink)]
      rfl
  | fold => exact quotedGap_lines indented behind 0 here
  | breaks _ n =>
      rw [Scalar.newLine, List.append_cons, ← List.replicate_succ', List.append_assoc] at here
      exact quotedGap_lines indented behind (n + 1) here

def Scalar.Style.isDouble : Style → Bool
  | .double => true
  | _ => false

def Scalar.Style.quote (style : Style) : Char := if style.isDouble then '"' else '\''

variable {double : Bool} {room : Nat} {rest : Text}

theorem Content.append_cons (ch : Char) (s : Text) (t : Content) :
    append (some (ch :: s)) t = append (some [ch]) (append (some s) t) := by
  cases t <;> rfl

theorem quotedRun_letter (plain : isQuotedPlain ch = true) (here : c.rest = ch :: rest) :
    quotedRun double (room + 1) c =
      (quotedRun double (room + 1) c.next).map fun r => (Content.append (some [ch]) r.1, r.2) := by
  have taken : c.takeWhile isQuotedPlain =
      (ch :: (c.next.takeWhile isQuotedPlain).1, (c.next.takeWhile isQuotedPlain).2) := by
    have rest' : c.next.rest = rest := by rw [Cursor.rest_next, here, List.tail_cons]
    simp only [Cursor.takeWhile, here, rest', List.takeWhile_cons_of_pos plain, List.length_cons, Cursor.skip]
  rw [quotedRun, quotedRun, taken]
  obtain ⟨run, after⟩ := c.next.takeWhile isQuotedPlain
  dsimp only
  split
  · cases quotedRun double room (after.skip 2) with
    | error e => rfl
    | ok r => exact congrArg (fun s => Except.ok (s, r.2)) (Content.append_cons ch _ _)
  · split
    · cases quotedRun double room after.next with
      | error e => rfl
      | ok r => exact congrArg (fun s => Except.ok (s, r.2)) (Content.append_cons ch _ _)
    · split
      · cases escape after.next with
        | error e => rfl
        | ok e =>
            obtain ⟨s, behind⟩ := e
            cases more : quotedRun double room behind with
            | error e => simp [more, bind, Except.bind, Except.map]
            | ok r => simpa [more, bind, Except.bind, Except.map, pure, Except.pure] using Content.append_cons ch _ _
      · rfl

theorem takeWhile_stop (stop : isQuotedPlain ch = false) (here : c.rest = ch :: rest) :
    c.takeWhile isQuotedPlain = ([], c) :=
  Cursor.takeWhile_of_stop (s := []) (by simp) (by rintro d ⟨⟩; exact stop) here

theorem quotedRun_pair (here : c.rest = '\'' :: '\'' :: rest) :
    quotedRun false (room + 1) c =
      (quotedRun false room (c.skip 2)).map fun r => (Content.append (some ['\'']) r.1, r.2) := by
  have ahead : c.ahead 1 = '\'' := by
    rw [Cursor.ahead, here]
    rfl
  simp only [quotedRun, takeWhile_stop (by decide) here, Cursor.peek_of_rest here, ahead]
  rfl

theorem quotedRun_mark (other : if double then ch = '\'' else ch = '"' ∨ ch = '\\') (here : c.rest = ch :: rest) :
    quotedRun double (room + 1) c =
      (quotedRun double room c.next).map fun r => (Content.append (some [ch]) r.1, r.2) := by
  cases double with
  | true =>
      cases other
      simp only [quotedRun, takeWhile_stop (by decide) here, Cursor.peek_of_rest here]
      rfl
  | false =>
      rcases other with rfl | rfl <;>
      · simp only [quotedRun, takeWhile_stop (by decide) here, Cursor.peek_of_rest here]
        rfl

theorem quotedRun_escape {s : Content} {after : Cursor} (read : escape c.next = .ok (s, after))
    (here : c.rest = '\\' :: rest) :
    quotedRun true (room + 1) c = (quotedRun true room after).map fun r => (Content.append s r.1, r.2) := by
  have empty (t : Content) : Content.append (some []) t = t := by cases t <;> rfl
  simp only [quotedRun, takeWhile_stop (by decide) here, Cursor.peek_of_rest here, read, empty]
  rfl

theorem quotedRun_gap {g t : Text} (gap : Gap indent style g t) (here : c.rest = g ++ rest) :
    quotedRun double (room + 1) c = .ok (some [], c) := by
  obtain ⟨ch, g, rfl, blank⟩ := gap.head
  rcases blank with rfl | rfl <;>
    simp [quotedRun, takeWhile_stop (by decide) here, Cursor.peek_of_rest here, pure, Except.pure]

theorem quotedRun_quote (alone : style = .single → tail.head? ≠ some '\'') (quoted : style ≠ .plain)
    (here : c.rest = style.quote :: tail) : quotedRun style.isDouble (room + 1) c = .ok (some [], c) := by
  cases style with
  | plain => exact absurd rfl quoted
  | single =>
      have ahead : c.ahead 1 ≠ '\'' := by
        have next : c.ahead 1 = tail.headD '\x00' := by rw [Cursor.ahead, here]; rfl
        rw [next, List.headD_eq_head?_getD]
        cases behind : tail.head? with
        | none => decide
        | some d => exact fun same => alone rfl (by rw [behind]; exact congrArg some same)
      simp [quotedRun, takeWhile_stop (by decide) here, Cursor.peek_of_rest here, ahead, Style.quote,
        Style.isDouble, pure, Except.pure]
  | double =>
      simp [quotedRun, takeWhile_stop (by decide) here, Cursor.peek_of_rest here, Style.quote, Style.isDouble, pure,
        Except.pure]

theorem ink_behind (behind : Open style w) : ∃ ch ∈ (w ++ style.quote :: tail).head?, isInk ch = true := by
  have quote : isInk style.quote = true := by cases style <;> rfl
  cases w with
  | nil => exact ⟨_, rfl, quote⟩
  | cons ch w =>
      cases style with
      | plain =>
          obtain ⟨d, ⟨⟩, ink, -⟩ := behind
          exact ⟨ch, rfl, ink⟩
      | single | double => exact ⟨ch, rfl, behind ch rfl⟩

theorem quotedRun_piece {p q : Text} (indented : 0 < indent) (piece : Scalar.Piece indent style p q w)
    (quoted : style ≠ .plain)
    (enough : p.length + w.length < room) (here : c.rest = p ++ (w ++ style.quote :: tail)) :
    ∃ room' after, quotedRun style.isDouble room c =
        (quotedRun style.isDouble room' after).map (fun r => (Content.append (some q) r.1, r.2)) ∧
      after.rest = w ++ style.quote :: tail ∧ w.length < room' := by
  obtain ⟨room, rfl⟩ := Nat.exists_eq_succ_of_ne_zero (Nat.ne_of_gt (Nat.zero_lt_of_lt enough))
  have shorter : w.length < room := by
    obtain ⟨_, _, rfl, -⟩ := piece.head
    rw [List.length_cons] at enough
    omega
  cases piece with
  | plain => exact absurd rfl quoted
  | letter _ ink plain =>
      exact ⟨room + 1, c.next, quotedRun_letter plain here, Cursor.rest_skip_append (s := [_]) here,
        Nat.lt_succ_of_lt shorter⟩
  | pair => exact ⟨room, c.skip 2, quotedRun_pair here, Cursor.rest_skip_append (s := [_, _]) here, shorter⟩
  | mark mark => exact ⟨room, c.next, quotedRun_mark mark here, Cursor.rest_skip_append (s := [_]) here, shorter⟩
  | apostrophe => exact ⟨room, c.next, quotedRun_mark rfl here, Cursor.rest_skip_append (s := [_]) here, shorter⟩
  | escape ch =>
      obtain ⟨e, split⟩ := List.head?_eq_some_iff.1 (Scalar.escape_head ch)
      rw [split] at here
      have inner : c.next.rest = (Scalar.escape ch).tail ++ (w ++ Style.double.quote :: tail) := by
        rw [split]
        exact Cursor.rest_skip_append (s := [_]) here
      obtain ⟨after, read, rest⟩ := escape_escape inner
      exact ⟨room, after, quotedRun_escape read here, rest, shorter⟩
  | space =>
      have inner : c.next.rest = ' ' :: (w ++ Style.double.quote :: tail) := Cursor.rest_skip_append (s := [_]) here
      obtain ⟨read, rest⟩ := escape_letter rfl inner
      exact ⟨room, _, quotedRun_escape read here, rest, shorter⟩
  | continued behind =>
      have inner : c.next.rest = '\n' :: (List.replicate indent ' ' ++ (w ++ Style.double.quote :: tail)) :=
        Cursor.rest_skip_append (s := [_]) here
      have lineFeed := Cursor.lineBreak_lineFeed inner
      have enough' : 0 < c.next.rest.length + 1 := Nat.succ_pos _
      obtain ⟨after, read, rest⟩ := quotedBreaks_lines indented (ink_behind behind) enough'
        (c := ⟨_, c.next.index + 1, c.next.line + 1, 0⟩) rfl
      refine ⟨room, after, quotedRun_escape ?_ here, rest, shorter⟩
      rw [escape, Cursor.peek_of_rest inner, lineFeed]
      exact congrArg (Except.map _) read

theorem quotedRun_form (indented : 0 < indent) (form : Form indent style w s) (quoted : style ≠ .plain)
    (alone : style = .single → tail.head? ≠ some '\'') (enough : w.length < room)
    (here : c.rest = w ++ style.quote :: tail) :
    ∃ run after left t, quotedRun style.isDouble room c = .ok (some run, after) ∧
      after.rest = left ++ style.quote :: tail ∧ s = run ++ t ∧ Left indent style left t ∧ left.length ≤ w.length := by
  induction form generalizing c room with
  | nil =>
      obtain ⟨room, rfl⟩ := Nat.exists_eq_succ_of_ne_zero (Nat.ne_of_gt enough)
      exact ⟨[], c, [], [], quotedRun_quote alone quoted here, here, rfl, .nil, Nat.le_refl _⟩
  | @piece p q w s piece rest ih =>
      rw [List.append_assoc] at here
      rw [List.length_append] at enough
      obtain ⟨room', after, goesOn, behind, enough'⟩ := quotedRun_piece indented piece quoted enough here
      obtain ⟨run, last, left, t, read, rest', rfl, left', shorter⟩ := ih enough' behind
      refine ⟨q ++ run, last, left, t, by rw [goesOn, read]; rfl, rest', (List.append_assoc _ _ _).symm, left', ?_⟩
      rw [List.length_append]
      omega
  | @gap g t w s gap behind rest =>
      obtain ⟨room, rfl⟩ := Nat.exists_eq_succ_of_ne_zero (Nat.ne_of_gt (Nat.zero_lt_of_lt enough))
      rw [List.append_assoc] at here
      exact ⟨[], c, g ++ w, t ++ s, quotedRun_gap gap here, by rw [here, List.append_assoc], rfl, .gap gap behind rest,
        Nat.le_refl _⟩

theorem quotedFrom_form (indented : 0 < indent) (form : Form indent style w s) (quoted : style ≠ .plain)
    (alone : style = .single → tail.head? ≠ some '\'') (enough : w.length < room)
    (here : c.rest = w ++ style.quote :: tail) :
    ∃ after, quotedFrom style.isDouble room c = .ok (some s, after) ∧ after.rest = tail := by
  induction room generalizing c w s with
  | zero => exact absurd enough (Nat.not_lt_zero _)
  | succ room ih =>
      have enough' : w.length < c.rest.length + 1 := by
        rw [here, List.length_append]
        omega
      obtain ⟨run, after, left, t, read, rest, rfl, left', shorter⟩ :=
        quotedRun_form indented form quoted alone enough' here
      cases left' with
      | nil =>
          refine ⟨after.next, ?_, Cursor.rest_skip_append (s := [_]) rest⟩
          have closes : (after.peek == if style.isDouble then '"' else '\'') = true := by
            rw [Cursor.peek_of_rest rest]
            exact beq_self_eq_true _
          simp only [quotedFrom, read, bind, Except.bind, closes, if_true, List.append_nil]
          rfl
      | @gap g t w' s' gap behind onward =>
          rw [List.append_assoc] at rest
          obtain ⟨next, filled, rest'⟩ := quotedGap_gap indented gap (ink_behind behind) rest
          have enough'' : w'.length < room := by
            obtain ⟨_, _, rfl, -⟩ := gap.head
            rw [List.length_append, List.length_cons] at shorter
            omega
          obtain ⟨last, more, rest''⟩ := ih onward enough'' rest'
          refine ⟨last, ?_, rest''⟩
          have goesOn : (after.peek == if style.isDouble then '"' else '\'') = false := by
            obtain ⟨ch, g, rfl, blank⟩ := gap.head
            rw [Cursor.peek_of_rest rest]
            rcases blank with rfl | rfl <;> cases style <;> rfl
          simp only [quotedFrom, read, bind, Except.bind, goesOn, filled, more]
          rfl

theorem quotedScalar_form (indented : 0 < indent) (form : Form indent style w s) (quoted : style ≠ .plain)
    (alone : style = .single → tail.head? ≠ some '\'') (here : c.rest = style.quote :: (w ++ style.quote :: tail)) :
    ∃ after, quotedScalar c = .ok (some s, after) ∧ after.rest = tail := by
  have double : (c.peek == '"') = style.isDouble := by
    rw [Cursor.peek_of_rest here]
    cases style <;> rfl
  have enough : w.length < c.rest.length + 1 := by
    rw [here, List.length_cons, List.length_append]
    omega
  rw [quotedScalar, double]
  exact quotedFrom_form indented form quoted alone enough (Cursor.rest_skip_append (s := [_]) here)

end PageComposer.Yaml
