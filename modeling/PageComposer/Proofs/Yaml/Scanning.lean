import PageComposer.Proofs.Yaml.Plain
import PageComposer.Proofs.Yaml.Quoted
import PageComposer.Yaml.Token.Lexer

/-!
# Scanning lines

How the lexer goes on in the lines of a document. Between two lines it is in a state without a candidate for a key; a
key and the colon behind it take two steps (`leads_key`).
-/

namespace PageComposer.Yaml
open Scalar (Style Form Open newLine)

def Starts (t : Text) : Prop := ∀ ch ∈ t.head?, isInk ch = true ∧ ch ≠ '#'

structure Begins (ch : Char) (rest : Text) : Prop where
  ink : isInk ch = true
  noMark : Scalar.isMark ch = false
  attached : ch = '-' ∨ ch = '?' ∨ ch = ':' → ∃ d ∈ rest.head?, isInk d = true

def KeyStart (t : Text) : Prop := ∀ ch ∈ t.head?, ch.isAlpha = true

structure IsKey (name : Text) : Prop where
  letters : ∀ ch ∈ name, isInk ch = true ∧ ch ≠ ':'
  starts : ∃ ch ∈ name.head?, ch.isAlpha = true
  short : name.length ≤ 1024

theorem isInk_of_isAlphanum {ch : Char} (alphanum : ch.isAlphanum = true) : isInk ch = true := by
  have range : 48 ≤ ch.toNat ∧ ch.toNat ≤ 122 := by
    delta Char.isAlphanum Char.isAlpha Char.isUpper Char.isLower Char.isDigit at alphanum
    simp only [Bool.or_eq_true, Bool.and_eq_true, decide_eq_true_eq, UInt32.le_iff_toNat_le, ge_iff_le] at alphanum
    change ((65 ≤ ch.toNat ∧ ch.toNat ≤ 90) ∨ (97 ≤ ch.toNat ∧ ch.toNat ≤ 122)) ∨
      (48 ≤ ch.toNat ∧ ch.toNat ≤ 57) at alphanum
    omega
  have printable : Scalar.isPrintable ch = true := by
    simp only [Scalar.isPrintable, Bool.and_eq_true, decide_eq_true_eq, Char.le_def, UInt32.le_iff_toNat_le]
    change 32 ≤ ch.toNat ∧ ch.toNat ≤ 126
    omega
  refine isInk_of_isPrintable printable ?_
  rintro rfl
  cases alphanum

theorem isMark_of_isAlphanum {ch : Char} (alphanum : ch.isAlphanum = true) : Scalar.isMark ch = false := by
  by_contra mark
  have member := List.contains_iff_mem.1 (Bool.not_eq_false _ ▸ mark : Scalar.isMark ch = true)
  have others : "#,[]\x7b\x7d&*!|>'\"%@\x60".toList.all (fun d => !d.isAlphanum) = true := rfl
  have other := List.all_eq_true.1 others ch member
  rw [alphanum] at other
  cases other

theorem isInk_of_isAlpha {ch : Char} (alpha : ch.isAlpha = true) : isInk ch = true :=
  isInk_of_isAlphanum (by rw [Char.isAlphanum, alpha, Bool.true_or])

theorem Begins.append {ch : Char} {rest : Text} (begins : Begins ch rest) (t : Text) : Begins ch (rest ++ t) where
  ink := begins.ink
  noMark := begins.noMark
  attached special := by
    obtain ⟨d, starts, ink⟩ := begins.attached special
    obtain ⟨rest, rfl⟩ := List.head?_eq_some_iff.1 starts
    exact ⟨d, rfl, ink⟩

theorem Begins.starts {ch : Char} {rest : Text} (begins : Begins ch rest) : Starts (ch :: rest) := by
  rintro d ⟨⟩
  refine ⟨begins.ink, ?_⟩
  rintro rfl
  exact absurd begins.noMark (by decide)

theorem begins_of_isAlphanum {ch : Char} (alphanum : ch.isAlphanum = true) (rest : Text) : Begins ch rest where
  ink := isInk_of_isAlphanum alphanum
  noMark := isMark_of_isAlphanum alphanum
  attached := by rintro (rfl | rfl | rfl) <;> cases alphanum

theorem IsKey.keyStart {name : Text} (key : IsKey name) (t : Text) : KeyStart (name ++ t) := by
  obtain ⟨ch, starts, alpha⟩ := key.starts
  obtain ⟨name, rfl⟩ := List.head?_eq_some_iff.1 starts
  rintro d ⟨⟩
  exact alpha

theorem starts_of_keyStart {t : Text} (keyStart : KeyStart t) : Starts t := by
  intro ch hch
  have alpha := keyStart ch hch
  refine ⟨isInk_of_isAlpha alpha, ?_⟩
  rintro rfl
  cases alpha

namespace Lexer

def free (c : Cursor) (tokens : List Token) (indent : Int) (outer : List Int) (allowed : Bool) : Lexer :=
  ⟨c, tokens, tokens.length, indent, outer, allowed, none, []⟩

def Leads (n : Nat) (x y : Lexer) : Prop := ∀ room, run none (room + n) x = run none room y

variable {x y z : Lexer} {c : Cursor} {tokens : List Token} {indent : Int} {outer : List Int} {allowed : Bool}
  {t : Text} {m n room : Nat}

theorem Leads.trans (first : Leads m x y) (second : Leads n y z) : Leads (n + m) x z := by
  intro room
  rw [← Nat.add_assoc, first, second]

theorem run_succ (cut : Option Trouble) (room : Nat) (x : Lexer) : run cut (room + 1) x =
    match x.next cut with
    | .error t => ⟨x.settled, some t⟩
    | .ok y => if y.tokens.head? = some .streamEnd then ⟨y.tokens.reverse, none⟩ else run cut room y := by
  rfl

theorem next_of_token (ready : x.advance = .ok y) (read : y.token >>= dropStale = .ok z) : x.next none = .ok z := by
  unfold Lexer.next
  rw [ready]
  dsimp only [Cursor.look]
  cases token : y.token with
  | error f =>
      rw [token] at read
      cases read
  | ok z' =>
      rw [token] at read
      have kept : z'.dropStale = .ok z := read
      dsimp only
      rw [kept]
      rfl

theorem leads_of_next (step : x.next none = .ok y) (goesOn : y.tokens.head? ≠ some .streamEnd) : Leads 1 x y := by
  intro room
  rw [run_succ, step]
  exact if_neg goesOn

theorem saveCandidate_free :
    (free c tokens indent outer false).saveCandidate = .ok (free c tokens indent outer false) := rfl

theorem stop_of_starts (starts : Starts t) : ∀ ch ∈ t.head?, ch ≠ ' ' := fun ch hch =>
  ne_space_of_isInk (starts ch hch).1

theorem peek_of_starts (starts : Starts t) (here : c.rest = t) : c.peek ≠ '#' ∧ isBreak c.peek = false := by
  cases t with
  | nil =>
      have null : c.peek = '\x00' := by rw [Cursor.peek, here]; rfl
      rw [null]
      decide
  | cons ch t =>
      rw [Cursor.peek_of_rest here]
      exact ⟨(starts ch rfl).2, isBreak_of_isGap (isGap_of_isInk (starts ch rfl).1)⟩

theorem skipGaps_spaces (room : Nat) (starts : Starts t) (here : x.cursor.rest = List.replicate n ' ' ++ t) :
    skipGaps (room + 1) x =
      { x with cursor := ⟨t, x.cursor.index + n, x.cursor.line, x.cursor.column + n⟩ } := by
  have skipped := Cursor.skipSpaces_spaces (stop_of_starts starts) here
  have ⟨noComment, noBreak⟩ :=
      peek_of_starts (c := ⟨t, x.cursor.index + n, x.cursor.line, x.cursor.column + n⟩) starts rfl
  simp only [skipGaps, skipped, Cursor.skipComment_of_head noComment, noBreak]
  rfl

theorem skipGaps_newLine (starts : Starts t) (here : x.cursor.rest = newLine n ++ t) :
    skipGaps (room + 2) x =
      { x with
        cursor := ⟨t, x.cursor.index + 1 + n, x.cursor.line + 1, n⟩, keyAllowed := x.keyAllowed || !x.inFlow } := by
  have here : x.cursor.rest = '\n' :: (List.replicate n ' ' ++ t) := here
  have skipped : x.cursor.skipSpaces = x.cursor := by
    have none := Cursor.skipSpaces_spaces (n := 0) (by rintro ch ⟨⟩; decide) here
    rw [none, ← here]
    rfl
  have lineFeed := Cursor.lineBreak_lineFeed here
  have noComment : x.cursor.peek ≠ '#' := by rw [Cursor.peek_of_rest here]; decide
  rw [skipGaps, skipped, Cursor.skipComment_of_head noComment, Cursor.peek_of_rest here,
    if_pos (show isBreak '\n' = true from rfl), lineFeed, skipGaps_spaces room starts rfl, Nat.zero_add]

theorem noMark_of_starts (starts : Starts t) (here : c.rest = List.replicate n ' ' ++ t) : c.peek ≠ '\ufeff' := by
  cases n with
  | succ n =>
      rw [Cursor.peek_of_rest here]
      decide
  | zero =>
      cases t with
      | nil =>
          rw [Cursor.peek, here]
          decide
      | cons ch t =>
          rw [Cursor.peek_of_rest here]
          rintro rfl
          exact absurd (starts _ rfl).1 (by decide)

theorem advance_spaces (tokens : List Token) (indent : Int) (outer : List Int) (allowed : Bool) (starts : Starts t)
    (here : c.rest = List.replicate n ' ' ++ t) :
    (free c tokens indent outer allowed).advance =
      .ok ((free ⟨t, c.index + n, c.line, c.column + n⟩ tokens indent outer allowed).closeBlocks
        (c.column + n : Nat)) := by
  have noMark := noMark_of_starts starts here
  have skipped := skipGaps_spaces c.rest.length (x := free c tokens indent outer allowed) starts here
  simp only [advance, free, beq_false_of_ne noMark, Bool.and_false] at skipped ⊢
  exact congrArg (fun x => dropStale x >>= fun x => pure (x.closeBlocks x.cursor.column)) skipped

theorem advance_newLine (tokens : List Token) (indent : Int) (outer : List Int) (allowed : Bool) (starts : Starts t)
    (here : c.rest = newLine n ++ t) :
    (free c tokens indent outer allowed).advance =
      .ok ((free ⟨t, c.index + 1 + n, c.line + 1, n⟩ tokens indent outer true).closeBlocks n) := by
  have noMark : c.peek ≠ '\ufeff' := by
    rw [Cursor.peek_of_rest here]
    decide
  have skipped : skipGaps (c.rest.length + 1) (free c tokens indent outer allowed) =
      free ⟨t, c.index + 1 + n, c.line + 1, n⟩ tokens indent outer true := by
    have length : c.rest.length = (List.replicate n ' ' ++ t).length + 1 := congrArg List.length here
    rw [length, skipGaps_newLine starts here]
    simp [free, inFlow]
  simp only [advance, free, beq_false_of_ne noMark, Bool.and_false] at skipped ⊢
  exact congrArg (fun x => dropStale x >>= fun x => pure (x.closeBlocks x.cursor.column)) skipped

theorem token_plain {ch : Char} {rest : Text} (begins : Begins ch rest) (noFlow : x.enclosingCandidates = [])
    (here : x.cursor.rest = ch :: rest) (apart : x.cursor.column ≠ 0 ∨ ch ≠ '-' ∧ ch ≠ '.') : x.token = x.plain := by
  have peek : x.cursor.peek = ch := Cursor.peek_of_rest here
  have inside : x.cursor.atEnd = false := by rw [Cursor.atEnd, here]; rfl
  have noMark := begins.noMark
  simp [Scalar.isMark] at noMark
  have separate : (x.cursor.column == 0 && x.cursor.atSeparator) = false := by
    rcases apart with column | ⟨noDash, noPoint⟩
    · simp [column]
    · rw [Cursor.atSeparator_of_head here noDash noPoint, Bool.and_false]
  have noFlow : x.inFlow = false := by rw [inFlow, noFlow]; rfl
  have goesOn : x.atBlockMark '-' = false ∧ x.atKeyMark '?' = false ∧ x.atKeyMark ':' = false ∧
      x.startsPlain = true := by
    simp only [atBlockMark, atKeyMark, startsPlain, peek, noFlow, isGap_of_isInk begins.ink]
    by_cases special : ch = '-' ∨ ch = '?' ∨ ch = ':'
    · have ahead : isGap (x.cursor.ahead 1) = false := by
        obtain ⟨d, starts, ink⟩ := begins.attached special
        obtain ⟨rest, rfl⟩ := List.head?_eq_some_iff.1 starts
        rw [Cursor.ahead, here]
        exact isGap_of_isInk ink
      rcases special with rfl | rfl | rfl <;> simp [ahead]
    · simp only [not_or] at special
      simp [special, noMark]
  simp [token, inside, peek, separate, noMark, goesOn]

theorem token_quoted {style : Style} {rest : Text} (column : x.cursor.column ≠ 0)
    (here : x.cursor.rest = style.quote :: rest) :
    x.token = x.opening fun c => (quotedScalar c).map fun r => (.scalar false r.1, r.2) := by
  have peek : x.cursor.peek = style.quote := Cursor.peek_of_rest here
  have inside : x.cursor.atEnd = false := by rw [Cursor.atEnd, here]; rfl
  cases style <;> simp [token, inside, peek, column, atBlockMark, atKeyMark, Style.quote, Style.isDouble]

theorem token_value {rest : Text} (gap : isGap (rest.headD '\x00') = true) (column : x.cursor.column ≠ 0)
    (here : x.cursor.rest = ':' :: rest) : x.token = x.value := by
  have peek : x.cursor.peek = ':' := Cursor.peek_of_rest here
  have ahead : isGap (x.cursor.ahead 1) = true := by rw [Cursor.ahead, here]; exact gap
  have inside : x.cursor.atEnd = false := by rw [Cursor.atEnd, here]; rfl
  simp [token, inside, peek, column, atBlockMark, atKeyMark, ahead]

theorem token_end (here : x.cursor.rest = []) : x.token = x.outside fun c => .ok (.streamEnd, c) := by
  have ends : x.cursor.atEnd = true := by rw [Cursor.atEnd, here]; rfl
  simp [token, ends]

def Faces (x : Lexer) (u : Text) (tokens : List Token) (indent : Int) (outer : List Int) : Prop :=
  ∃ (c : Cursor) (n : Nat) (t : Text), u = newLine n ++ t ∧ KeyStart t ∧ c.rest = t ∧ c.column = n ∧
    x.advance = .ok ((free c tokens indent outer true).closeBlocks n)

inductive Enters (n : Nat) : List Token → Int → List Int → List Token → List Int → Prop
  | stays (tokens : List Token) (outer : List Int) : Enters n tokens n outer tokens outer
  | opens (tokens : List Token) {indent : Int} (outer : List Int) (deeper : indent < n) :
      Enters n tokens indent outer (.blockMappingStart :: tokens) (indent :: outer)
  | closes (tokens : List Token) {indent : Int} (outer : List Int) (lesser : n < indent) :
      Enters n tokens indent (n :: outer) (.blockEnd :: tokens) outer

variable {name u : Text} {tokens' : List Token} {outer' : List Int}

theorem closeDeeper_of_le {column : Int} (le : x.indent ≤ column) (outer : List Int) :
    closeDeeper column x outer = x := by
  cases outer with
  | nil => rfl
  | cons _ _ => exact if_neg (Int.not_lt.2 le)

theorem closeBlocks_of_le {column : Int} (le : x.indent ≤ column) : x.closeBlocks column = x := by
  rw [closeBlocks, closeDeeper_of_le le]
  exact ite_self x

theorem closeBlocks_free {column : Int} (le : indent ≤ column) :
    (free c tokens indent outer allowed).closeBlocks column = free c tokens indent outer allowed :=
  closeBlocks_of_le le

theorem plain_of_read {s : Text} {broken : Bool} (saved : x.saveCandidate = .ok y)
    (read : plainScalar y.inFlow (y.indent + 1) y.cursor = (s, broken, c)) :
    x.plain = .ok { y.emit (.scalar true (some s)) with cursor := c, keyAllowed := broken } := by
  simp only [Lexer.plain, saved, bind, Except.bind, read]
  rfl

theorem opening_of_read {token : Token} {read : Cursor → Scan (Token × Cursor)} (saved : x.saveCandidate = .ok y)
    (found : read y.cursor = .ok (token, c)) :
    x.opening read = .ok { y.emit token with cursor := c, keyAllowed := false } := by
  simp only [opening, saved, bind, Except.bind, found]
  rfl

theorem next_key {ch : Char} {word : Text} (key : IsKey (ch :: word)) (alpha : ch.isAlpha = true)
    (gap : isGap (t.headD '\x00') = true) (here : c.rest = ch :: word ++ ':' :: t)
    (ready : x.advance = .ok (free c tokens indent outer true)) :
    x.next none = .ok
      { free ⟨':' :: t, c.index + (ch :: word).length, c.line, c.column + (ch :: word).length⟩
          (.scalar true (some (ch :: word)) :: tokens) indent outer false with
        candidate := some ⟨tokens.length, indent == c.column, c.index, c.line, c.column⟩ } := by
  refine next_of_token ready ?_
  have plain : (free c tokens indent outer true).token = (free c tokens indent outer true).plain := by
    refine token_plain (begins_of_isAlphanum (by rw [Char.isAlphanum, alpha, Bool.true_or]) _) rfl here (.inr ⟨?_, ?_⟩)
    · rintro rfl
      cases alpha
    · rintro rfl
      cases alpha
  have word' := plainScalar_word (indent + 1) key.letters (by rintro rfl; cases alpha) gap here
  have moved := Cursor.skip_printable (fun ch hch => isPrintable_of_isInk (key.letters ch hch).1) here
  rw [moved] at word'
  rw [plain, plain_of_read (y := { free c tokens indent outer true with
    candidate := some ⟨tokens.length, indent == c.column, c.index, c.line, c.column⟩ }) rfl word']
  have near : ¬ 1024 < word.length + 1 := Nat.not_lt.2 key.short
  simp [bind, Except.bind, dropStale, fresh, isStale, near, emit, free, pure, Except.pure]

theorem advance_here (starts : Starts t) (here : x.cursor.rest = t) (fresh : x.dropStale = .ok x)
    (column : x.indent ≤ x.cursor.column) : x.advance = .ok x := by
  have noMark := noMark_of_starts (n := 0) starts here
  have skipped : skipGaps (x.cursor.rest.length + 1) x = x := by
    rw [skipGaps_spaces _ (n := 0) starts here, ← here]
    rfl
  simp only [advance, beq_false_of_ne noMark, Bool.and_false]
  change (skipGaps (x.cursor.rest.length + 1) x).dropStale >>= _ = _
  rw [skipped, fresh]
  exact congrArg Except.ok (closeBlocks_of_le column)

theorem next_colon {k : KeyCandidate} (token : Token) (outer : List Int) (gap : isGap (t.headD '\x00') = true)
    (here : c.rest = ':' :: t)
    (position : k.position = tokens.length) (column : indent ≤ c.column) (moved : c.column ≠ 0)
    (line : k.line = c.line) (near : c.index ≤ k.index + 1024) :
    { free c (token :: tokens) indent outer false with candidate := some k }.next none = .ok
      (if indent < k.column then
        free c.next (.value :: token :: .key :: .blockMappingStart :: tokens) k.column (indent :: outer) false
      else free c.next (.value :: token :: .key :: tokens) indent outer false) := by
  have starts : Starts (':' :: t) := by
    rintro ch ⟨⟩
    decide
  have noStale : isStale c k = false := by simp [isStale, line, near]
  have kept : dropStale { free c (token :: tokens) indent outer false with candidate := some k } =
      .ok { free c (token :: tokens) indent outer false with candidate := some k } := by
    simp [dropStale, fresh, free, noStale, bind, Except.bind, pure, Except.pure]
  refine next_of_token (advance_here starts here kept column) ?_
  rw [token_value gap moved here]
  have place : tokens.length + 1 + 1 - tokens.length = 2 := by omega
  by_cases deeper : indent < k.column <;>
    simp [value, free, insert, inFlow, openBlock, deeper, position, place, mark, emit, allowKey, dropStale, fresh,
      Cursor.skip, bind, Except.bind, pure, Except.pure]

theorem newLine_inj {u v : Text} (start : ∀ ch ∈ u.head?, ch ≠ ' ') (start' : ∀ ch ∈ v.head?, ch ≠ ' ')
    (same : newLine m ++ u = newLine n ++ v) : m = n ∧ u = v := by
  have same : List.replicate m ' ' ++ u = List.replicate n ' ' ++ v := (List.cons.inj same).2
  have length : ∀ k w, (∀ ch ∈ w.head?, ch ≠ ' ') → ((List.replicate k ' ' ++ w).takeWhile (· == ' ')).length = k := by
    intro k w start
    rw [Tag.takeWhile_append_stop (fun ch hch => by rw [List.eq_of_mem_replicate hch]; rfl)
      fun ch hch => beq_false_of_ne (start ch hch), List.length_replicate]
  have columns : m = n := by rw [← length m u start, same, length n v start']
  subst columns
  exact ⟨rfl, List.append_cancel_left same⟩

theorem closeBlocks_outer (tokens : List Token) (outer : List Int) (lesser : (n : Int) < indent) :
    (free c tokens indent (n :: outer) allowed).closeBlocks n = free c (.blockEnd :: tokens) n outer allowed := by
  have deeper : (n : Int) < (free c tokens indent (n :: outer) allowed).indent := lesser
  exact (if_pos deeper).trans
    (closeDeeper_of_le (x := free c (.blockEnd :: tokens) n outer allowed) (Int.le_refl _) outer)

theorem leads_word (key : IsKey name) (gap : isGap (t.headD '\x00') = true) (here : c.rest = name ++ ':' :: t)
    (le : indent ≤ c.column) (ready : x.advance = .ok (free c tokens indent outer true)) :
    ∃ d : Cursor, d.rest = t ∧ c.column < d.column ∧
      Leads 2 x (if indent < c.column then
        free d (.value :: .scalar true (some name) :: .key :: .blockMappingStart :: tokens) c.column
          (indent :: outer) false
      else free d (.value :: .scalar true (some name) :: .key :: tokens) indent outer false) := by
  obtain ⟨ch, starts, alpha⟩ := key.starts
  obtain ⟨word, rfl⟩ := List.head?_eq_some_iff.1 starts
  let colon : Cursor := ⟨':' :: t, c.index + (ch :: word).length, c.line, c.column + (ch :: word).length⟩
  have first := leads_of_next (next_key key alpha gap here ready) (by simp [free])
  have short := key.short
  have deep : indent ≤ colon.column := by
    simp only [colon]
    omega
  have near : colon.index ≤ c.index + 1024 := by
    simp only [colon]
    omega
  have second := leads_of_next (next_colon (.scalar true (some (ch :: word))) outer
    (k := ⟨tokens.length, indent == c.column, c.index, c.line, c.column⟩) gap (c := colon) rfl rfl deep
    (by simp [colon]) rfl near) (by split <;> simp [free])
  refine ⟨colon.next, Cursor.rest_next colon, ?_, first.trans second⟩
  rw [Cursor.next_printable rfl rfl]
  simp only [colon, List.length_cons]
  omega

theorem leads_key (key : IsKey name) (gap : isGap (t.headD '\x00') = true)
    (faces : Faces x (newLine n ++ (name ++ ':' :: t)) tokens indent outer)
    (enters : Enters n tokens indent outer tokens' outer') :
    ∃ c : Cursor, c.rest = t ∧ n < c.column ∧
      Leads 2 x (free c (.value :: .scalar true (some name) :: .key :: tokens') n outer' false) := by
  obtain ⟨c, m, line, split, keyStart, here, column, ready⟩ := faces
  have keyStart' : KeyStart (name ++ ':' :: t) := key.keyStart _
  obtain ⟨rfl, rfl⟩ := newLine_inj (stop_of_starts (starts_of_keyStart keyStart'))
    (stop_of_starts (starts_of_keyStart keyStart)) split
  subst column
  cases enters with
  | stays =>
      rw [closeBlocks_free (Int.le_refl _)] at ready
      simpa using leads_word key gap here (Int.le_refl _) ready
  | opens _ deeper =>
      rw [closeBlocks_free (Int.le_of_lt deeper)] at ready
      simpa [deeper] using leads_word key gap here (Int.le_of_lt deeper) ready
  | closes _ lesser =>
      rw [closeBlocks_outer _ _ lesser] at ready
      simpa using leads_word key gap here (Int.le_refl _) ready

end Lexer
end PageComposer.Yaml
