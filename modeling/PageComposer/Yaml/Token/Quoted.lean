import PageComposer.Yaml.Token.Property

/-!
# Quoted scalars

Between single quotes a quote is written twice; between double quotes there are escapes. Line ends fold
as in plain scalars, and a double-quoted line can be continued by a backslash at its end.
-/

namespace PageComposer.Yaml

def escapedChar? : Char → Option Char
  | '0' => some '\x00'
  | 'a' => some '\x07'
  | 'b' => some '\x08'
  | 't' => some '\t'
  | '\t' => some '\t'
  | 'n' => some '\n'
  | 'v' => some '\x0b'
  | 'f' => some '\x0c'
  | 'r' => some '\r'
  | 'e' => some '\x1b'
  | ' ' => some ' '
  | '"' => some '"'
  | '\\' => some '\\'
  | '/' => some '/'
  | 'N' => some '\x85'
  | '_' => some '\xa0'
  | 'L' => some '\u2028'
  | 'P' => some '\u2029'
  | _ => none

def codeWidth? : Char → Option Nat
  | 'x' => some 2
  | 'u' => some 4
  | 'U' => some 8
  | _ => none

def Content.append (a b : Content) : Content := do return (← a) ++ (← b)

/-- The line ends in front of the next line that has text. A separator of documents is refused. -/
def quotedBreaks : Nat → Cursor → Scan (Text × Cursor)
  | 0, c => .ok ([], c)
  | room + 1, c =>
    if c.atSeparator then (c.skip 3).fail
    else
      let c := c.skipWhile fun ch => ch == ' ' || ch == '\t'
      if isBreak c.peek then do
        let (ends, after) := c.lineBreak
        let (more, after) ← quotedBreaks room after
        return (ends ++ more, after)
      else .ok ([], c)

def quotedGap (c : Cursor) : Scan (Text × Cursor) := do
  let (spaces, after) := c.takeWhile fun ch => ch == ' ' || ch == '\t'
  if after.atEnd then after.fail
  if isBreak after.peek then
    let (ends, after) := after.lineBreak
    let (breaks, after) ← quotedBreaks (after.rest.length + 1) after
    let first := if ends ≠ ['\n'] then ends else if breaks.isEmpty then [' '] else []
    return (first ++ breaks, after)
  else return (spaces, after)

/-! ## Escapes -/

/-- What a code point stands for. There are codes of 31 bits, but only those below 0x110000 are
characters; surrogates are half ones. -/
def ofCode (code index : Nat) : Scan Content :=
  if Nat.pow 2 31 ≤ code then .error ⟨.scalar .overflow, index⟩
  else if 0x110000 ≤ code then .error ⟨.scalar .badCharacter, index⟩
  else if 0xD800 ≤ code ∧ code < 0xE000 then .ok none
  else .ok (some [Char.ofNat code])

def escape (c : Cursor) : Scan (Content × Cursor) :=
  match escapedChar? c.peek, codeWidth? c.peek with
  | some ch, _ => .ok (some [ch], c.next)
  | none, some width =>
    let digits := (c.next.rest.take width).takeWhile isHexDigit
    let after := c.skip (digits.length + 1)
    if digits.length = width then (ofCode (hexValue digits) (c.index + width)).map fun s => (s, after)
    else after.fail
  | none, none =>
    if isBreak c.peek then
      (quotedBreaks (c.rest.length + 1) c.lineBreak.2).map fun (s, after) => (some s, after)
    else c.fail

/-! ## Scalars -/

def isQuotedPlain (c : Char) : Bool := !(c == '\'' || c == '"' || c == '\\' || isGap c)

def quotedRun (double : Bool) : Nat → Cursor → Scan (Content × Cursor)
  | 0, c => .ok (some [], c)
  | room + 1, c => do
    let (run, after) := c.takeWhile isQuotedPlain
    let ch := after.peek
    if !double && ch == '\'' && after.ahead 1 == '\'' then
      let (more, last) ← quotedRun double room (after.skip 2)
      return (Content.append (some (run ++ ['\''])) more, last)
    else if (double && ch == '\'') || (!double && (ch == '"' || ch == '\\')) then
      let (more, last) ← quotedRun double room after.next
      return (Content.append (some (run ++ [ch])) more, last)
    else if double && ch == '\\' then
      let (s, after) ← escape after.next
      let (more, last) ← quotedRun double room after
      return (Content.append (some run) (Content.append s more), last)
    else return (some run, after)

def quotedFrom (double : Bool) : Nat → Cursor → Scan (Content × Cursor)
  | 0, c => c.fail
  | room + 1, c => do
    let (run, after) ← quotedRun double (c.rest.length + 1) c
    if after.peek == (if double then '"' else '\'') then return (run, after.next)
    let (gap, after) ← quotedGap after
    let (more, last) ← quotedFrom double room after
    return (Content.append run (Content.append (some gap) more), last)

def quotedScalar (c : Cursor) : Scan (Content × Cursor) :=
  quotedFrom (c.peek == '"') (c.rest.length + 1) c.next

end PageComposer.Yaml
