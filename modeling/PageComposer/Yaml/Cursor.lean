import PageComposer.Yaml.Source

/-!
# Reading positions

A cursor stands in a text of unified line ends: the rest of the text, the number of characters before it,
its line and its column. Past the end it sees null characters. Besides the line feed, the next-line
character and the line and paragraph separators end a line; a byte order mark takes no column.
-/

namespace PageComposer.Yaml

/-- A trouble, and the index of the character at which it shows. -/
structure Flaw where
  trouble : Trouble
  index : Nat

abbrev Scan (α : Type) := Except Flaw α

def isBreak (c : Char) : Bool := c == '\n' || c == '\x85' || c == '\u2028' || c == '\u2029'

def isLineEnd (c : Char) : Bool := c == '\x00' || isBreak c

def isSpaceOrEnd (c : Char) : Bool := c == ' ' || isLineEnd c

def isGap (c : Char) : Bool := c == '\t' || isSpaceOrEnd c

structure Cursor where
  rest : Text
  index : Nat
  line : Nat
  column : Nat

namespace Cursor

def start (s : Text) : Cursor := ⟨s, 0, 0, 0⟩

def peek (c : Cursor) : Char := c.rest.headD '\x00'

def ahead (c : Cursor) (n : Nat) : Char := (c.rest.drop n).headD '\x00'

def atEnd (c : Cursor) : Bool := c.rest.isEmpty

def fail {α : Type} (c : Cursor) : Scan α := .error ⟨.malformed, c.index⟩

/-- Looks at the character some places ahead, which cannot be read where the text is cut off before it. -/
def look (cut : Option Trouble) (n : Nat) (c : Cursor) : Result Unit :=
  match cut with
  | some t => if c.rest.length ≤ n then .error t else .ok ()
  | none => .ok ()

def next (c : Cursor) : Cursor :=
  match c.rest with
  | [] => c
  | ch :: rest =>
    if isBreak ch then ⟨rest, c.index + 1, c.line + 1, 0⟩
    else ⟨rest, c.index + 1, c.line, c.column + if ch = '\ufeff' then 0 else 1⟩

def skip : Nat → Cursor → Cursor
  | 0, c => c
  | n + 1, c => skip n c.next

def takeWhile (p : Char → Bool) (c : Cursor) : Text × Cursor :=
  let taken := c.rest.takeWhile p
  (taken, c.skip taken.length)

def skipWhile (p : Char → Bool) (c : Cursor) : Cursor := (c.takeWhile p).2

def skipSpaces (c : Cursor) : Cursor := c.skipWhile (· == ' ')

/-- Reads a line end: a separator stays what it is, every other line end is a line feed. -/
def lineBreak (c : Cursor) : Text × Cursor :=
  if isBreak c.peek then
    ([if c.peek == '\u2028' || c.peek == '\u2029' then c.peek else '\n'], c.next)
  else ([], c)

/-- Do three marks and a gap stand here, as between documents? -/
def atSeparator (c : Cursor) : Bool :=
  ("---".toList.isPrefixOf c.rest || "...".toList.isPrefixOf c.rest) && isGap (c.ahead 3)

def skipComment (c : Cursor) : Cursor := if c.peek == '#' then c.skipWhile (!isLineEnd ·) else c

def emptyRest (c : Cursor) : Scan Cursor :=
  let c := c.skipSpaces.skipComment
  if isLineEnd c.peek then .ok c.lineBreak.2 else c.fail

end Cursor
end PageComposer.Yaml
