import PageComposer.Yaml.Cursor

/-!
# Block scalars

A literal scalar keeps its line ends, a folded one joins lines of text by spaces. The indentation is that
of the first line with text or a stated one; what happens to the line ends at the end can be stated too.
-/

namespace PageComposer.Yaml

inductive Chomping where
  | clip
  | strip
  | keep
  deriving DecidableEq

structure BlockHeader where
  chomping : Chomping
  /-- How much deeper than its surroundings the scalar is indented, if that is stated. -/
  increment : Option Nat

def chomping? (c : Char) : Option Chomping :=
  if c == '+' then some .keep else if c == '-' then some .strip else none

def increment (c : Cursor) : Scan (Option Nat × Cursor) :=
  if c.peek == '0' then c.fail
  else if c.peek.isDigit then .ok (some (c.peek.toNat - 0x30), c.next)
  else .ok (none, c)

/-- The header of a block scalar behind its mark: the two statements in any order. -/
def blockHeader (c : Cursor) : Scan (BlockHeader × Cursor) := do
  let (header, after) ←
    match chomping? c.peek with
    | some chomping => do
      let (increment, after) ← increment c.next
      pure (BlockHeader.mk chomping increment, after)
    | none => do
      let (increment, after) ← increment c
      match increment, chomping? after.peek with
      | some _, some chomping => pure (BlockHeader.mk chomping increment, after.next)
      | _, _ => pure (BlockHeader.mk .clip increment, after)
  if isSpaceOrEnd after.peek then return (header, ← after.emptyRest) else after.fail

def leadingBreaks : Nat → Nat → Cursor → Text × Nat × Cursor
  | 0, deepest, c => ([], deepest, c)
  | room + 1, deepest, c =>
    if c.peek == ' ' then leadingBreaks room (max deepest c.next.column) c.next
    else if isBreak c.peek then
      let (ends, after) := c.lineBreak
      let (more, deepest, after) := leadingBreaks room deepest after
      (ends ++ more, deepest, after)
    else ([], deepest, c)

def skipIndentation (indent : Nat) : Nat → Cursor → Cursor
  | 0, c => c
  | room + 1, c =>
    if c.column < indent && c.peek == ' ' then skipIndentation indent room c.next else c

def blockBreaks (indent : Nat) : Nat → Cursor → Text × Cursor
  | 0, c => ([], c)
  | room + 1, c =>
    let c := skipIndentation indent c.rest.length c
    if isBreak c.peek then
      let (ends, after) := c.lineBreak
      let (more, after) := blockBreaks indent room after
      (ends ++ more, after)
    else ([], c)

def startsBlank (c : Cursor) : Bool := c.peek == ' ' || c.peek == '\t'

/-- Lines from here on: the text, the last line end, and the empty lines behind it. -/
def blockLines (folded : Bool) (indent : Nat) : Nat → Text → Cursor → Text × Text × Text × Cursor
  | 0, breaks, c => ([], [], breaks, c)
  | room + 1, breaks, c =>
    if c.column = indent && !c.atEnd then
      let (line, after) := c.takeWhile (!isLineEnd ·)
      let (lineEnd, after) := after.lineBreak
      let (nextBreaks, after) := blockBreaks indent (after.rest.length + 1) after
      if after.column = indent && !after.atEnd then
        let joint :=
          if folded && lineEnd = ['\n'] && !startsBlank c && !startsBlank after then
            if nextBreaks.isEmpty then [' '] else []
          else lineEnd
        let (more, lastEnd, lastBreaks, last) := blockLines folded indent room nextBreaks after
        (breaks ++ line ++ joint ++ more, lastEnd, lastBreaks, last)
      else (breaks ++ line, lineEnd, nextBreaks, after)
    else ([], [], breaks, c)

def blockScalar (parent : Int) (c : Cursor) : Scan (Text × Cursor) := do
  let folded := c.peek == '>'
  let (header, c) ← blockHeader c.next
  let least := (max 1 (parent + 1)).toNat
  let (breaks, indent, c) :=
    match header.increment with
    | some n =>
      let indent := least + n - 1
      let (breaks, c) := blockBreaks indent (c.rest.length + 1) c
      (breaks, indent, c)
    | none =>
      let (breaks, deepest, c) := leadingBreaks (c.rest.length + 1) 0 c
      (breaks, max least deepest, c)
  let (s, lastEnd, lastBreaks, c) := blockLines folded indent (c.rest.length + 1) breaks c
  let tail :=
    match header.chomping with
    | .strip => []
    | .clip => lastEnd
    | .keep => lastEnd ++ lastBreaks
  return (s ++ tail, c)

end PageComposer.Yaml
