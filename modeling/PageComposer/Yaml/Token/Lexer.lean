import PageComposer.Yaml.Token.Block
import PageComposer.Yaml.Token.Plain
import PageComposer.Yaml.Token.Property
import PageComposer.Yaml.Token.Quoted

/-!
# Tokens of a text

`Token.scan` reads a text into its tokens. That a key stands somewhere is known only at the colon behind
it, so a place where one may begin is kept as a candidate until the colon comes or the line ends. A column
deeper than that of the enclosing block opens a block, a lesser one closes blocks.
-/

namespace PageComposer.Yaml

structure KeyCandidate where
  position : Nat
  /-- It stands where its block goes on, so it can be nothing but a key. -/
  required : Bool
  index : Nat
  line : Nat
  column : Nat

structure Lexer where
  cursor : Cursor
  tokens : List Token
  count : Nat
  indent : Int
  enclosingIndents : List Int
  keyAllowed : Bool
  candidate : Option KeyCandidate
  /-- The candidates around each open flow collection, innermost first. -/
  enclosingCandidates : List (Option KeyCandidate)

/-- The tokens that a source gives, and the trouble that ends them if they do not end with the source. -/
structure TokenStream where
  tokens : List Token
  ending : Option Trouble

namespace Lexer

def start (s : Text) : Lexer := ⟨.start s, [], 0, -1, [], true, none, []⟩

def inFlow (x : Lexer) : Bool := !x.enclosingCandidates.isEmpty

def emit (t : Token) (x : Lexer) : Lexer := { x with tokens := t :: x.tokens, count := x.count + 1 }

def mark (t : Token) (length : Nat) (x : Lexer) : Lexer :=
  { x.emit t with cursor := x.cursor.skip length }

def allowKey (allowed : Bool) (x : Lexer) : Lexer := { x with keyAllowed := allowed }

def insert (position : Nat) (t : Token) (x : Lexer) : Lexer :=
  { x with tokens := x.tokens.insertIdx (x.count - position) t, count := x.count + 1 }

/-! ## Candidates -/

/-- A key does not go over a line end, nor over more than 1024 characters. -/
def isStale (c : Cursor) (k : KeyCandidate) : Bool := k.line != c.line || k.index + 1024 < c.index

/-- Gives up a candidate that is too far off. -/
def fresh (c : Cursor) : Option KeyCandidate → Scan (Option KeyCandidate)
  | none => .ok none
  | some k => if isStale c k then (if k.required then c.fail else .ok none) else .ok (some k)

def dropStale (x : Lexer) : Scan Lexer := do
  let candidate ← fresh x.cursor x.candidate
  let enclosing ← x.enclosingCandidates.mapM (fresh x.cursor)
  return { x with candidate := candidate, enclosingCandidates := enclosing }

def dropCandidate (x : Lexer) : Scan Lexer :=
  if x.candidate.any (·.required) then x.cursor.fail else .ok { x with candidate := none }

def saveCandidate (x : Lexer) : Scan Lexer := do
  if x.keyAllowed then
    let x ← x.dropCandidate
    let c := x.cursor
    let required := !x.inFlow && x.indent == c.column
    return { x with candidate := some ⟨x.count, required, c.index, c.line, c.column⟩ }
  else return x

/-- The tokens in front of which nothing can be put any more: those before all candidates. -/
def settled (x : Lexer) : List Token :=
  let candidates := (x.candidate :: x.enclosingCandidates).filterMap id
  let length := candidates.foldl (fun least k => min least k.position) x.count
  (x.tokens.drop (x.count - length)).reverse

/-! ## Indentation -/

/-- Closes the blocks that are deeper than a column. -/
def closeDeeper (column : Int) (x : Lexer) : List Int → Lexer
  | [] => x
  | outer :: rest =>
    if column < x.indent then
      closeDeeper column { x.emit .blockEnd with indent := outer, enclosingIndents := rest } rest
    else x

def closeBlocks (column : Int) (x : Lexer) : Lexer :=
  if x.inFlow then x else closeDeeper column x x.enclosingIndents

/-- Opens a block at a column, if it is deeper than the one around it: tells whether it is. -/
def openBlock (column : Nat) (x : Lexer) : Bool × Lexer :=
  if x.indent < column then
    (true, { x with indent := column, enclosingIndents := x.indent :: x.enclosingIndents })
  else (false, x)

def openBlockHere (t : Token) (x : Lexer) : Lexer :=
  let (deeper, x) := x.openBlock x.cursor.column
  if deeper then x.emit t else x

/-- An entry of a block can only stand where a key can. -/
def blockMark (t : Token) (x : Lexer) : Scan Lexer :=
  if x.inFlow then .ok x
  else if x.keyAllowed then .ok (x.openBlockHere t)
  else x.cursor.fail

/-! ## Gaps -/

/-- Skips spaces, comments and line ends. Outside of flow collections a key may begin behind a line end. -/
def skipGaps : Nat → Lexer → Lexer
  | 0, x => x
  | room + 1, x =>
    let c := x.cursor.skipSpaces.skipComment
    if isBreak c.peek then
      skipGaps room { x with cursor := c.lineBreak.2, keyAllowed := x.keyAllowed || !x.inFlow }
    else { x with cursor := c }

def advance (x : Lexer) : Scan Lexer := do
  let c := x.cursor
  let c := if c.index = 0 && c.peek == '\ufeff' then c.next else c
  let x ← (skipGaps (c.rest.length + 1) { x with cursor := c }).dropStale
  return x.closeBlocks x.cursor.column

/-! ## Tokens -/

def outside (read : Cursor → Scan (Token × Cursor)) (x : Lexer) : Scan Lexer := do
  let x ← (x.closeBlocks (-1)).dropCandidate
  let (t, c) ← read x.cursor
  return { x.emit t with cursor := c, keyAllowed := false }

def opening (read : Cursor → Scan (Token × Cursor)) (x : Lexer) : Scan Lexer := do
  let x ← x.saveCandidate
  let (t, c) ← read x.cursor
  return { x.emit t with cursor := c, keyAllowed := false }

def openFlow (t : Token) (x : Lexer) : Scan Lexer := do
  let x ← x.saveCandidate
  return { x.mark t 1 with
    candidate := none, enclosingCandidates := x.candidate :: x.enclosingCandidates, keyAllowed := true }

def closeFlow (t : Token) (x : Lexer) : Scan Lexer := do
  let x ← x.dropCandidate
  match x.enclosingCandidates with
  | [] => x.cursor.next.fail
  | outer :: rest =>
    return { x.mark t 1 with candidate := outer, enclosingCandidates := rest, keyAllowed := false }

def flowEntry (x : Lexer) : Scan Lexer := do
  return ((← x.dropCandidate).mark .flowEntry 1).allowKey true

def blockEntry (x : Lexer) : Scan Lexer := do
  let x ← x.blockMark .blockSequenceStart
  return ((← x.dropCandidate).mark .blockEntry 1).allowKey true

def explicitKey (x : Lexer) : Scan Lexer := do
  let x ← x.blockMark .blockMappingStart
  return ((← x.dropCandidate).mark .key 1).allowKey !x.inFlow

/-- A colon makes the candidate in front of it a key; without one its key is empty or was marked. -/
def value (x : Lexer) : Scan Lexer := do
  match x.candidate with
  | some k =>
    let keyed := { x with candidate := none }.insert k.position .key
    let (deeper, opened) := if x.inFlow then (false, keyed) else keyed.openBlock k.column
    let opened := if deeper then opened.insert k.position .blockMappingStart else opened
    return (opened.mark .value 1).allowKey false
  | none =>
    let x ← x.blockMark .blockMappingStart
    return (x.mark .value 1).allowKey !x.inFlow

def block (x : Lexer) : Scan Lexer := do
  let x ← x.dropCandidate
  let (s, c) ← blockScalar x.indent x.cursor
  return { x.emit (.scalar false (some s)) with cursor := c, keyAllowed := true }

def plain (x : Lexer) : Scan Lexer := do
  let x ← x.saveCandidate
  let (s, broken, c) := plainScalar x.inFlow (x.indent + 1) x.cursor
  return { x.emit (.scalar true (some s)) with cursor := c, keyAllowed := broken }

def startsPlain (x : Lexer) : Bool :=
  let c := x.cursor.peek
  !(isGap c || "-?:,[]\x7b\x7d#&*!|>'\"%@\x60".toList.contains c) ||
    (!isGap (x.cursor.ahead 1) && (c == '-' || (!x.inFlow && (c == '?' || c == ':'))))

def atBlockMark (c : Char) (x : Lexer) : Bool := x.cursor.peek == c && isGap (x.cursor.ahead 1)

/-- Does a mark of keys stand here? In flow collections it needs no gap. -/
def atKeyMark (c : Char) (x : Lexer) : Bool :=
  x.cursor.peek == c && (x.inFlow || isGap (x.cursor.ahead 1))

def token (x : Lexer) : Scan Lexer :=
  let c := x.cursor
  let ch := c.peek
  if c.atEnd then x.outside fun c => .ok (.streamEnd, c)
  else if ch == '%' && c.column == 0 then x.outside directiveToken
  else if c.column == 0 && c.atSeparator then
    x.outside fun c => .ok (if ch == '-' then .documentStart else .documentEnd, c.skip 3)
  else if ch == '[' then x.openFlow .flowSequenceStart
  else if ch == '\x7b' then x.openFlow .flowMappingStart
  else if ch == ']' then x.closeFlow .flowSequenceEnd
  else if ch == '\x7d' then x.closeFlow .flowMappingEnd
  else if ch == ',' then x.flowEntry
  else if x.atBlockMark '-' then x.blockEntry
  else if x.atKeyMark '?' then x.explicitKey
  else if x.atKeyMark ':' then x.value
  else if ch == '*' then x.opening fun c => (anchorName c).map fun (name, c) => (.reference name, c)
  else if ch == '&' then x.opening fun c => (anchorName c).map fun (name, c) => (.anchor name, c)
  else if ch == '!' then x.opening tagToken
  else if (ch == '|' || ch == '>') && !x.inFlow then x.block
  else if ch == '\'' || ch == '"' then
    x.opening fun c => (quotedScalar c).map fun (s, c) => (.scalar false s, c)
  else if x.startsPlain then x.plain
  else c.fail

/-! ## Looking ahead -/

def separatorSight (s : Text) : Nat :=
  if "---".toList.isPrefixOf s || "...".toList.isPrefixOf s then 3 else 2

def tagSight (c : Cursor) : Nat :=
  if c.ahead 1 == '<' || isGap (c.ahead 1) then 1
  else (c.next.rest.takeWhile fun ch => !isSpaceOrEnd ch && ch != '!').length + 1

/-- How far is looked ahead to tell which token begins here. -/
def markSight (x : Lexer) : Nat :=
  let ch := x.cursor.peek
  if x.cursor.column == 0 && (ch == '-' || ch == '.') then separatorSight x.cursor.rest
  else if ch == '!' then tagSight x.cursor
  else if "-?:%@\x60\t".toList.contains ch || (x.inFlow && (ch == '|' || ch == '>')) then 1
  else 0

/-- How far is looked ahead from the beginning of a scalar while so many characters of it are read: in every line
there may be a separator of documents. -/
def lineSight (c : Cursor) (length : Nat) : Nat :=
  let passed := c.rest.take length
  let start := passed.length - (passed.reverse.takeWhile (!isBreak ·)).length
  if start = 0 then 0 else start + separatorSight (c.rest.drop start)

/-- How far is looked ahead from here while a token is read up to an index. -/
def sight (index : Nat) (x : Lexer) : Nat :=
  let length := index - x.cursor.index
  let inLines :=
    if x.startsPlain || x.cursor.peek == '\'' || x.cursor.peek == '"' then lineSight x.cursor length else 0
  max length (max x.markSight inLines)

/-- How far is looked ahead from the end of a token. A plain scalar goes on at a colon without a gap behind it, unless
its column has ended it. -/
def colonSight (after : Cursor) (x : Lexer) : Nat :=
  if x.startsPlain && after.peek == ':' && (x.inFlow || x.indent < after.column) then 1 else 0

/-! ## Runs -/

/-- The next step. Where the text is cut off, it must not look at what is behind the cut. -/
def next (cut : Option Trouble) (x : Lexer) : Result Lexer :=
  match x.advance with
  | .error f => do
    x.cursor.look cut (f.index - x.cursor.index)
    .error f.trouble
  | .ok y =>
    match y.token with
    | .error f => do
      y.cursor.look cut (y.sight f.index)
      .error f.trouble
    | .ok z => do
      y.cursor.look cut (y.sight z.cursor.index)
      z.cursor.look cut (y.colonSight z.cursor)
      z.dropStale.mapError Flaw.trouble

/-- Reads up to the end, or to a step that fails. Every step but the last goes on by a character, so the
length of the text and one more is room enough. -/
def run (cut : Option Trouble) : Nat → Lexer → TokenStream
  | 0, x => ⟨x.settled, some .malformed⟩
  | room + 1, x =>
    match x.next cut with
    | .error t => ⟨x.settled, some t⟩
    | .ok y => if y.tokens.head? = some .streamEnd then ⟨y.tokens.reverse, none⟩ else run cut room y

end Lexer

def Token.scan (s : Source) : TokenStream := (Lexer.start s.text).run s.cut (s.text.length + 1)

end PageComposer.Yaml
