import PageComposer.Yaml.Cursor
import PageComposer.Yaml.Token

/-!
# Properties and directives

Anchors and references, tags, and the directives in front of a document.
-/

namespace PageComposer.Yaml

def isNameChar (c : Char) : Bool := c.isAlphanum || c == '-' || c == '_'

def isHexDigit (c : Char) : Bool :=
  c.isDigit || ('a' ≤ c && c ≤ 'f') || ('A' ≤ c && c ≤ 'F')

def hexDigitValue (c : Char) : Nat :=
  if c.isDigit then c.toNat - 0x30 else if 'a' ≤ c then c.toNat - 0x57 else c.toNat - 0x37

def hexValue (s : Text) : Nat := s.foldl (fun n c => n * 16 + hexDigitValue c) 0

def anchorName (c : Cursor) : Scan (Text × Cursor) :=
  let (name, after) := c.next.takeWhile isNameChar
  if name.isEmpty || !(isGap after.peek || "?:,]\x7d%@\x60".toList.contains after.peek) then after.fail
  else .ok (name, after)

/-! ## Tags -/

def isUriChar (c : Char) : Bool := c.isAlphanum || "-;/?:@&=+$,_.!~*'()[]".toList.contains c

def escapedBytes : Nat → Cursor → Scan (List UInt8 × Cursor)
  | 0, c => .ok ([], c)
  | room + 1, c =>
    if c.peek == '%' then
      if !isHexDigit (c.ahead 1) then c.next.fail
      else if !isHexDigit (c.ahead 2) then (c.skip 2).fail
      else do
        let byte := UInt8.ofNat (hexValue [c.ahead 1, c.ahead 2])
        let (bytes, after) ← escapedBytes room (c.skip 3)
        return (byte :: bytes, after)
    else .ok ([], c)

def uriPieces : Nat → Cursor → Scan (Text × Cursor)
  | 0, c => .ok ([], c)
  | room + 1, c => do
    let (run, after) := c.takeWhile isUriChar
    if after.peek == '%' then
      let (bytes, after) ← escapedBytes after.rest.length after
      match Utf8.decode bytes with
      | .error _ => after.fail
      | .ok s =>
        let (more, after) ← uriPieces room after
        return (run ++ s ++ more, after)
    else return (run, after)

def uri (c : Cursor) : Scan (Text × Cursor) := do
  let (s, after) ← uriPieces (c.rest.length + 1) c
  if after.index = c.index then after.fail else .ok (s, after)

def handle (c : Cursor) : Scan (Text × Cursor) :=
  if c.peek != '!' then c.fail
  else if c.ahead 1 == ' ' then .ok (['!'], c.next)
  else
    let (name, after) := c.next.takeWhile isNameChar
    if after.peek == '!' then .ok ('!' :: name ++ ['!'], after.next) else after.fail

def hasHandle (c : Cursor) : Bool :=
  (c.next.rest.takeWhile (!isSpaceOrEnd ·)).contains '!'

def tagToken (c : Cursor) : Scan (Token × Cursor) := do
  let (token, after) ←
    if c.ahead 1 == '<' then do
      let (suffix, after) ← uri (c.skip 2)
      if after.peek == '>' then pure (Token.tag none suffix, after.next) else after.fail
    else if isGap (c.ahead 1) then pure (Token.tag none ['!'], c.next)
    else do
      let (handle, after) ← if hasHandle c then handle c else pure (['!'], c.next)
      let (suffix, after) ← uri after
      pure (Token.tag (some handle) suffix, after)
  if isSpaceOrEnd after.peek then .ok (token, after) else after.fail

/-! ## Directives -/

/-- A number, which like all of them must not be too long. -/
def versionNumber (c : Cursor) : Scan (Nat × Cursor) :=
  let (digits, after) := c.takeWhile Char.isDigit
  if digits.isEmpty then after.fail
  else if Numeral.digitLimit < digits.length then .error ⟨.scalar .badNumeral, after.index⟩
  else .ok (Numeral.value digits, after)

def versionDirective (c : Cursor) : Scan (Directive × Cursor) := do
  let (major, after) ← versionNumber c.skipSpaces
  if after.peek != '.' then after.fail
  let (_, after) ← versionNumber after.next
  if isSpaceOrEnd after.peek then return (.version major, after) else after.fail

def handleDirective (c : Cursor) : Scan (Directive × Cursor) := do
  let (name, after) ← handle c.skipSpaces
  if after.peek != ' ' then after.fail
  let (lead, after) ← uri after.skipSpaces
  if isSpaceOrEnd after.peek then return (.handle name lead, after) else after.fail

def directiveToken (c : Cursor) : Scan (Token × Cursor) := do
  let (name, after) := c.next.takeWhile isNameChar
  if name.isEmpty || !isSpaceOrEnd after.peek then after.fail
  let (d, after) ←
    if name = "YAML".toList then versionDirective after
    else if name = "TAG".toList then handleDirective after
    else pure (Directive.unknown, after.skipWhile (!isLineEnd ·))
  return (.directive d, ← after.emptyRest)

end PageComposer.Yaml
