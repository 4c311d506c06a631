import PageComposer.Fault

/-!
# Sources

The text of a file as it becomes readable. A file is decoded in portions and its text is handed on in
batches of 4096 characters, the first two together. A batch that cannot be decoded or holds a character
that no document may hold is missed only when reading comes to it.
-/

namespace PageComposer.Yaml

inductive Trouble where
  | malformed
  | undecodable (fault : Utf8.Fault)
  | tooDeep
  | scalar (e : ScalarDefect)
  deriving DecidableEq

abbrev Result (α : Type) := Except Trouble α

def malformed {α : Type} : Result α := .error .malformed

/-- A text, and the trouble that comes up where reading goes beyond it. -/
structure Source where
  text : Text
  cut : Option Trouble

def isAllowed (c : Char) : Bool :=
  c == '\t' || c == '\n' || c == '\r' || (' ' ≤ c && c ≤ '~') || c == '\x85' ||
    ('\xa0' ≤ c && c ≤ '\ufffd') || 0x10000 ≤ c.toNat

namespace Source

/-! ## Batches -/

def batchSize : Nat := 4096

/-- The number of characters in the batches before the one with some character. -/
def batchStart (index : Nat) : Nat :=
  if index < 2 * batchSize then 0 else index / batchSize * batchSize

/-- A text that some trouble cuts off, if no trouble with its characters comes before that. -/
def ofText (s : Text) (cut : Option Trouble) : Source :=
  match s.findIdx? (!isAllowed ·) with
  | none => ⟨s, cut⟩
  | some index => ⟨s.take (batchStart index), some .malformed⟩

/-! ## Portions -/

def portionSize : Nat := 8192

def within : Nat → Text → Text
  | _, [] => []
  | bytes, c :: rest =>
    if c.utf8Size ≤ bytes then c :: within (bytes - c.utf8Size) rest else []

/-- The number of characters decoded from the first bytes of a text. A carriage return waits for the byte
behind it. -/
def decodedFrom (s : Text) (bytes : Nat) : Nat :=
  (Utf8.unifyLineEnds (Text.dropTail ['\r'] (within bytes s))).length

/-- The number of bytes in the next portion: what the characters missing in the batch should need by the
ratio of bytes and characters in the portion before, and no less than the size of a portion. -/
def nextPortion (bytes characters missing : Nat) : Nat :=
  let ratio : Binary64 := ⟨false, Binary64.nearest bytes characters⟩
  if bytes ≤ characters ∨ characters = 0 then portionSize
  else max portionSize (ratio.mul (Binary64.ofInt missing)).truncate.natAbs

/-- The number of characters decoded before the portion that holds a byte, or before the end of the file;
`portion` and `characters` are the bytes and characters of the portion before, `start` and `decoded` those
of all. -/
def decodedBefore (s : Text) (total byte : Nat) :
    Nat → (start decoded portion characters : Nat) → Nat
  | 0, _, decoded, _, _ => decoded
  | room + 1, start, decoded, portion, characters =>
    let missing := batchSize - decoded % batchSize
    let next := min total (start + nextPortion portion characters missing)
    if start = total ∨ byte < next then decoded
    else
      let decodedThen := decodedFrom s next
      decodedBefore s total byte room next decodedThen (next - start) (decodedThen - decoded)

def isContinuation (b : UInt8) : Bool := 0x80 ≤ b.toNat && b.toNat ≤ 0xBF

def faultyByte (bytes : List UInt8) (f : Utf8.Fault) : Nat :=
  if f.reason = .startByte then f.start
  else if f.first = 0xED ∧ f.length = 1 ∧ (bytes[f.start + 1]?.any isContinuation) then f.start + 2
  else f.start + f.length

def ofFaulty (bytes : List UInt8) (f : Utf8.Fault) : Source :=
  match Utf8.decode (bytes.take f.start) with
  | .error _ => ⟨[], some (.undecodable f)⟩
  | .ok s =>
    let room := bytes.length / portionSize + 1
    let decoded := decodedBefore s bytes.length (faultyByte bytes f) room 0 0 0 0
    ofText ((Utf8.unifyLineEnds s).take (batchStart decoded)) (some (.undecodable f))

def ofBytes (bytes : List UInt8) : Source :=
  match Utf8.read bytes with
  | .ok s => ofText s none
  | .error f => ofFaulty bytes f

end Source
end PageComposer.Yaml
