import PageComposer.Text

/-!
# UTF-8

Texts as bytes. `decode` reads bytes and says of the first fault which bytes are at fault and why: a
byte that starts no character, a byte that does not continue one, or the end of the data inside one.
-/

namespace PageComposer.Utf8

inductive Reason where
  | startByte
  | continuationByte
  | endOfData
  deriving DecidableEq

def Reason.message : Reason → Text
  | startByte => "invalid start byte".toList
  | continuationByte => "invalid continuation byte".toList
  | endOfData => "unexpected end of data".toList

structure Fault where
  start : Nat
  length : Nat
  first : Nat
  reason : Reason
  deriving DecidableEq

/-- What the first byte of a longer character says: the number of bytes to follow, the range of the
next one, and the bits it brings. -/
structure Lead where
  following : Nat
  low : Nat
  high : Nat
  bits : Nat

def lead? (b : Nat) : Option Lead :=
  if b < 0xC2 then none
  else if b < 0xE0 then some ⟨1, 0x80, 0xBF, b - 0xC0⟩
  else if b < 0xF0 then
    some ⟨2, if b = 0xE0 then 0xA0 else 0x80, if b = 0xED then 0x9F else 0xBF, b - 0xE0⟩
  else if b < 0xF5 then
    some ⟨3, if b = 0xF0 then 0x90 else 0x80, if b = 0xF4 then 0x8F else 0xBF, b - 0xF0⟩
  else none

def continue? (low high bits read : Nat) : Nat → List UInt8 → Except (Nat × Reason) Nat
  | 0, _ => .ok bits
  | _ + 1, [] => .error (read, .endOfData)
  | n + 1, b :: rest =>
    if low ≤ b.toNat ∧ b.toNat ≤ high then
      continue? 0x80 0xBF (bits * 64 + (b.toNat - 0x80)) (read + 1) n rest
    else .error (read, .continuationByte)

/-- The character at the start of the bytes and the number of bytes behind its first one; or the number
of faulty bytes and the reason. -/
def charAt (b : UInt8) (rest : List UInt8) : Except (Nat × Reason) (Char × Nat) :=
  if b.toNat < 0x80 then .ok (Char.ofNat b.toNat, 0)
  else match lead? b.toNat with
    | none => .error (1, .startByte)
    | some lead =>
      (continue? lead.low lead.high lead.bits 1 lead.following rest).map fun code =>
        (Char.ofNat code, lead.following)

def decodeFrom (position : Nat) : Nat → List UInt8 → Except Fault Text
  | _, [] => .ok []
  | skip + 1, _ :: rest => decodeFrom (position + 1) skip rest
  | 0, b :: rest =>
    match charAt b rest with
    | .ok (c, following) => (decodeFrom (position + 1) following rest).map (c :: ·)
    | .error (length, reason) => .error ⟨position, length, b.toNat, reason⟩

def decode (bytes : List UInt8) : Except Fault Text := decodeFrom 0 0 bytes

def encode (s : Text) : List UInt8 := s.flatMap String.utf8EncodeChar

/-- Line ends are read as line feeds, whether written as a carriage return, a line feed or both. -/
def unifyLineEnds : Text → Text
  | [] => []
  | '\r' :: '\n' :: rest => '\n' :: unifyLineEnds rest
  | '\r' :: rest => '\n' :: unifyLineEnds rest
  | c :: rest => c :: unifyLineEnds rest

def read (bytes : List UInt8) : Except Fault Text := (decode bytes).map unifyLineEnds

end PageComposer.Utf8
