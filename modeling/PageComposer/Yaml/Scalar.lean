import PageComposer.Settings.Schema
import PageComposer.Text.Digit
import PageComposer.Yaml.Source
import PageComposer.Yaml.Token
import PageComposer.Yaml.Kind

/-!
# Values of scalars

`Kind.read` gives the value of a scalar by its kind. A kind that a tag states may not fit the form, so a
scalar may have no value. Numerals may be written with the decimal digits of any script.
-/

namespace PageComposer.Yaml

def defect {α : Type} (e : ScalarDefect) : Result α := .error (.scalar e)

/-! ## Flags -/

def trueWords : List Text := ["yes", "true", "on"].map String.toList

def falseWords : List Text := ["no", "false", "off"].map String.toList

def readFlag (s : Text) : Result Value :=
  let word := s.map Char.toLower
  if trueWords.contains word then .ok (.flag true)
  else if falseWords.contains word then .ok (.flag false)
  else defect .badFlag

/-! ## Integers -/

def digitValue? (base : Nat) (c : Char) : Option Nat :=
  let n :=
    if c.isDigit then c.toNat - 0x30
    else if 'a' ≤ c ∧ c ≤ 'z' then c.toNat - 0x57
    else if 'A' ≤ c ∧ c ≤ 'Z' then c.toNat - 0x37
    else base
  if n < base then some n else none

def baseMarks : Nat → List Text
  | 2 => [['0', 'b'], ['0', 'B']]
  | 8 => [['0', 'o'], ['0', 'O']]
  | 16 => [['0', 'x'], ['0', 'X']]
  | _ => []

def bareNumeral (s : Text) : Text := Text.trim Text.isAsciiBlank (Text.asciiNumeral s)

/-- An integer in a base: blanks around it, a sign and the mark of the base are allowed. Decimal digits are
limited in number. -/
def integerIn (base : Nat) (s : Text) : Result Int :=
  let (negative, unsigned) := Numeral.sign (bareNumeral s)
  let digits := if (baseMarks base).contains (unsigned.take 2) then unsigned.drop 2 else unsigned
  if digits.isEmpty || (base == 10 && Numeral.digitLimit < digits.length) then defect .badNumeral
  else match digits.mapM (digitValue? base) with
    | none => defect .badNumeral
    | some values =>
      let n : Int := (values.foldl (fun n d => n * base + d) 0 : Nat)
      .ok (if negative then -n else n)

def sixties (groups : List Int) : Int := groups.foldl (fun n d => n * 60 + d) 0

def integerOf (s : Text) : Result Int :=
  if s = ['0'] then .ok 0
  else if "0b".toList.isPrefixOf s then integerIn 2 (s.drop 2)
  else if "0x".toList.isPrefixOf s then integerIn 16 (s.drop 2)
  else if s.headD ' ' = '0' then integerIn 8 s
  else if s.contains ':' then sixties <$> (s.splitOn ':').mapM (integerIn 10)
  else integerIn 10 s

def readInteger (s : Text) : Result Value :=
  match s.filter (· != '_') with
  | [] => defect .noSign
  | s =>
    match Numeral.sign s with
    | (_, []) => defect .noSign
    | (negative, unsigned) => (integerOf unsigned).map fun n => .integer (if negative then -n else n)

/-! ## Numbers -/

def numberIn (s : Text) : Result Binary64 :=
  match Settings.numberOfWord? (bareNumeral s) with
  | some x => .ok x
  | none => defect .badNumeral

def addSixties (sum : Binary64) (unit : Nat) : List Binary64 → Result Binary64
  | [] => .ok sum
  | x :: rest =>
    let rounded := Binary64.ofInt unit
    if rounded.isFinite then addSixties (sum.add (x.mul rounded)) (unit * 60) rest else defect .overflow

def numberOf (s : Text) : Result Binary64 :=
  if s = ".inf".toList then .ok (.infinity false)
  else if s = ".nan".toList then .ok .nan
  else if s.contains ':' then do
    let groups ← (s.splitOn ':').mapM numberIn
    addSixties (.zero false) 1 groups.reverse
  else numberIn s

def readNumber (s : Text) : Result Value :=
  match (s.filter (· != '_')).map Char.toLower with
  | [] => defect .noSign
  | s =>
    let (negative, unsigned) := Numeral.sign s
    (numberOf unsigned).map fun x => .number (if negative then x.negate else x)

/-! ## Moments and bytes -/

def readMoment (s : Text) : Result Value :=
  match Moment.ofText? (Text.dropTail ['\n'] s) with
  | none => defect .noMoment
  | some m => if m.isValid then .ok (.moment s) else defect .badMoment

def sixBits? (c : Char) : Option Nat :=
  if 'A' ≤ c ∧ c ≤ 'Z' then some (c.toNat - 0x41)
  else if 'a' ≤ c ∧ c ≤ 'z' then some (c.toNat - 0x47)
  else if c.isDigit then some (c.toNat + 4)
  else if c = '+' then some 62
  else if c = '/' then some 63
  else none

/-- Reads groups of four characters of six bits as three bytes; `held` are the bits of the group that are
not in a byte yet, `place` the number of its characters read, `fill` the number of fill marks since. Other
characters do not count. -/
def bytesFrom (place held fill : Nat) : Text → Result (List UInt8)
  | [] => if place = 0 then .ok [] else malformed
  | c :: rest =>
    if c = '=' then
      if 2 ≤ place then
        if 4 ≤ place + fill + 1 then .ok [] else bytesFrom place held (fill + 1) rest
      else bytesFrom place held fill rest
    else match sixBits? c with
      | none => bytesFrom place held fill rest
      | some bits =>
        if place = 0 then bytesFrom 1 bits 0 rest
        else
          let all := held * 64 + bits
          let kept := 6 - 2 * place
          (bytesFrom ((place + 1) % 4) (all % Nat.pow 2 kept) 0 rest).map
            (UInt8.ofNat (all / Nat.pow 2 kept) :: ·)

def readBytes (s : Text) : Result Value :=
  if s.all (·.toNat < 0x80) then (bytesFrom 0 0 0 s).map .bytes else malformed

def Kind.readText : Kind → Text → Result Value
  | null, _ => .ok .nothing
  | flag, s => readFlag s
  | integer, s => readInteger s
  | number, s => readNumber s
  | bytes, s => readBytes s
  | moment, s => readMoment s
  | text, s => .ok (.text s)
  | _, _ => malformed

/-- The value of a scalar with a surrogate, which stands in no other form than that of a text. -/
def Kind.readIllFormed : Kind → Result Value
  | null => .ok .nothing
  | flag => defect .badFlag
  | integer => defect .badNumeral
  | number => defect .badNumeral
  | moment => defect .noMoment
  | text => .ok .illFormed
  | _ => malformed

def Kind.read (kind : Kind) : Content → Result Value
  | some s => kind.readText s
  | none => kind.readIllFormed

end PageComposer.Yaml
