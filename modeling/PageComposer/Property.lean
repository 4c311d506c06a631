import PageComposer.Number.Numeral
import PageComposer.OrderedMap
import PageComposer.Text.Blank
import PageComposer.Value

/-!
# Properties

The clause of a tag assigns properties: `key="value"`, `key='value'` or `key=value`, with ASCII words
as keys. Text between assignments is passed over. The written value is read as a flag, a number or a
text; a later assignment to a key wins and the key keeps its first place.
-/

namespace PageComposer

abbrev Properties := OrderedMap Value

namespace Property

def isWordChar (c : Char) : Bool := c.isAlphanum || c == '_'

/-- A value without quotes ends at a blank or a quote. -/
def isBare (c : Char) : Bool := !(Text.isAsciiBlank c || c == '"' || c == '\'')

structure Assignment where
  key : Text
  raw : Text
  size : Nat

def quotedValue? (quote : Char) (s : Text) : Option (Text × Nat) :=
  let raw := s.takeWhile (· != quote)
  if raw.length < s.length then some (raw, raw.length + 2) else none

def writtenValue? : Text → Option (Text × Nat)
  | '"' :: rest => quotedValue? '"' rest
  | '\'' :: rest => quotedValue? '\'' rest
  | s =>
    let raw := s.takeWhile isBare
    if raw.isEmpty then none else some (raw, raw.length)

def atStart? (s : Text) : Option Assignment :=
  let key := s.takeWhile isWordChar
  match s.drop key.length with
  | '=' :: rest =>
    if key.isEmpty then none
    else (writtenValue? rest).map fun (raw, size) => ⟨key, raw, key.length + 1 + size⟩
  | _ => none

def assignmentsFrom : Nat → Text → List Assignment
  | _, [] => []
  | skip + 1, _ :: rest => assignmentsFrom skip rest
  | 0, c :: rest =>
    match atStart? (c :: rest) with
    | some a => a :: assignmentsFrom (a.size - 1) rest
    | none => assignmentsFrom 0 rest

def assignments (s : Text) : List Assignment := assignmentsFrom 0 s

/-- A written value is a flag, else an integer, else a decimal, else a text. -/
def coerce (raw : Text) : Except NumeralTooLong Value :=
  if raw = "true".toList then .ok (.flag true)
  else if raw = "false".toList then .ok (.flag false)
  else if Numeral.isInteger raw then (Numeral.readInteger raw).map .integer
  else match Numeral.decimal? raw with
    | some x => .ok (.number x)
    | none => .ok (.text raw)

def assign (props : Properties) (a : Assignment) : Except NumeralTooLong Properties :=
  (coerce a.raw).map fun value => props.assign a.key value

def ofClause (s : Text) : Except NumeralTooLong Properties :=
  (assignments s).foldlM assign OrderedMap.empty

end Property
end PageComposer
