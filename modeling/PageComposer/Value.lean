import PageComposer.Number.Layout
import PageComposer.Number.Numeral
import PageComposer.Text.Quoted

/-!
# Values

The values of tag properties, settings and names: nothing, a flag, a number, a text, or a collection.
A value is written in two ways: `Value.onPage` is its form in page text, `Value.shown` its form in a
message.
-/

namespace PageComposer

inductive Value where
  | nothing
  | flag (b : Bool)
  | integer (n : Int)
  | number (x : Binary64)
  | text (s : Text)
  /-- A text with a surrogate, which is no character. -/
  | illFormed
  | bytes (octets : List UInt8)
  | moment (s : Text)
  | list (items : List Value)
  | map (entries : List (Value × Value))

namespace Value

/-- Numbers in messages: positional from 0.0001 to below 10^16, whole numbers with a point, exponents of
two digits. -/
def messageLayout : Layout where
  positionalFrom := -4
  positionalBelow := 16
  wholePoint := true
  mantissaPoint := false
  exponentWidth := 2
  notANumber := "nan".toList
  infinite := "inf".toList

/-- Numbers on a page: positional from 0.000001 to below 10^21, otherwise with an exponent as short as
possible. -/
def pageLayout : Layout where
  positionalFrom := -6
  positionalBelow := 21
  wholePoint := false
  mantissaPoint := false
  exponentWidth := 1
  notANumber := "NaN".toList
  infinite := "Infinity".toList

/-! ## Messages -/

mutual

def display : Value → Text
  | nothing => "None".toList
  | flag b => if b then "True".toList else "False".toList
  | integer n => Text.ofInt n
  | number x => messageLayout.write x
  | text s => Text.quoted s
  | illFormed => Text.quoted ['\ufffd']
  | bytes octets => 'b' :: Text.quoted (octets.map fun b => Char.ofNat b.toNat)
  | moment s => s
  | list items => '[' :: Text.join ", ".toList (displayItems items) ++ [']']
  | map entries => '\x7b' :: Text.join ", ".toList (displayEntries entries) ++ ['\x7d']

def displayItems : List Value → List Text
  | [] => []
  | v :: rest => v.display :: displayItems rest

def displayEntries : List (Value × Value) → List Text
  | [] => []
  | (k, v) :: rest => (k.display ++ ": ".toList ++ v.display) :: displayEntries rest

end

def shown : Value → Text
  | text s => s
  | v => v.display

/-- What keeps a value out of a message: a whole number of too many digits, or collections nested too deep. -/
inductive Obstacle where
  | digits
  | nesting
  deriving DecidableEq

/-- How many values can lie in one another in a message. It is an approximation, since the stack of the caller counts as
well. -/
def messageRoom : Nat := 995

mutual

/-- The first obstacle that writing a value meets, with room for so many levels. -/
def obstacle? : Value → Nat → Option Obstacle
  | _, 0 => some .nesting
  | integer n, _ + 1 => if n.natAbs < Nat.pow 10 Numeral.digitLimit then none else some .digits
  | list items, room + 1 => obstacleIn? items room
  | map entries, room + 1 => obstacleInEntries? entries room
  | _, _ + 1 => none

def obstacleIn? : List Value → Nat → Option Obstacle
  | [], _ => none
  | v :: rest, room => v.obstacle? room <|> obstacleIn? rest room

def obstacleInEntries? : List (Value × Value) → Nat → Option Obstacle
  | [], _ => none
  | (k, v) :: rest, room => k.obstacle? room <|> v.obstacle? room <|> obstacleInEntries? rest room

end

/-! ## Pages -/

/-- Whole numbers below 10^21 are written out in full, without a point and without a sign of zero. -/
def writtenOut (x : Binary64) : Bool :=
  x.isWhole && x.truncate.natAbs < Nat.pow 10 21

def onPage : Value → Text
  | flag b => if b then "true".toList else "false".toList
  | number x => if writtenOut x then Text.ofInt x.truncate else pageLayout.write x
  | v => v.shown

end Value
end PageComposer
