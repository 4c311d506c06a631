import PageComposer.Number.Binary64

/-!
# Numerals

The texts that stand for numbers: integers `[+-]digits` and decimals with an optional point and an
optional exponent, ASCII digits only. An integer with more than 4300 digits, leading zeros included,
is refused.
-/

namespace PageComposer

structure NumeralTooLong where
  digits : Nat
  deriving DecidableEq

namespace Numeral

def digitLimit : Nat := 4300

def value (digits : Text) : Nat := Nat.ofDigitChars 10 digits 0

def sign : Text → Bool × Text
  | '-' :: rest => (true, rest)
  | '+' :: rest => (false, rest)
  | rest => (false, rest)

def isDigits (s : Text) : Bool := !s.isEmpty && s.all Char.isDigit

def isInteger (s : Text) : Bool := isDigits (sign s).2

def readInteger (s : Text) : Except NumeralTooLong Int :=
  let (negative, digits) := sign s
  if digitLimit < digits.length then .error ⟨digits.length⟩
  else .ok (if negative then -(value digits : Int) else value digits)

def exponent? : Text → Option Int
  | [] => some 0
  | c :: rest =>
    let (negative, digits) := sign rest
    if (c == 'e' || c == 'E') && isDigits digits then
      some (if negative then -(value digits : Int) else value digits)
    else none

def decimal? (s : Text) : Option Binary64 :=
  let (negative, unsigned) := sign s
  let whole := unsigned.takeWhile Char.isDigit
  let rest := unsigned.dropWhile Char.isDigit
  let (fraction, rest) := match rest with
    | '.' :: more => (more.takeWhile Char.isDigit, more.dropWhile Char.isDigit)
    | _ => ([], rest)
  if whole.isEmpty && fraction.isEmpty then none
  else (exponent? rest).map fun e =>
    ⟨negative, Binary64.ofDecimal (value (whole ++ fraction)) (e - fraction.length)⟩

end Numeral
end PageComposer
