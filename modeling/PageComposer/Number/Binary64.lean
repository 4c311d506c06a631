import PageComposer.Text

/-!
# Binary64 numbers

A number of the IEEE 754 double format is kept as its sign and its magnitude code, the 63 low bits
read as a natural number. The code grows with the magnitude, so neighbours differ by one, infinity
comes right after the largest finite number, and everything above infinity is not a number.

`nearest` rounds an exact ratio to the nearest magnitude, ties to the even code; `ofDecimal` rounds
a decimal.
-/

namespace PageComposer

structure Binary64 where
  negative : Bool
  code : Nat
  deriving DecidableEq

namespace Binary64

def infinityCode : Nat := 2047 * Nat.pow 2 52

def isNaN (x : Binary64) : Bool := infinityCode < x.code

def isInfinite (x : Binary64) : Bool := x.code == infinityCode

def isFinite (x : Binary64) : Bool := x.code < infinityCode

def infinity (negative : Bool) : Binary64 := ⟨negative, infinityCode⟩

def nan : Binary64 := ⟨false, infinityCode + Nat.pow 2 51⟩

def zero (negative : Bool) : Binary64 := ⟨negative, 0⟩

def ofBits (bits : Nat) : Binary64 := ⟨bits / Nat.pow 2 63 % 2 == 1, bits % Nat.pow 2 63⟩

def toBits (x : Binary64) : Nat := (if x.negative then Nat.pow 2 63 else 0) + x.code

/-- A finite magnitude is `significand * 2 ^ exponent`. -/
def significand (code : Nat) : Nat := if code < Nat.pow 2 52 then code else Nat.pow 2 52 + code % Nat.pow 2 52

def exponent (code : Nat) : Int := if code < Nat.pow 2 52 then -1074 else (code / Nat.pow 2 52 : Nat) - 1075

/-- A finite magnitude as a ratio: numerator and denominator, one of them a power of two's multiple. -/
def ratio (code : Nat) : Nat × Nat :=
  (significand code * Nat.pow 2 (exponent code).toNat, Nat.pow 2 (-exponent code).toNat)

/-! ## Rounding -/

def roundQuotient (num den : Nat) : Nat :=
  let q := num / den
  let r := num % den
  if 2 * r < den then q else if den < 2 * r then q + 1 else if q % 2 = 0 then q else q + 1

/-- The exponent of the greatest power of two that does not exceed a positive ratio. -/
def binaryExponent (num den : Nat) : Int :=
  let e : Int := (num.log2 : Int) - den.log2
  if num * Nat.pow 2 (-e).toNat < den * Nat.pow 2 e.toNat then e - 1 else e

/-- The magnitude nearest to a ratio. Scaled so that the significand has 53 bits, or fewer at the
least exponent; a significand that rounds up to 54 bits carries into the exponent by itself. -/
def nearest (num den : Nat) : Nat :=
  if num = 0 then 0 else
    let q := max (-1074) (binaryExponent num den - 52)
    let m := roundQuotient (num * Nat.pow 2 (-q).toNat) (den * Nat.pow 2 q.toNat)
    min infinityCode ((q + 1074).toNat * Nat.pow 2 52 + m)

/-- The magnitude nearest to `digits * 10 ^ exponent`. Exponents far outside the range of the format
are settled by the size of the digits alone. -/
def ofDecimal (digits : Nat) (exponent : Int) : Nat :=
  if digits = 0 then 0
  else if 400 < exponent then infinityCode
  else if exponent + (digits.log2 + 1 : Nat) < -400 then 0
  else nearest (digits * Nat.pow 10 exponent.toNat) (Nat.pow 10 (-exponent).toNat)

def ofInt (n : Int) : Binary64 := ⟨n < 0, nearest n.natAbs 1⟩

def isWhole (x : Binary64) : Bool :=
  x.isFinite && (ratio x.code).1 % (ratio x.code).2 == 0

def truncate (x : Binary64) : Int :=
  let n : Nat := (ratio x.code).1 / (ratio x.code).2
  if x.negative then -(n : Int) else n

def isPositive (x : Binary64) : Bool := !x.isNaN && !x.negative && 0 < x.code

def negate (x : Binary64) : Binary64 := ⟨!x.negative, x.code⟩

def signedNumerator (x : Binary64) : Int :=
  if x.negative then -((ratio x.code).1 : Int) else (ratio x.code).1

/-- The exact sum of two finite numbers, rounded. Infinities of different signs have no sum. -/
def add (x y : Binary64) : Binary64 :=
  if x.isNaN || y.isNaN then nan
  else if x.isInfinite then (if y.isInfinite && x.negative != y.negative then nan else x)
  else if y.isInfinite then y
  else
    let b := (ratio x.code).2
    let d := (ratio y.code).2
    let sum := x.signedNumerator * d + y.signedNumerator * b
    if sum = 0 then zero (x.negative && y.negative) else ⟨sum < 0, nearest sum.natAbs (b * d)⟩

/-- The exact product of two finite numbers, rounded. An infinity has no product with zero. -/
def mul (x y : Binary64) : Binary64 :=
  let negative := x.negative != y.negative
  if x.isNaN || y.isNaN then nan
  else if x.isInfinite || y.isInfinite then
    (if x.code = 0 || y.code = 0 then nan else infinity negative)
  else
    let (a, b) := ratio x.code
    let (c, d) := ratio y.code
    ⟨negative, nearest (a * c) (b * d)⟩

def scale (x : Binary64) (n : Nat) : Binary64 :=
  if !x.isFinite then x else ⟨x.negative, nearest ((ratio x.code).1 * n) (ratio x.code).2⟩

end Binary64
end PageComposer
