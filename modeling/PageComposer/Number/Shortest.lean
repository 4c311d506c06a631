import PageComposer.Number.Binary64

/-!
# Shortest decimals

`shortest` gives the fewest digits that `Binary64.ofDecimal` reads back as the same magnitude, and of
those the nearest. It tries the decimal grids of 1 to 17 digits; on each grid only the two neighbours
of the exact value can be nearest. `ofDecimal_of_coarsest?` says that what a grid yields reads back.
-/

namespace PageComposer

/-- The decimal `0.d₁d₂… * 10 ^ point`, with the digits from the first to the last that is not zero. -/
structure Digits where
  digits : Text
  point : Int
  deriving DecidableEq

namespace Binary64

/-- The least `k` with `num / den < 10 ^ k`, for a positive ratio. -/
def decimalPoint (num den : Nat) : Int :=
  let guess : Int := (binaryExponent num den * 30103) / 100000
  let below (k : Int) : Bool := num * Nat.pow 10 (-k).toNat < den * Nat.pow 10 k.toNat
  if below (guess - 1) then guess - 1
  else if below guess then guess
  else if below (guess + 1) then guess + 1
  else guess + 2

/-- The neighbours of a ratio on the grid of multiples of `10 ^ exponent`, nearest first; at the
midpoint the even one. -/
def gridNeighbours (num den : Nat) (exponent : Int) : List Nat :=
  let n := num * Nat.pow 10 (-exponent).toNat
  let d := den * Nat.pow 10 exponent.toNat
  let low := n / d
  let twice := 2 * (n % d)
  if twice < d || (twice == d && low % 2 == 0) then [low, low + 1] else [low + 1, low]

/-- The nearest multiple of `10 ^ exponent` that reads back as the magnitude. -/
def onGrid? (code : Nat) (exponent : Int) : Option Nat :=
  (gridNeighbours (ratio code).1 (ratio code).2 exponent).find? fun c => ofDecimal c exponent == code

/-- The coarsest grid of at most seventeen digits that holds a decimal that reads back, and that
decimal: digits and exponent. -/
def coarsest? (code : Nat) : Option (Nat × Int) :=
  let point := decimalPoint (ratio code).1 (ratio code).2
  (List.range 17).findSome? fun n =>
    let exponent := point - (n + 1 : Nat)
    (onGrid? code exponent).map fun c => (c, exponent)

/-- The exact decimal value of a finite magnitude: digits and exponent. -/
def exactDecimal (code : Nat) : Nat × Int :=
  let down := (-exponent code).toNat
  (significand code * Nat.pow 2 (exponent code).toNat * Nat.pow 5 down, -(down : Int))

def decimal (code : Nat) : Nat × Int := (coarsest? code).getD (exactDecimal code)

def shortest (code : Nat) : Digits :=
  let (n, exponent) := decimal code
  let ds := Text.ofNat n
  ⟨Text.dropEndWhile (· == '0') ds, ds.length + exponent⟩

theorem ofDecimal_of_coarsest? {code c : Nat} {e : Int} (h : coarsest? code = some (c, e)) :
    ofDecimal c e = code := by
  obtain ⟨n, -, hn⟩ := List.exists_of_findSome?_eq_some h
  obtain ⟨a, ha, hp⟩ := Option.map_eq_some_iff.1 hn
  cases hp
  simpa using List.find?_some ha

end Binary64
end PageComposer
