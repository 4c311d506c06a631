import PageComposer.Number.Shortest

/-!
# Layout of decimals

How the digits of a number are written down: positionally or with an exponent. The decisions of one
output format are a `Layout`; `Layout.write` follows them.
-/

namespace PageComposer

structure Layout where
  /-- The least exponent of the leading digit that is written positionally. -/
  positionalFrom : Int
  /-- The exponents of the leading digit from here on are written with an exponent. -/
  positionalBelow : Int
  /-- Whole numbers end in `.0` when written positionally. -/
  wholePoint : Bool
  /-- A single digit before an exponent is followed by `.0`. -/
  mantissaPoint : Bool
  /-- The least number of exponent digits. -/
  exponentWidth : Nat
  notANumber : Text
  infinite : Text

namespace Layout

def zeros (n : Int) : Text := List.replicate n.toNat '0'

def positional (layout : Layout) (d : Digits) : Text :=
  if d.point ≤ 0 then "0.".toList ++ zeros (-d.point) ++ d.digits
  else if d.point < d.digits.length then
    d.digits.take d.point.toNat ++ '.' :: d.digits.drop d.point.toNat
  else
    d.digits ++ zeros (d.point - d.digits.length) ++ (if layout.wholePoint then ".0".toList else [])

def exponent (layout : Layout) (e : Int) : Text :=
  'e' :: (if e < 0 then '-' else '+') :: Text.padLeft layout.exponentWidth '0' (Text.ofNat e.natAbs)

def scientific (layout : Layout) (d : Digits) : Text :=
  d.digits.take 1 ++
    (match d.digits.drop 1 with
      | [] => if layout.mantissaPoint then ".0".toList else []
      | rest => '.' :: rest) ++
    layout.exponent (d.point - 1)

def writeDigits (layout : Layout) (d : Digits) : Text :=
  if layout.positionalFrom < d.point ∧ d.point ≤ layout.positionalBelow then layout.positional d
  else layout.scientific d

def write (layout : Layout) (x : Binary64) : Text :=
  if x.isNaN then layout.notANumber
  else
    (if x.negative then ['-'] else []) ++
      (if x.isInfinite then layout.infinite
        else if x.code = 0 then '0' :: (if layout.wholePoint then ".0".toList else [])
        else layout.writeDigits (Binary64.shortest x.code))

end Layout
end PageComposer
