import QueryByName.Decimal.Binary64

/-!
# The shortest decimal of a floating point number

A finite value is written with the fewest digits that still round to it, and among decimals
of that length with the one nearest to it.  The digits are written in positional notation,
with at least one digit after the point and without an exponent.
-/

namespace QueryByName.Decimal

/-- The number `digits` times ten to the power of `exponent`. -/
structure Numeral where
  digits : Nat
  exponent : Int

/-- The fractions that round to one value: those between two bounds, the bounds included or
not. -/
structure RoundingInterval where
  lower : Fraction
  upper : Fraction
  closed : Bool

namespace RoundingInterval

def contains (interval : RoundingInterval) (fraction : Fraction) : Bool :=
  if interval.closed then
    interval.lower.atMost fraction && fraction.atMost interval.upper
  else
    !fraction.atMost interval.lower && !interval.upper.atMost fraction

/-- The interval of a positive value.  The gap below a power of two is half the gap above. -/
def ofFinite (significand : Nat) (exponent : Int) : RoundingInterval :=
  let below := if significand = Binary64.fullSignificand then 1 else 2
  { lower := (Fraction.mk (4 * significand - below) 1).scale 2 (exponent - 2)
    upper := (Fraction.mk (4 * significand + 2) 1).scale 2 (exponent - 2)
    closed := significand % 2 = 0 }

end RoundingInterval

/-- The number of digits before the point of a positive fraction; zero or less if it is below
one. -/
def integerDigits (value : Fraction) : Int :=
  let guess : Int :=
    (Nat.toDigits 10 value.numerator).length - (Nat.toDigits 10 value.denominator).length
  if (value.scale 10 (-guess)).numerator < (value.scale 10 (-guess)).denominator then guess
  else guess + 1

/-- The decimal on the grid of the given exponent that lies in the interval and is nearest to
the value, if there is one.  Of two equally near ones it is the upper. -/
def onGrid? (interval : RoundingInterval) (value : Fraction) (exponent : Int) : Option Numeral :=
  let scaled := value.scale 10 (-exponent)
  let low := scaled.floor
  let high := low + 1
  let lowFits := interval.contains ((Fraction.mk low 1).scale 10 exponent)
  let highFits := interval.contains ((Fraction.mk high 1).scale 10 exponent)
  let lowNearer := 2 * (scaled.numerator % scaled.denominator) < scaled.denominator
  if lowFits && (lowNearer || !highFits) then some ⟨low, exponent⟩
  else if highFits then some ⟨high, exponent⟩
  else none

/-- The first decimal found on the grids with `count`, `count + 1`, … digits, at most `fuel`
of them. -/
def firstOnGrid (interval : RoundingInterval) (value : Fraction) (size : Int) :
    Nat → Nat → Numeral
  | 0, count => ⟨(value.scale 10 (count - size)).floor, size - count⟩
  | fuel + 1, count =>
    match onGrid? interval value (size - count) with
    | some numeral => numeral
    | none => firstOnGrid interval value size fuel (count + 1)

/-- The shortest decimal that rounds to a positive value.  Seventeen digits always suffice. -/
def shortest (significand : Nat) (exponent : Int) : Numeral :=
  let value := (Fraction.mk significand 1).scale 2 exponent
  firstOnGrid (.ofFinite significand exponent) value (integerDigits value) 17 1

/-- Digits without the zeros at their end, each of which raises the exponent. -/
def dropZeros (exponent : Int) : List Char → List Char × Int
  | [] => ([], exponent)
  | '0' :: reversed => dropZeros (exponent + 1) reversed
  | reversed => (reversed.reverse, exponent)

/-- A numeral in positional notation with at least one digit on both sides of the point. -/
def Numeral.positional (numeral : Numeral) : String :=
  let (digits, exponent) := dropZeros numeral.exponent (Nat.toDigits 10 numeral.digits).reverse
  if 0 ≤ exponent then
    String.ofList (digits ++ List.replicate exponent.toNat '0') ++ ".0"
  else
    let places := (-exponent).toNat
    let padded := List.replicate (places + 1 - digits.length) '0' ++ digits
    String.ofList (padded.take (padded.length - places)) ++ "."
      ++ String.ofList (padded.drop (padded.length - places))

/-- A value as it is written: the shortest decimal, or the name of a value that is none. -/
def Binary64.display : Binary64 → String
  | nan => "NaN"
  | infinite negative => if negative then "-inf" else "inf"
  | finite negative significand exponent =>
    (if negative then "-" else "")
      ++ if significand = 0 then "0.0" else (shortest significand exponent).positional

end QueryByName.Decimal
