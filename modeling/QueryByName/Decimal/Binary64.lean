/-!
# Binary floating point numbers of 64 bits

The values of the format, kept as exact numbers, and the value nearest to a decimal number.
A finite value is a significand below two to the power of 53 times a power of two whose
exponent is at least -1074.
-/

namespace QueryByName.Decimal

/-- A value of the format; the sign of a finite value is kept apart, so zero has two. -/
inductive Binary64 where
  | nan
  | infinite (negative : Bool)
  | finite (negative : Bool) (significand : Nat) (exponent : Int)
deriving DecidableEq, Repr

structure Fraction where
  numerator : Nat
  denominator : Nat

namespace Fraction

/-- The fraction times a power of a base, which may be negative. -/
def scale (fraction : Fraction) (base : Nat) (exponent : Int) : Fraction :=
  if 0 ≤ exponent then
    ⟨fraction.numerator * base.pow exponent.toNat, fraction.denominator⟩
  else
    ⟨fraction.numerator, fraction.denominator * base.pow (-exponent).toNat⟩

def floor (fraction : Fraction) : Nat :=
  fraction.numerator / fraction.denominator

def atMost (left right : Fraction) : Bool :=
  left.numerator * right.denominator ≤ right.numerator * left.denominator

/-- The natural number nearest to the fraction; a half goes to the even neighbour. -/
def nearestEven (fraction : Fraction) : Nat :=
  let whole := fraction.floor
  let twice := 2 * (fraction.numerator % fraction.denominator)
  if twice < fraction.denominator then whole
  else if fraction.denominator < twice then whole + 1
  else if whole % 2 = 0 then whole
  else whole + 1

end Fraction

namespace Binary64

def fullSignificand : Nat :=
  Nat.pow 2 52

def leastExponent : Int :=
  -1074

def greatestExponent : Int :=
  971

/-- The exponent at which a positive fraction has a significand of 53 bits, or the least
exponent if that is larger. -/
def exponentFor (fraction : Fraction) : Int :=
  let guess : Int := fraction.numerator.log2 - fraction.denominator.log2 - 52
  let exact :=
    if (fraction.scale 2 (-guess)).floor < fullSignificand then guess - 1 else guess
  max exact leastExponent

/-- The finite value nearest to a positive fraction, or infinity beyond the last one. -/
def ofFraction (negative : Bool) (fraction : Fraction) : Binary64 :=
  let exponent := exponentFor fraction
  let significand := (fraction.scale 2 (-exponent)).nearestEven
  let rounded : Nat × Int :=
    if significand = 2 * fullSignificand then (fullSignificand, exponent + 1) else (significand, exponent)
  if greatestExponent < rounded.2 then infinite negative else finite negative rounded.1 rounded.2

/-- The value nearest to `digits` times a power of ten.  Numbers far outside the range of the
format are decided by their size alone. -/
def ofDecimal (negative : Bool) (digits : Nat) (exponent : Int) : Binary64 :=
  let size : Int := (Nat.toDigits 10 digits).length + exponent
  if digits = 0 ∨ size < -400 then finite negative 0 leastExponent
  else if 400 < size then infinite negative
  else ofFraction negative ((Fraction.mk digits 1).scale 10 exponent)

end Binary64

end QueryByName.Decimal
