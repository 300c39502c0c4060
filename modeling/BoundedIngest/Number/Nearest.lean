/-
Module: BoundedIngest.Number.Nearest
Purpose: Arithmetic whose every result has a significand of 53 bits.
Main exports:
  roundQuotientEven, quantum, nearest, nearestOfNat, floorWord, roundWord
-/

namespace BoundedIngest.Number

/-!
The running average of entry sizes is kept in binary floating point with 53
significant bits.  A value is represented by the rational number it denotes, and
each operation is the exact rational operation followed by `nearest`.

Every quantity of the size model lies far inside the range of exponents of the
64-bit format, so `nearest` needs neither a largest nor a smallest exponent.
-/

/-- Number of bits of a significand. -/
def significandBits : Nat := 53

/-- The largest 64-bit word. -/
def maxWord : Nat := UInt64.size - 1

/-- `num / den` rounded to the nearest integer; a quotient that lies exactly
half-way goes to the even neighbour. -/
def roundQuotientEven (num den : Nat) : Nat :=
  let quotient := num / den
  let rest := num % den
  if 2 * rest < den then quotient
  else if den < 2 * rest then quotient + 1
  else quotient + quotient % 2

/-- The fraction `num / den` divided by `2 ^ exponent`, again as a fraction. -/
def scaleDown (num den : Nat) (exponent : Int) : Nat × Nat :=
  (num <<< (-exponent).toNat, den <<< exponent.toNat)

/-- Exponent of the last significant bit of `num / den`: the one for which the
scaled value has exactly 53 bits before the point.

The bit lengths of both parts determine it up to one, and one comparison settles
which of the two candidates it is. -/
def quantum (num den : Nat) : Int :=
  let guess : Int := num.log2 - den.log2 - (significandBits - 1 : Nat)
  let (scaledNum, scaledDen) := scaleDown num den guess
  if scaledDen <<< (significandBits - 1) ≤ scaledNum then guess else guess - 1

/-- `num / den` rounded to 53 significant bits. -/
def nearestFraction (num den : Nat) : Rat :=
  if num = 0 then 0
  else
    let exponent := quantum num den
    let (scaledNum, scaledDen) := scaleDown num den exponent
    let significand := roundQuotientEven scaledNum scaledDen
    (significand <<< exponent.toNat : Nat) / (1 <<< (-exponent).toNat : Nat)

/-- The number with a 53-bit significand closest to `x`; ties go to the even
significand, and the sign does not matter. -/
def nearest (x : Rat) : Rat :=
  if x.num < 0 then -nearestFraction x.num.natAbs x.den
  else nearestFraction x.num.natAbs x.den

/-- A natural number as a number with 53 significant bits. -/
def nearestOfNat (n : Nat) : Rat := nearestFraction n 1

/-- The integer part of `x` as a 64-bit word; a value outside the range of words
becomes the closest word. -/
def floorWord (x : Rat) : Nat := min x.floor.toNat maxWord

/-- `x` rounded to the nearest word; a half goes away from zero. -/
def roundWord (x : Rat) : Nat := floorWord (x + 1 / 2)

end BoundedIngest.Number
