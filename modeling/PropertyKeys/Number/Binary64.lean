/-!
# Binary floating-point numbers

A finite number of the 64-bit binary format is kept as the integers that it is made of, so that
every operation is exact arithmetic followed by one rounding. Rounding goes to the nearest number of
the format, and of two that are equally near to the one with the even significand.

## Main definitions

* `Binary64`: a sign, a significand and an exponent.
* `Binary64.ofRatio?`: the number nearest to a ratio.
* `Binary64.ofDecimal?`: the number read from decimal digits and an exponent.

## Design notes

A decimal number is read in the quick way, by rounding the digits to a number of the format and then
multiplying or dividing by a rounded power of ten. The result is the nearest number for up to
fifteen digits and powers up to the twenty-second, and may be off by a few units in the last place
beyond.
-/

namespace PropertyKeys

/-- The finite number `± significand · 2 ^ exponent`. -/
structure Binary64 where
  negative : Bool := false
  significand : Nat
  exponent : Int
  deriving DecidableEq, Repr

namespace Binary64

/-- The least exponent, which all numbers near zero share. -/
def minExponent : Int := -1074

/-- The greatest exponent. -/
def maxExponent : Int := 971

/-- The number of significands. -/
def significandBound : Nat := Nat.pow 2 53

/-- Zero. -/
def zero : Binary64 := ⟨false, 0, minExponent⟩

/-- The number with the other sign. -/
def neg (x : Binary64) : Binary64 :=
  { x with negative := !x.negative }

/-- Whether a number is zero, of either sign. -/
def isZero (x : Binary64) : Bool :=
  x.significand == 0

/-- The ratio `num / den` divided by a power of two, as a numerator and a denominator. -/
def scaleRatio (num den : Nat) (exponent : Int) : Nat × Nat :=
  let power := Nat.pow 2 exponent.natAbs
  if exponent < 0 then (num * power, den) else (num, den * power)

/-- The integer nearest to `num / den`, the even one of two that are equally near. -/
def roundRatio (num den : Nat) : Nat :=
  let quotient := num / den
  let twice := 2 * (num % den)
  if twice < den then quotient
  else if twice > den then quotient + 1
  else if quotient % 2 = 0 then quotient
  else quotient + 1

/-- The exponent at which the ratio has a significand of 53 bits, but not less than the least
exponent. The difference of the lengths of the two numbers is off by one at most. -/
def exponentOf (num den : Nat) : Int :=
  let guess := max minExponent ((num.log2 : Int) - den.log2 - 53)
  let (n, d) := scaleRatio num den guess
  if n / d < significandBound then guess else guess + 1

/-- The number nearest to the ratio `num / den`, or nothing if it is beyond the greatest number. -/
def ofRatio? (num den : Nat) : Option Binary64 :=
  if num = 0 then some zero
  else
    let exponent := exponentOf num den
    let (n, d) := scaleRatio num den exponent
    let rounded := roundRatio n d
    let result : Binary64 :=
      if rounded = significandBound then ⟨false, Nat.pow 2 52, exponent + 1⟩
      else ⟨false, rounded, exponent⟩
    if result.exponent > maxExponent then none else some result

/-- The size of a number as a numerator and a denominator. -/
def ratio (x : Binary64) : Nat × Nat :=
  if x.exponent < 0 then (x.significand, Nat.pow 2 x.exponent.natAbs)
  else (x.significand * Nat.pow 2 x.exponent.natAbs, 1)

/-- The product of the sizes of two numbers, rounded. -/
def mul? (x y : Binary64) : Option Binary64 :=
  ofRatio? (x.ratio.1 * y.ratio.1) (x.ratio.2 * y.ratio.2)

/-- The quotient of the sizes of two numbers, rounded. -/
def div? (x y : Binary64) : Option Binary64 :=
  ofRatio? (x.ratio.1 * y.ratio.2) (x.ratio.2 * y.ratio.1)

/-- The greatest power of ten in the format. -/
def maxPower : Nat := 308

/-- The number nearest to a power of ten. -/
def power? (n : Nat) : Option Binary64 :=
  ofRatio? (Nat.pow 10 n) 1

/-- The number read from `digits · 10 ^ exponent`, or nothing if it is beyond the greatest number.
Powers of ten that the format does not hold are split off, and what is too small becomes zero. -/
def ofDecimal? (digits : Nat) (exponent : Int) : Option Binary64 :=
  let n := exponent.natAbs
  (ofRatio? digits 1).bind fun x =>
    if 0 ≤ exponent then
      if n ≤ maxPower then (power? n).bind x.mul?
      else if x.isZero then some x
      else none
    else if n ≤ maxPower then (power? n).bind x.div?
    else if n ≤ 2 * maxPower then
      (power? maxPower).bind fun power =>
        (x.div? power).bind fun x => (power? (n - maxPower)).bind x.div?
    else some zero

end Binary64

end PropertyKeys
