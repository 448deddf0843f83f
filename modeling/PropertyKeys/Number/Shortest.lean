import PropertyKeys.Number.Binary64
import PropertyKeys.Text.Basic

/-!
# Shortest decimal text

A number of the binary format is written with the fewest significant digits that are read back as
the same number. Among numbers with that many digits the nearest one is taken.

## Main definitions

* `Shortest.digits`: the digits and the decimal exponent.
* `Binary64.render`: the text of a number.
-/

namespace PropertyKeys

namespace Shortest

/-- A decimal number `digits · 10 ^ (exponent + 1 - count)` of so many digits, which is
`d.ddd · 10 ^ exponent`. -/
structure Decimal where
  digits : Nat
  exponent : Int
  deriving DecidableEq, Repr

/-- The number of decimal digits. -/
def digitCount (n : Nat) : Nat :=
  (Nat.toDigits 10 n).length

/-- The exponent `e` with `10 ^ e ≤ num / den < 10 ^ (e + 1)`, for a ratio that is not zero. -/
def decimalExponent (num den : Nat) : Int :=
  if den ≤ num then (digitCount (num / den) : Int) - 1 else -(digitCount ((den - 1) / num) : Int)

/-- The ratio `num / den` divided by a power of ten, as a numerator and a denominator. -/
def scaleTen (num den : Nat) (exponent : Int) : Nat × Nat :=
  let power := Nat.pow 10 exponent.natAbs
  if exponent < 0 then (num * power, den) else (num, den * power)

/-- The interval of the ratios that are read as a given number, in units of a quarter of its last
place: the number is `4 · significand`, and the ends belong to the interval if it is even. Below a
power of two the neighbour is only half as far. -/
structure Interval where
  low : Nat
  high : Nat
  closed : Bool
  deriving DecidableEq, Repr

/-- The interval of the ratios that are read as `x`. -/
def interval (x : Binary64) : Interval :=
  let middle := 4 * x.significand
  let narrow := x.significand == Nat.pow 2 52 && x.exponent != Binary64.minExponent
  { low := middle - (if narrow then 1 else 2), high := middle + 2,
    closed := x.significand % 2 == 0 }

/-- Whether a grid of decimal numbers has its point `point` inside the interval, where the grid is
such that the number lies at `num / den`. -/
def Interval.holds (i : Interval) (significand num den point : Nat) : Bool :=
  -- `num / den` is `4 * significand` quarters, so a quarter is `num / (4 * significand * den)`
  let place := point * den * (4 * significand)
  if i.closed then i.low * num ≤ place && place ≤ i.high * num
  else i.low * num < place && place < i.high * num

/-- The decimal number of `count` digits that is read as `x` and nearest to it, if there is one. -/
def withDigits? (x : Binary64) (count : Nat) : Option Decimal :=
  let (num, den) := x.ratio
  let exponent := decimalExponent num den
  let (n, d) := scaleTen num den (exponent + 1 - count)
  let below := n / d
  let i := interval x
  let hitBelow := i.holds x.significand n d below
  let hitAbove := i.holds x.significand n d (below + 1)
  let point? :=
    if hitBelow && hitAbove then some (Binary64.roundRatio n d)
    else if hitBelow then some below
    else if hitAbove then some (below + 1)
    else none
  point?.map fun point =>
    if point = Nat.pow 10 count then ⟨Nat.pow 10 (count - 1), exponent + 1⟩ else ⟨point, exponent⟩

/-- The shortest decimal number that is read as `x`. Seventeen digits always suffice. -/
def digits (x : Binary64) : Decimal :=
  ((List.range 17).findSome? fun count => withDigits? x (count + 1)).getD ⟨0, 0⟩

/-- The text of a decimal number: with a point if its exponent is from -5 to 15, where at least one
digit follows the point, and else with an exponent that has a sign. -/
def Decimal.render (decimal : Decimal) : Text :=
  let text := Text.ofNat decimal.digits
  let e := decimal.exponent
  if 0 ≤ e && e ≤ 15 then
    let whole := e.natAbs + 1
    if text.length ≤ whole then text ++ List.replicate (whole - text.length) '0' ++ ['.', '0']
    else text.take whole ++ '.' :: text.drop whole
  else if -5 ≤ e && e < 0 then
    ['0', '.'] ++ List.replicate (e.natAbs - 1) '0' ++ text
  else
    let mantissa := if text.length = 1 then text else text.take 1 ++ '.' :: text.drop 1
    mantissa ++ ['e', if e < 0 then '-' else '+'] ++ Text.ofNat e.natAbs

end Shortest

/-- The text of a number. Zero has a point and a digit after it, and keeps its sign. -/
def Binary64.render (x : Binary64) : Text :=
  (if x.negative then ['-'] else []) ++
    if x.isZero then ['0', '.', '0'] else (Shortest.digits x).render

end PropertyKeys
