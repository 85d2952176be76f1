/-
# The numbers a scene is computed with

Positions, sizes, times and opacities are scalars.  A program runs on doubles, and most of
what is worth saying about it is said of exact fractions, so everything above this module is
written over an arbitrary `Scalar`: the arithmetic, comparisons that may fail for a value
that is not a number, the three ways to a whole number, and the texts of a number.

`Scalar Float` is what programs run on.  `Scalar.exact` makes the rationals a scalar for any
sine, in which every comparison and every rounding is the mathematical one.
-/
import Diorama.Decimal.Layout
import Diorama.Decimal.Numeral

namespace Diorama

open Decimal

/-- The arithmetic of a scene. -/
class Scalar (α : Type) extends Add α, Sub α, Mul α, Div α, Neg α, OfScientific α where
  /-- The nearest scalar; infinite when the integer is too large for one. -/
  ofInt : Int → α
  /-- The nearest scalar to a spelled number, if the kind of scalar has one. -/
  ofNumeral? : Numeral → Option α
  /-- Strictly less; false if either side is not a number. -/
  lt : α → α → Bool
  /-- Less or equal; false if either side is not a number. -/
  le : α → α → Bool
  /-- Equal as numbers. -/
  eq : α → α → Bool
  /-- The whole part, for a finite scalar. -/
  trunc? : α → Option Int
  /-- The nearest integer and of two the even one, for a finite scalar. -/
  round? : α → Option Int
  square : α → α
  sin : α → α
  /-- From radians to degrees. -/
  degrees : α → α
  /-- The shortest text that reads back. -/
  text : α → String
  /-- The text of the nearest integer. -/
  wholeText : α → String

namespace Scalar

variable {α : Type} [Scalar α]

/-- Whether the scalar is neither infinite nor undefined. -/
def isFinite (x : α) : Bool := (trunc? x).isSome

/-- Whether the scalar is not a number: the one that differs from itself. -/
def isUndefined (x : α) : Bool := !eq x x

def isZero (x : α) : Bool := eq x 0.0

/-- The scalar of an integer, if it is in range. -/
def ofInt? (n : Int) : Option α :=
  let x : α := ofInt n
  if isFinite x then some x else none

/-- The first unless the second is smaller. -/
def min (a b : α) : α := if lt b a then b else a

/-- The first unless the second is larger. -/
def max (a b : α) : α := if lt a b then b else a

/-- The absolute value: the sign is dropped, also that of zero. -/
def abs (x : α) : α := if le x 0.0 then 0.0 - x else x

end Scalar

namespace Decimal

/-- The double nearest to `± digits · 10^exponent`.  An exponent far outside the range of
doubles decides the result without computing the power. -/
def nearestFloat (negative : Bool) (digits : Nat) (exponent : Int) : Float :=
  let top := exponent + digitCount digits
  let x : Float :=
    if digits == 0 || top < -400 then 0.0
    else if 400 < top then 1.0 / 0.0
    else Float.ofScientific digits (exponent < 0) exponent.natAbs
  if negative then -x else x

/-- The double nearest to a spelled number. -/
def Numeral.toFloat : Numeral → Float
  | .decimal negative digits exponent => nearestFloat negative digits exponent
  | .infinite negative => if negative then -1.0 / 0.0 else 1.0 / 0.0
  | .undefined => 0.0 / 0.0

/-- The double nearest to an integer. -/
def floatOfInt (n : Int) : Float := nearestFloat (n < 0) n.natAbs 0

/-- Applies an exact division to a finite double. -/
def wholeOfFloat? (divide : Int → Nat → Int) (x : Float) : Option Int :=
  match Binary.ofFloat x with
  | .finite negative m q _ =>
    let (num, den) := Binary.quotient negative m q
    some (divide num den)
  | _ => none

end Decimal

/-- Doubles.  One radian is the constant number of degrees nearest to `180/π`. -/
instance : Scalar Float where
  ofInt := floatOfInt
  ofNumeral? n := some n.toFloat
  lt a b := a < b
  le a b := a ≤ b
  eq a b := a == b
  trunc? := wholeOfFloat? truncDiv
  round? := wholeOfFloat? roundDiv
  square x := Float.pow x 2.0
  sin := Float.sin
  degrees x := x * 57.29577951308232
  text := floatText
  wholeText := floatWholeText

/-- Exact fractions with a given sine and a given number of degrees in a radian. -/
@[reducible] def Scalar.exact (sine : Rat → Rat) (radian : Rat) : Scalar Rat where
  ofInt n := n
  ofNumeral?
    | .decimal negative digits exponent =>
      let x : Rat := digits * (10 : Rat) ^ exponent
      some (if negative then -x else x)
    | _ => none
  lt a b := decide (a < b)
  le a b := decide (a ≤ b)
  eq a b := decide (a = b)
  trunc? x := some (truncDiv x.num x.den)
  round? x := some (roundDiv x.num x.den)
  square x := x * x
  sin := sine
  degrees x := x * radian
  text x := if x.den = 1 then toString x.num else toString x.num ++ "/" ++ toString x.den
  wholeText x := toString (roundDiv x.num x.den)

end Diorama
