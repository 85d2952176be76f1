/-
# Doubles and the shortest decimal that reads back

A finite double is `± m · 2^q` for a natural `m` and an integer `q`.  Everything exact that
is said about a double (its whole part, its nearest integer, its shortest decimal) is said
about `m` and `q`.

Every real number close enough to a double is rounded to it.  Of the decimals in that
interval, `shortest` finds one with the fewest digits, and of those the nearest to the
double.  The search asks, for one digit, two digits and so on, whether one of the two
neighbours of the value on that decimal grid lies in the interval.  All of it is exact
arithmetic on natural numbers, and seventeen digits always suffice.
-/

namespace Diorama.Decimal

/-! ## 1. Doubles as binary fractions -/

/-- What the 64 bits of a double say. -/
inductive Binary where
  /-- `± m · 2^q`; `edge` holds when the gap to the next smaller double is half the gap to
  the next larger one. -/
  | finite (negative : Bool) (m : Nat) (q : Int) (edge : Bool)
  | infinite (negative : Bool)
  | undefined
  deriving Repr, DecidableEq

/-- Reads sign, exponent and fraction from the bits. -/
def Binary.ofBits (bits : UInt64) : Binary :=
  let n := bits.toNat
  let negative := n / Nat.pow 2 63 == 1
  let e : Nat := n / Nat.pow 2 52 % 2048
  let f := n % Nat.pow 2 52
  if e == 2047 then if f == 0 then .infinite negative else .undefined
  else if e == 0 then .finite negative f (-1074) false
  else .finite negative (Nat.pow 2 52 + f) (Int.ofNat e - 1075) (f == 0 && 1 < e)

/-- Reads a double. -/
def Binary.ofFloat (x : Float) : Binary := Binary.ofBits x.toBits

/-- `num / den` to the nearest integer, a half to the even one. -/
def roundDiv (num : Int) (den : Nat) : Int :=
  let q := num.fdiv den
  let r := (num.fmod den).toNat
  if 2 * r < den then q
  else if den < 2 * r then q + 1
  else if q % 2 == 0 then q else q + 1

/-- `num / den` without its fraction. -/
def truncDiv (num : Int) (den : Nat) : Int := num.tdiv den

/-- `± m · 2^q` as a quotient of integers with a positive denominator. -/
def Binary.quotient (negative : Bool) (m : Nat) (q : Int) : Int × Nat :=
  let sign : Int := if negative then -1 else 1
  if 0 ≤ q then (sign * (m * Nat.pow 2 q.toNat : Nat), 1) else (sign * m, Nat.pow 2 (-q).toNat)

/-! ## 2. Shortest decimals -/

/-- A positive decimal `digits · 10^exponent`. -/
structure Digits where
  digits : Nat
  exponent : Int
  deriving Repr, DecidableEq

/-- The number of decimal digits of `n`. -/
def digitCount (n : Nat) : Nat := (Nat.toDigits 10 n).length

/-- The exponent of the leading digit of `num / den`, for positive `num` and `den`. -/
def leadingExponent (num den : Nat) : Int :=
  if den ≤ num then (digitCount (num / den) : Int) - 1
  else -(digitCount ((den + num - 1) / num - 1) : Int)

/-- A positive value with the interval of reals that round to it, all over one denominator;
`closed` says whether the ends belong to the interval. -/
structure Window where
  low : Nat
  value : Nat
  high : Nat
  den : Nat
  closed : Bool

/-- The window of `m · 2^q`.  The ends are the midpoints to the neighbours; they round to the
even mantissa. -/
def Window.ofBinary (m : Nat) (q : Int) (edge : Bool) : Window :=
  let up := if 2 ≤ q then Nat.pow 2 (q - 2).toNat else 1
  let den := if 2 ≤ q then 1 else Nat.pow 2 (2 - q).toNat
  { low := (4 * m - if edge then 1 else 2) * up
    value := 4 * m * up
    high := (4 * m + 2) * up
    den
    closed := m % 2 == 0 }

/-- The decimal `d · 10^k`, compared inside the window. -/
def Window.holds (w : Window) (d : Nat) (k : Int) : Bool :=
  let point := if 0 ≤ k then d * Nat.pow 10 k.toNat * w.den else d * w.den
  let scale := if 0 ≤ k then 1 else Nat.pow 10 (-k).toNat
  if w.closed then w.low * scale ≤ point && point ≤ w.high * scale
  else w.low * scale < point && point < w.high * scale

/-- The value on the grid of multiples of `10^k`: the neighbour below, and the remainder over
the grid step (a pair to compare with half a step). -/
def Window.neighbour (w : Window) (k : Int) : Nat × Nat × Nat :=
  let num := if 0 ≤ k then w.value else w.value * Nat.pow 10 (-k).toNat
  let step := if 0 ≤ k then w.den * Nat.pow 10 k.toNat else w.den
  (num / step, num % step, step)

/-- The better of the two neighbours on the grid `10^k` that lie in the window; a tie goes to
the even one. -/
def Window.onGrid (w : Window) (k : Int) : Option Nat :=
  let (d, r, step) := w.neighbour k
  let below := d != 0 && w.holds d k
  let above := w.holds (d + 1) k
  if below && above then
    if 2 * r < step then some d
    else if step < 2 * r then some (d + 1)
    else if d % 2 == 0 then some d else some (d + 1)
  else if below then some d
  else if above then some (d + 1)
  else none

/-- Tries `n`, `n + 1`, … digits while `fuel` lasts, then takes the neighbour below. -/
def Window.search (w : Window) (top : Int) : Nat → Nat → Digits
  | 0, n => ⟨(w.neighbour (top - n + 1)).1, top - n + 1⟩
  | fuel + 1, n =>
    match w.onGrid (top - n + 1) with
    | some d => ⟨d, top - n + 1⟩
    | none => w.search top fuel (n + 1)

/-- The shortest decimal that reads back as `m · 2^q`, for positive `m`. -/
def shortest (m : Nat) (q : Int) (edge : Bool) : Digits :=
  let w := Window.ofBinary m q edge
  w.search (leadingExponent w.value w.den) 17 1

end Diorama.Decimal
