/-
# How a decimal is laid out

A decimal is written positionally while its leading digit stands between two powers of ten,
and with an exponent outside them.  The decisions are one record; `floatText` writes a double
by its shortest decimal in the layout of the library.
-/
import Diorama.Decimal.Shortest

namespace Diorama.Decimal

/-- The decisions of a written number. -/
structure Layout where
  /-- The least exponent of the leading digit that is written positionally. -/
  leastPositional : Int
  /-- The least exponent above the positional ones. -/
  firstScientific : Int
  /-- What follows a whole number written positionally. -/
  wholeSuffix : String
  /-- The fewest digits of an exponent. -/
  exponentWidth : Nat
  infinite : String
  undefined : String

/-- Numbers are positional from `0.0001` up to sixteen digits, whole ones end in `.0`, and an
exponent has a sign and at least two digits. -/
def standard : Layout := ⟨-4, 16, ".0", 2, "inf", "nan"⟩

/-- Removes the zeros at the end of the digits. -/
def stripZeros (ds : List Char) : List Char := (ds.reverse.dropWhile (· == '0')).reverse

/-- A positive decimal in a layout.  `ds` are its digits without zeros at the end, `top` the
exponent of the first of them. -/
def Layout.writeDigits (l : Layout) (ds : List Char) (top : Int) : String :=
  if l.leastPositional ≤ top && top < l.firstScientific then
    if top < 0 then
      "0." ++ String.ofList (List.replicate ((-top).toNat - 1) '0' ++ ds)
    else
      let whole := top.toNat + 1
      if ds.length ≤ whole then
        String.ofList (ds ++ List.replicate (whole - ds.length) '0') ++ l.wholeSuffix
      else String.ofList (ds.take whole) ++ "." ++ String.ofList (ds.drop whole)
  else
    let mantissa := match ds with
      | d :: e :: rest => String.ofList (d :: '.' :: e :: rest)
      | _ => String.ofList ds
    let es := Nat.toDigits 10 top.natAbs
    let padded := List.replicate (l.exponentWidth - es.length) '0' ++ es
    mantissa ++ "e" ++ (if top < 0 then "-" else "+") ++ String.ofList padded

/-- A positive decimal in a layout. -/
def Layout.write (l : Layout) (d : Digits) : String :=
  let ds := Nat.toDigits 10 d.digits
  l.writeDigits (stripZeros ds) (d.exponent + (ds.length : Int) - 1)

/-- A double in a layout. -/
def Layout.writeBinary (l : Layout) : Binary → String
  | .undefined => l.undefined
  | .infinite negative => (if negative then "-" else "") ++ l.infinite
  | .finite negative m q edge =>
    (if negative then "-" else "") ++
      if m == 0 then l.writeDigits ['0'] 0 else l.write (shortest m q edge)

/-- The shortest text that reads back as the double. -/
def floatText (x : Float) : String := standard.writeBinary (.ofFloat x)

/-- The double rounded to a whole number, a half to the even one, without a point. -/
def floatWholeText (x : Float) : String :=
  match Binary.ofFloat x with
  | .undefined => standard.undefined
  | .infinite negative => (if negative then "-" else "") ++ standard.infinite
  | .finite negative m q _ =>
    let (num, den) := Binary.quotient negative m q
    (if negative then "-" else "") ++ toString (roundDiv num den).natAbs

end Diorama.Decimal
