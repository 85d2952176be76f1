/-
# Numbers as they are spelled

A numeral is what a text says before it is rounded to any kind of number.  `Numeral.ofText?`
takes the liberal spelling that a scene document may use in a text: blanks around it, a sign,
decimal digits of any script, single underscores between digits, a point, an exponent, and the
words for infinity and for no number at all.
-/
import Diorama.Text.Classes

namespace Diorama.Decimal

/-- A spelled number: `± digits · 10^exponent`, an infinity, or no number. -/
inductive Numeral where
  | decimal (negative : Bool) (digits : Nat) (exponent : Int)
  | infinite (negative : Bool)
  | undefined
  deriving Repr, DecidableEq

namespace Numeral

/-- Blanks that may stand around a number: all but the four separator controls. -/
def isMargin (c : Char) : Bool := Text.isBlank c && !(28 ≤ c.toNat && c.toNat ≤ 31)

/-- The characters without the blanks at either end. -/
def strip (cs : List Char) : List Char :=
  ((cs.dropWhile isMargin).reverse.dropWhile isMargin).reverse

/-- A decimal digit of any script becomes one of `0` to `9`; all else stays. -/
def plainDigit (c : Char) : Char :=
  match Text.digit? c with
  | some d => Char.ofNat (48 + d)
  | none => c

/-- Removes the underscores if each of them stands between two digits. -/
def joinGroups? : Bool → List Char → Option (List Char)
  | _, [] => some []
  | afterDigit, '_' :: c :: rest =>
    if afterDigit && c.isDigit then (joinGroups? true rest).map (c :: ·) else none
  | _, ['_'] => none
  | _, c :: rest => (joinGroups? c.isDigit rest).map (c :: ·)

/-- Takes the leading digits: their values and what follows. -/
def takeDigits (cs : List Char) : List Nat × List Char :=
  ((cs.takeWhile Char.isDigit).map (fun c => c.toNat - 48), cs.dropWhile Char.isDigit)

/-- Takes an optional sign. -/
def takeSign : List Char → Bool × List Char
  | '-' :: rest => (true, rest)
  | '+' :: rest => (false, rest)
  | cs => (false, cs)

/-- A signed run of digits and nothing after it. -/
def wholeExponent? (cs : List Char) : Option Int :=
  let (negative, rest) := takeSign cs
  match takeDigits rest with
  | ([], _) => none
  | (ds, []) => let n : Int := Text.ofDigits 10 ds; some (if negative then -n else n)
  | _ => none

/-- Digits with an optional point and an optional exponent, and nothing after them. -/
def unsigned? (negative : Bool) (cs : List Char) : Option Numeral :=
  let (whole, rest) := takeDigits cs
  let (fraction, rest) := match rest with
    | '.' :: rest => takeDigits rest
    | _ => ([], rest)
  if whole.isEmpty && fraction.isEmpty then none
  else
    let digits := Text.ofDigits 10 (whole ++ fraction)
    match rest with
    | [] => some (.decimal negative digits (-(fraction.length : Int)))
    | e :: rest =>
      if e == 'e' || e == 'E' then
        (wholeExponent? rest).map fun x => .decimal negative digits (x - fraction.length)
      else none

/-- The words for a number that has no digits. -/
def word? (negative : Bool) (cs : List Char) : Option Numeral :=
  let w := String.ofList (cs.map Char.toLower)
  if w == "inf" || w == "infinity" then some (.infinite negative)
  else if w == "nan" then some .undefined
  else none

/-- The number that a text spells. -/
def ofText? (s : String) : Option Numeral := do
  let cs ← joinGroups? false ((strip s.toList).map plainDigit)
  let (negative, rest) := takeSign cs
  (unsigned? negative rest).orElse fun _ => word? negative rest

/-- The most digits of a whole number that is read from a text. -/
def maxDigits : Nat := 4300

/-- The whole number that a text spells: a sign and digits, of which there may not be too many. -/
def wholeOfText? (s : String) : Option Int := do
  let cs ← joinGroups? false ((strip s.toList).map plainDigit)
  if maxDigits < (cs.filter Char.isDigit).length then none else wholeExponent? cs

end Numeral

end Diorama.Decimal
