/-
# Classes of characters

What a text is split and spelled with: tables of code points, the blanks between words, and the
decimal digits of Unicode 14.0, which come in blocks of ten from zero to nine.

A blank is a character that separates words: the controls from tab to carriage return and from
file separator to unit separator, the space, the next-line control, and the Unicode space
separators with the line and paragraph separators.
-/

namespace Diorama.Text

/-! ## 1. Tables of intervals

A class of code points is an increasing table of closed intervals, and membership is decided by
bisection. -/

/-- Looks for an interval that holds `n` among those with index in `[lo, hi)`; `fuel` bounds
the number of halvings. -/
def bisect (table : Array (Nat × Nat)) (n : Nat) : Nat → Nat → Nat → Bool
  | 0, _, _ => false
  | fuel + 1, lo, hi =>
    if lo < hi then
      let mid := (lo + hi) / 2
      match table[mid]? with
      | none => false
      | some (a, b) =>
        if n < a then bisect table n fuel lo mid
        else if b < n then bisect table n fuel (mid + 1) hi
        else true
    else false

/-- Whether `n` lies in one of the intervals.  A table of `k` intervals is halved fewer than
`k + 1` times, so the fuel always suffices. -/
def inRanges (table : Array (Nat × Nat)) (n : Nat) : Bool :=
  bisect table n (table.size + 1) 0 table.size

/-! ## 2. Blanks and words -/

/-- Whether the character separates words. -/
def isBlank (c : Char) : Bool :=
  let n := c.toNat
  (9 ≤ n && n ≤ 13) || (28 ≤ n && n ≤ 32) || n == 0x85 || n == 0xa0 || n == 0x1680 ||
    (0x2000 ≤ n && n ≤ 0x200a) || n == 0x2028 || n == 0x2029 || n == 0x202f || n == 0x205f ||
    n == 0x3000

/-- The characters without the blanks at either end. -/
def trimList (cs : List Char) : List Char :=
  ((cs.dropWhile isBlank).reverse.dropWhile isBlank).reverse

/-- Splits into maximal runs without blanks; `word` holds the run being read, in reverse. -/
def wordsFrom (word : List Char) : List Char → List (List Char)
  | [] => if word.isEmpty then [] else [word.reverse]
  | c :: rest =>
    if isBlank c then
      if word.isEmpty then wordsFrom [] rest else word.reverse :: wordsFrom [] rest
    else wordsFrom (c :: word) rest

/-- The words of the text, in order. -/
def words (s : String) : List String := (wordsFrom [] s.toList).map String.ofList

/-! ## 3. Digits -/

/-- The zero of each block of ten decimal digits. -/
def zeros : List Nat := [
  48, 1632, 1776, 1984, 2406, 2534, 2662, 2790, 2918, 3046, 3174, 3302, 3430, 3558, 3664, 3792,
  3872, 4160, 4240, 6112, 6160, 6470, 6608, 6784, 6800, 6992, 7088, 7232, 7248, 42528, 43216,
  43264, 43472, 43504, 43600, 44016, 65296, 66720, 68912, 69734, 69872, 69942, 70096, 70384,
  70736, 70864, 71248, 71360, 71472, 71904, 72016, 72784, 73040, 73120, 92768, 92864, 93008,
  120782, 120792, 120802, 120812, 120822, 123200, 123632, 125264, 130032]

/-- The value of a decimal digit of any script. -/
def digit? (c : Char) : Option Nat :=
  if c.toNat < 48 then none
  else if c.toNat < 58 then some (c.toNat - 48)
  else (zeros.find? fun z => z ≤ c.toNat && c.toNat < z + 10).map (c.toNat - ·)

/-- The value of a digit from `0` to `9`. -/
def asciiDigit? (c : Char) : Option Nat := if c.isDigit then some (c.toNat - 48) else none

/-- The value of a hexadecimal digit in either case. -/
def hexDigit? (c : Char) : Option Nat :=
  if c.isDigit then some (c.toNat - 48)
  else if 'a' ≤ c && c ≤ 'f' then some (c.toNat - 87)
  else if 'A' ≤ c && c ≤ 'F' then some (c.toNat - 55)
  else none

/-- The number that digits spell in the given base, most significant first. -/
def ofDigits (base : Nat) (ds : List Nat) : Nat := ds.foldl (fun n d => base * n + d) 0

end Diorama.Text
