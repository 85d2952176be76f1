/-
# Colours

A colour has four channels from 0 to 255.  It is written as a text, or as a list of three or four
numbers, and a missing opacity is full.

Which colours a text spells is for the host to say (`Host.color?`).  The program itself only
removes the blanks around it and doubles the digits of the short form `#RGB`.  The host that
records (`Host.recording`) knows `#` or `0x` with six or eight hexadecimal digits, and names, in
which case and spaces do not matter (`Color.ofSpelling?`).
-/
import Diorama.Color.Names
import Diorama.Text.Classes
import Diorama.Text.LowerCase
import Diorama.Value.Number

namespace Diorama

/-- A colour with its opacity; every channel lies between 0 and 255 (`RGBA`). -/
structure Color where
  red : Nat
  green : Nat
  blue : Nat
  opacity : Nat := 255
  deriving Repr, DecidableEq

namespace Color

/-- The colour that stands in for one that cannot be read, unless another is asked for (`WHITE`). -/
def white : Color := { red := 255, green := 255, blue := 255 }

/-- The number that two hexadecimal digits spell. -/
def octet? (a b : Char) : Option Nat := do
  let x ← Text.hexDigit? a
  let y ← Text.hexDigit? b
  return 16 * x + y

/-- Six or eight hexadecimal digits. -/
def ofHex? : List Char → Option Color
  | [a, b, c, d, e, f] => do
    return { red := ← octet? a b, green := ← octet? c d, blue := ← octet? e f }
  | [a, b, c, d, e, f, g, h] => do
    return { red := ← octet? a b, green := ← octet? c d, blue := ← octet? e f,
             opacity := ← octet? g h }
  | _ => none

/-- A colour name with any case and spaces. -/
def ofName? (cs : List Char) : Option Color :=
  (namedChannels? (Text.lower (String.ofList (cs.filter (· != ' '))))).map fun (r, g, b) =>
    { red := r, green := g, blue := b }

/-- Doubles every digit of the short form `#RGB` (`parse_color`). -/
def expandShort : List Char → List Char
  | ['#', a, b, c] => ['#', a, a, b, b, c, c]
  | cs => cs

/-- The colour that the recording host finds under a spelling. -/
def ofSpelling? (s : String) : Option Color :=
  let cs := s.toList
  let hex := match cs with
    | '#' :: digits => ofHex? digits
    | '0' :: 'x' :: digits => ofHex? digits
    | _ => none
  hex.orElse fun _ => ofName? cs

/-- A spelling without the blanks around it, with `#RGB` made long: this is what the host is asked
for (`parse_color`). -/
def spelling (s : String) : String := String.ofList (expandShort (Text.trimList s.toList))

/-- The colour of four channels, if all are in range (`parse_color`). -/
def ofRgba? (r g b a : Int) : Option Color :=
  if [r, g, b, a].all fun c => 0 ≤ c && c ≤ 255 then
    some { red := r.toNat, green := g.toNat, blue := b.toNat, opacity := a.toNat }
  else none

/-- Three or four channels (`parse_color`). -/
def ofChannels? : List Int → Option Color
  | [r, g, b] => ofRgba? r g b 255
  | [r, g, b, a] => ofRgba? r g b a
  | _ => none

variable {α : Type} [Scalar α]

/-- What a list or the keys of a mapping give as channels (`parse_color`). -/
def channelValues? : Value α → Option (List (Value α))
  | .list items => some items
  | .map fields => some (fields.map (·.1))
  | _ => none

/-- The colour whose channels a value lists (`parse_color`).  An infinite channel is a fault;
anything else that is no colour is none. -/
def ofParts? (v : Value α) : Except Fault (Option Color) :=
  match channelValues? v with
  | none => .ok none
  | some vs =>
    match vs.mapM Value.toWhole with
    | .ok cs => .ok (ofChannels? cs)
    | .error .tooLarge => .error .tooLarge
    | .error _ => .ok none

end Color

end Diorama
