/-
# Typefaces

A typeface is spelled like on a web canvas: any of `bold`, `italic` and `normal` in any order,
then a size in pixels, then the name of a family.  Blanks separate the words and do not matter
otherwise.  A text of any other form is reported and gives a family and size of its own, with
the style words that it begins with.
-/
import Diorama.Act
import Diorama.Scalar
import Diorama.Text.LowerCase
import Diorama.Value.Number

namespace Diorama

/-- A family of letters at a size, in a style (`FontSpec`). -/
structure Typeface where
  size : Int
  family : String
  bold : Bool := false
  italic : Bool := false
  deriving Repr, DecidableEq

namespace Typeface

/-- The spelling that is used where there is none (`DEFAULT_FONT`). -/
def standard : String := "48px Arial"

/-- Takes the style words at the front: whether one of them is bold, whether one is italic, and the
words that follow (`parse_font`). -/
def takeStyle : List String → Bool × Bool × List String
  | [] => (false, false, [])
  | w :: rest =>
    let lowered := Text.lower w
    if lowered == "bold" || lowered == "italic" || lowered == "normal" then
      let (bold, italic, rest) := takeStyle rest
      (bold || lowered == "bold", italic || lowered == "italic", rest)
    else (false, false, w :: rest)

/-- Digits, or digits, a point and digits (`_FONT_RE`). -/
def isSize (cs : List Char) : Bool :=
  let isDigit (c : Char) := (Text.digit? c).isSome
  let whole := cs.takeWhile isDigit
  match cs.dropWhile isDigit with
  | [] => !whole.isEmpty
  | '.' :: fraction => !whole.isEmpty && !fraction.isEmpty && fraction.all isDigit
  | _ => false

/-- The number before `px` in a word that is a size (`_FONT_RE`). -/
def sizeText? (w : String) : Option String :=
  match w.toList.reverse with
  | 'x' :: 'p' :: digits =>
    if isSize digits.reverse then some (String.ofList digits.reverse) else none
  | _ => none

/-- Removes quotes of both kinds from either end. -/
def unquote (cs : List Char) : List Char :=
  let isQuote (c : Char) := c == '\'' || c == '"'
  ((cs.dropWhile isQuote).reverse.dropWhile isQuote).reverse

/-- The name of a family from its words (`parse_font`). -/
def familyOf (words : List String) : String :=
  Text.lower (String.ofList (unquote (" ".intercalate words).toList))

/-- The whole number of pixels, at least one, that a size spells. -/
def pixels (α : Type) [Scalar α] (size : String) : Except Fault Int := do
  let x ← (Value.text size : Value α).toScalar
  return max 1 (← Scalar.whole x)

/-- The typeface that a text spells; an empty text stands for the standard spelling (`parse_font`).
-/
def read (α : Type) [Scalar α] (spelling : String) : Act Log Typeface := do
  let words := Text.words (if spelling == "" then standard else spelling)
  let (bold, italic, words) := takeStyle words
  let unreadable : Act Log Typeface := do
    say ("[TextRenderer] Warning: unparseable font '" ++ spelling ++ "', using default")
    return { size := 48, family := "arial", bold, italic }
  match words with
  | first :: second :: rest =>
    match sizeText? first with
    | some size =>
      return { size := ← Act.ofExcept (pixels α size)
               family := familyOf (second :: rest), bold, italic }
    | none => unreadable
  | _ => unreadable

end Typeface

end Diorama
