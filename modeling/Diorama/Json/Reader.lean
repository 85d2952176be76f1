/-
# Reading JSON

`Json.read` turns a text into a value, or says what was expected and where.  The grammar is
that of JSON with the three words `NaN`, `Infinity` and `-Infinity` as numbers; keys keep the
order of the document, and a repeated key keeps its first place with its last value.  A
whole-number literal may have any size up to `Decimal.Numeral.maxDigits` digits.

Reading goes from left to right and stops at the first mistake, whose place is counted in
characters from the start, in lines and in columns.
-/
import Diorama.Value

namespace Diorama.Json

/-- What was expected or found instead. -/
inductive Problem where
  | value
  | name
  | colon
  | comma
  | controlCharacter
  | unterminated
  | escape
  | unicodeEscape
  | extraData
  | byteOrderMark
  deriving Repr, DecidableEq

def Problem.text : Problem → String
  | .value => "Expecting value"
  | .name => "Expecting property name enclosed in double quotes"
  | .colon => "Expecting ':' delimiter"
  | .comma => "Expecting ',' delimiter"
  | .controlCharacter => "Invalid control character at"
  | .unterminated => "Unterminated string starting at"
  | .escape => "Invalid \\escape"
  | .unicodeEscape => "Invalid \\uXXXX escape"
  | .extraData => "Extra data"
  | .byteOrderMark => "Unexpected UTF-8 BOM (decode using utf-8-sig)"

/-- Why a text is not read. -/
inductive Refusal where
  | mistake (problem : Problem) (position : Nat)
  | tooManyDigits
  deriving Repr, DecidableEq

/-- The line of a position, from 1, and its column, from 1. -/
def lineAndColumn (text : List Char) (position : Nat) : Nat × Nat :=
  let before := text.take position
  (before.count '\n' + 1, (before.reverse.takeWhile (· != '\n')).length + 1)

/-- The wording of a mistake in a text. -/
def describe (text : List Char) (problem : Problem) (position : Nat) : String :=
  let (line, column) := lineAndColumn text position
  problem.text ++ ": line " ++ toString line ++ " column " ++ toString column ++
    " (char " ++ toString position ++ ")"

/-! ## 1. The reading position -/

/-- What is left of the text, and how much of it was read. -/
structure Cursor where
  position : Nat
  rest : List Char

namespace Cursor

def fail {β : Type} (problem : Problem) (c : Cursor) : Except Refusal β :=
  .error (.mistake problem c.position)

/-- Moves over the first `n` characters. -/
def advance (n : Nat) (c : Cursor) : Cursor := ⟨c.position + n, c.rest.drop n⟩

def isSpace (c : Char) : Bool := c == ' ' || c == '\t' || c == '\n' || c == '\r'

/-- Moves over white space. -/
def skipSpace (c : Cursor) : Cursor := c.advance (c.rest.takeWhile isSpace).length

/-- Moves over a word if it comes next. -/
def word? (w : String) (c : Cursor) : Option Cursor :=
  if w.toList.isPrefixOf c.rest then some (c.advance w.length) else none

end Cursor

/-! ## 2. Strings -/

/-- The value of four hexadecimal digits. -/
def hexUnit? (cs : List Char) : Option Nat :=
  if cs.length == 4 then (cs.mapM Text.hexDigit?).map (Text.ofDigits 16) else none

/-- The character of an escape by one letter. -/
def simpleEscape? : Char → Option Char
  | '"' => some '"'
  | '\\' => some '\\'
  | '/' => some '/'
  | 'b' => some '\x08'
  | 'f' => some '\x0c'
  | 'n' => some '\n'
  | 'r' => some '\r'
  | 't' => some '\t'
  | _ => none

/-- A code unit, joined with the low half of a pair when it is the high half and the low half
follows.  The second component is the number of characters read after the first unit.  A half
that stands alone becomes the replacement character. -/
def joinUnits (position : Nat) (unit : Nat) (rest : List Char) :
    Except Refusal (Char × Nat) :=
  if 0xd800 ≤ unit && unit < 0xdc00 then
    match rest with
    | '\\' :: 'u' :: more =>
      if more.length < 5 then .ok ('\ufffd', 0)
      else match hexUnit? (more.take 4) with
        | none => .error (.mistake .unicodeEscape (position + 1))
        | some low =>
          if 0xdc00 ≤ low && low < 0xe000 then
            .ok (Char.ofNat (0x10000 + (unit - 0xd800) * 0x400 + (low - 0xdc00)), 6)
          else .ok ('\ufffd', 0)
    | _ => .ok ('\ufffd', 0)
  else if 0xdc00 ≤ unit && unit < 0xe000 then .ok ('\ufffd', 0)
  else .ok (Char.ofNat unit, 0)

/-- The characters of a string up to its closing quote.  `start` is the place of the opening
quote, `soFar` what was read, in reverse; `fuel` is at least the length of the rest. -/
def stringBody (start : Nat) : Nat → List Char → Cursor → Except Refusal (String × Cursor)
  | 0, _, _ => .error (.mistake .unterminated start)
  | fuel + 1, soFar, c =>
    match c.rest with
    | [] => .error (.mistake .unterminated start)
    | '"' :: _ => .ok (String.ofList soFar.reverse, c.advance 1)
    | '\\' :: [] => .error (.mistake .unterminated start)
    | '\\' :: 'u' :: more =>
      if more.length < 5 then c.advance 1 |>.fail .unicodeEscape
      else match hexUnit? (more.take 4) with
        | none => c.advance 1 |>.fail .unicodeEscape
        | some unit => do
          let (ch, further) ← joinUnits (c.position + 6) unit (more.drop 4)
          stringBody start fuel (ch :: soFar) (c.advance (6 + further))
    | '\\' :: e :: _ =>
      match simpleEscape? e with
      | some ch => stringBody start fuel (ch :: soFar) (c.advance 2)
      | none => c.fail .escape
    | ch :: _ =>
      if ch.toNat < 32 then c.fail .controlCharacter
      else stringBody start fuel (ch :: soFar) (c.advance 1)

/-- A string, from its opening quote. -/
def string (c : Cursor) : Except Refusal (String × Cursor) :=
  stringBody c.position (c.rest.length + 1) [] (c.advance 1)

/-! ## 3. Numbers -/

variable {α : Type} [Scalar α]

/-- The digits at the front. -/
def leadingDigits (cs : List Char) : List Char := cs.takeWhile Char.isDigit

/-- The length of the fraction at the front: a point and at least one digit. -/
def fractionLength : List Char → Nat
  | '.' :: rest => let n := (leadingDigits rest).length; if n == 0 then 0 else n + 1
  | _ => 0

/-- The length of the exponent at the front: a letter, an optional sign and at least one
digit. -/
def exponentLength : List Char → Nat
  | e :: rest =>
    if e == 'e' || e == 'E' then
      let signed := match rest with
        | s :: _ => if s == '+' || s == '-' then 1 else 0
        | [] => 0
      let n := (leadingDigits (rest.drop signed)).length
      if n == 0 then 0 else 1 + signed + n
    else 0
  | [] => 0

/-- A number.  A fraction or an exponent makes it a scalar. -/
def number (c : Cursor) : Except Refusal (Value α × Cursor) :=
  let sign := if c.rest.head? == some '-' then 1 else 0
  let body := c.rest.drop sign
  let whole := match body with
    | '0' :: _ => 1
    | _ => (leadingDigits body).length
  if whole == 0 then c.fail .value
  else
    let fraction := fractionLength (body.drop whole)
    let exponent := exponentLength (body.drop (whole + fraction))
    let length := sign + whole + fraction + exponent
    let literal := c.rest.take length
    if fraction + exponent == 0 then
      if Decimal.Numeral.maxDigits < whole then .error .tooManyDigits
      else
        let n : Int := Text.ofDigits 10 ((body.take whole).map fun d => d.toNat - 48)
        .ok (.int (if sign == 1 then -n else n), c.advance length)
    else
      match (Decimal.Numeral.ofText? (String.ofList literal)).bind Scalar.ofNumeral? with
      | some x => .ok (.num x, c.advance length)
      | none => c.fail .value

/-- A scalar that is written as a word. -/
def special (c next : Cursor) (n : Decimal.Numeral) : Except Refusal (Value α × Cursor) :=
  match Scalar.ofNumeral? n with
  | some x => .ok (.num x, next)
  | none => c.fail .value

/-- A word that stands for a value, or a number. -/
def atom (c : Cursor) : Except Refusal (Value α × Cursor) :=
  match c.word? "null", c.word? "true", c.word? "false" with
  | some next, _, _ => .ok (.null, next)
  | _, some next, _ => .ok (.bool true, next)
  | _, _, some next => .ok (.bool false, next)
  | _, _, _ =>
    match c.word? "NaN", c.word? "Infinity", c.word? "-Infinity" with
    | some next, _, _ => special c next .undefined
    | _, some next, _ => special c next (.infinite false)
    | _, _, some next => special c next (.infinite true)
    | _, _, _ => number c

/-! ## 4. Values -/

mutual

/-- Any value.  The fuel bounds the characters left, each call reading at least one. -/
def value : Nat → Cursor → Except Refusal (Value α × Cursor)
  | 0, c => c.fail .value
  | fuel + 1, c =>
    match c.rest with
    | '"' :: _ => do
      let (s, c) ← string c
      return (.text s, c)
    | '\x7b' :: _ =>
      let c := (c.advance 1).skipSpace
      if c.rest.head? == some '\x7d' then .ok (.map [], c.advance 1)
      else do
        let (ps, c) ← members fuel [] c
        return (.map (Fields.ofPairs ps), c)
    | '[' :: _ =>
      let c := (c.advance 1).skipSpace
      if c.rest.head? == some ']' then .ok (.list [], c.advance 1)
      else do
        let (vs, c) ← items fuel [] c
        return (.list vs, c)
    | _ => atom c

/-- The members of an object up to its closing brace; `soFar` holds those read, in reverse. -/
def members : Nat → List (Value α × Value α) → Cursor →
    Except Refusal (List (Value α × Value α) × Cursor)
  | 0, _, c => c.fail .name
  | fuel + 1, soFar, c =>
    if c.rest.head? != some '"' then c.fail .name
    else do
      let (key, c) ← string c
      let c := c.skipSpace
      if c.rest.head? != some ':' then c.fail .colon
      else
        let (v, c) ← value fuel (c.advance 1).skipSpace
        let c := c.skipSpace
        let soFar := (.text key, v) :: soFar
        match c.rest with
        | '\x7d' :: _ => return (soFar.reverse, c.advance 1)
        | ',' :: _ => members fuel soFar (c.advance 1).skipSpace
        | _ => c.fail .comma

/-- The items of a list up to its closing bracket; `soFar` holds those read, in reverse. -/
def items : Nat → List (Value α) → Cursor → Except Refusal (List (Value α) × Cursor)
  | 0, _, c => c.fail .value
  | fuel + 1, soFar, c => do
    let (v, c) ← value fuel c
    let c := c.skipSpace
    let soFar := v :: soFar
    match c.rest with
    | ']' :: _ => return (soFar.reverse, c.advance 1)
    | ',' :: _ => items fuel soFar (c.advance 1).skipSpace
    | _ => c.fail .comma

end

/-- The value that a text spells. -/
def read (text : List Char) : Except Refusal (Value α) := do
  if text.head? == some '\ufeff' then .error (.mistake .byteOrderMark 0)
  else
    let (v, c) ← value (text.length + 1) (Cursor.skipSpace ⟨0, text⟩)
    let c := c.skipSpace
    if c.rest.isEmpty then return v else c.fail .extraData

end Diorama.Json
