/-
# What a scalar without quotes means

A YAML scalar without quotes is a truth value, a number, nothing, a day or a time if it has the
form of one, and otherwise a text.  Whole numbers may be written in four bases and in groups of
sixty; numbers with a fraction need a point.
-/
import Diorama.Value
import Diorama.Yaml.Token

namespace Diorama.Yaml

/-- The kinds of plain scalars. -/
inductive Kind where
  | bool
  | float
  | int
  | merge
  | null
  | time
  | default
  | text
  deriving Repr, DecidableEq

/-! ## 1. Forms -/

/-- Drops an optional sign. -/
def unsign : List Char → List Char
  | '-' :: rest => rest
  | '+' :: rest => rest
  | cs => cs

/-- A digit or an underscore. -/
def isGrouped (c : Char) : Bool := c.isDigit || c == '_'

/-- Drops a digit and the digits and underscores after it, if a digit comes first. -/
def dropGrouped? : List Char → Option (List Char)
  | [] => none
  | c :: rest => if c.isDigit then some (rest.dropWhile isGrouped) else none

/-- Nothing, or an exponent with a sign. -/
def isExponent : List Char → Bool
  | [] => true
  | e :: s :: rest =>
    (e == 'e' || e == 'E') && (s == '-' || s == '+') && !rest.isEmpty && rest.all Char.isDigit
  | _ => false

/-- Drops groups of sixty: a colon and one or two digits, the first of two being at most 5.
The result is what is left and how many groups there were. -/
def dropSixties : Nat → List Char → List Char × Nat
  | n, ':' :: a :: b :: rest =>
    if '0' ≤ a && a ≤ '5' && b.isDigit then dropSixties (n + 1) rest
    else if a.isDigit then dropSixties (n + 1) (b :: rest)
    else (':' :: a :: b :: rest, n)
  | n, [':', a] => if a.isDigit then ([], n + 1) else ([':', a], n)
  | n, cs => (cs, n)

/-- A number with a point. -/
def isFloat (cs : List Char) : Bool :=
  let body := unsign cs
  let word := String.ofList body
  let pointed (cs : List Char) : Bool := match cs with
    | '.' :: rest => isExponent (rest.dropWhile isGrouped)
    | _ => false
  let decimal := match dropGrouped? body with
    | some rest => pointed rest
    | none => false
  let bare := match cs with
    | '.' :: rest => (match dropGrouped? rest with
      | some rest => isExponent rest
      | none => false)
    | _ => false
  let sixties := match dropGrouped? body with
    | some rest =>
      let (rest, n) := dropSixties 0 rest
      n != 0 && (match rest with
        | '.' :: rest => rest.all isGrouped
        | _ => false)
    | none => false
  decimal || bare || sixties || [".inf", ".Inf", ".INF"].contains word ||
    [".nan", ".NaN", ".NAN"].contains (String.ofList cs)

/-- A whole number. -/
def isInt (cs : List Char) : Bool :=
  match unsign cs with
  | ['0'] => true
  | '0' :: 'b' :: rest => !rest.isEmpty && rest.all fun c => c == '0' || c == '1' || c == '_'
  | '0' :: 'x' :: rest => !rest.isEmpty && rest.all fun c => (Text.hexDigit? c).isSome || c == '_'
  | '0' :: rest => rest.all fun c => ('0' ≤ c && c ≤ '7') || c == '_'
  | body =>
    match dropGrouped? body with
    | some rest => (dropSixties 0 rest).1.isEmpty
    | none => false

/-- Reads between `least` and `most` digits. -/
def digitsBetween (least most : Nat) (cs : List Char) : Option (Nat × List Char) :=
  let ds := (cs.take most).takeWhile Char.isDigit
  if ds.length < least then none
  else some (Text.ofDigits 10 (ds.map fun d => d.toNat - 48), cs.drop ds.length)

/-- Moves over one character. -/
def expect (c : Char) : List Char → Option (List Char)
  | d :: rest => if c == d then some rest else none
  | [] => none

def isGap (c : Char) : Bool := c == ' ' || c == '\t'

/-- The distance from universal time at the end of a time. -/
def zone? (cs : List Char) : Option (Option Int) :=
  if cs.isEmpty then some none
  else match cs.dropWhile isGap with
    | ['Z'] => some (some 0)
    | s :: rest => do
      if s != '-' && s != '+' then failure
      let (h, rest) ← digitsBetween 1 2 rest
      let (m, rest) ← match rest with
        | ':' :: rest => digitsBetween 2 2 rest
        | _ => some (0, rest)
      if !rest.isEmpty then failure
      let z : Int := h * 60 + m
      return some (if s == '-' then -z else z)
    | [] => none

/-- The time after a day. -/
def timeOfDay? (cs : List Char) : Option TimeOfDay := do
  let rest ← match cs with
    | 'T' :: rest => some rest
    | 't' :: rest => some rest
    | c :: rest => if isGap c then some (rest.dropWhile isGap) else none
    | [] => none
  let (hour, rest) ← digitsBetween 1 2 rest
  let rest ← expect ':' rest
  let (minute, rest) ← digitsBetween 2 2 rest
  let rest ← expect ':' rest
  let (second, rest) ← digitsBetween 2 2 rest
  let (micro, rest) := match rest with
    | '.' :: rest =>
      let six := (rest.takeWhile Char.isDigit ++ List.replicate 6 '0').take 6
      (Text.ofDigits 10 (six.map fun d => d.toNat - 48), rest.dropWhile Char.isDigit)
    | _ => (0, rest)
  let zone ← zone? rest
  return { hour, minute, second, micro, zone }

/-- A day, with a time if anything follows it. -/
def timestamp? (cs : List Char) : Option Timestamp := do
  let (year, rest) ← digitsBetween 4 4 cs
  let rest ← expect '-' rest
  let (month, rest) ← digitsBetween 1 2 rest
  let rest ← expect '-' rest
  let (day, rest) ← digitsBetween 1 2 rest
  if rest.isEmpty then return { year, month, day, time := none }
  let time ← timeOfDay? rest
  return { year, month, day, time := some time }

/-- The kind of a plain scalar.  A day alone must have two digits for month and day. -/
def kindOf (text : String) : Kind :=
  let cs := text.toList
  if ["yes", "Yes", "YES", "no", "No", "NO", "true", "True", "TRUE", "false", "False", "FALSE",
      "on", "On", "ON", "off", "Off", "OFF"].contains text then .bool
  else if isFloat cs then .float
  else if isInt cs then .int
  else if text == "<<" then .merge
  else if ["~", "null", "Null", "NULL", ""].contains text then .null
  else match timestamp? cs with
    | some t => if t.time.isSome || cs.length == 10 then .time else .text
    | none => if text == "=" then .default else .text

/-! ## 2. Values -/

variable {α : Type} [Scalar α]

/-- The whole number that the digits spell in a base. -/
def wholeInBase (base : Nat) (cs : List Char) : Except Refusal Int :=
  match cs.mapM Text.hexDigit? with
  | some ds =>
    if ds.isEmpty || ds.any (base ≤ ·) then .error .badNumber
    else .ok (Text.ofDigits base ds : Nat)
  | none => .error .badNumber

/-- The whole number that a text spells in base ten. -/
def wholeDecimal (cs : List Char) : Except Refusal Int :=
  match Decimal.Numeral.wholeOfText? (String.ofList cs) with
  | some n => .ok n
  | none => .error .badNumber

/-- Splits at every colon. -/
def splitColons : List Char → List (List Char)
  | [] => [[]]
  | c :: rest =>
    if c == ':' then [] :: splitColons rest
    else match splitColons rest with
      | part :: parts => (c :: part) :: parts
      | [] => [[c]]

/-- The whole number of a scalar. -/
def intValue (text : String) : Except Refusal Int := do
  let cs := text.toList.filter (· != '_')
  let body := unsign cs
  let n ← match body with
    | ['0'] => pure 0
    | '0' :: 'b' :: rest => wholeInBase 2 rest
    | '0' :: 'x' :: rest => wholeInBase 16 rest
    | '0' :: _ => wholeInBase 8 body
    | _ =>
      if body.contains ':' then do
        let parts ← (splitColons body).mapM wholeDecimal
        pure (parts.foldl (fun n d => 60 * n + d) 0)
      else wholeDecimal body
  return if cs.head? == some '-' then -n else n

/-- The scalar that a text without sign spells. -/
def spelled (cs : List Char) : Except Refusal α :=
  match (Decimal.Numeral.ofText? (String.ofList cs)).bind Scalar.ofNumeral? with
  | some x => .ok x
  | none => .error .badNumber

/-- The sum of the parts, the last one counting once and each before it sixty times the one
after. -/
def sixtiesSum : List α → α → α → α
  | [], _, sum => sum
  | d :: rest, base, sum => sixtiesSum rest (base * 60.0) (sum + d * base)

/-- The number with a fraction of a scalar. -/
def floatValue (text : String) : Except Refusal α := do
  let cs := (text.toList.filter (· != '_')).map Char.toLower
  let body := unsign cs
  let negate (x : α) : α := if cs.head? == some '-' then -x else x
  if body == ".inf".toList then return negate (← spelled "inf".toList)
  else if body == ".nan".toList then spelled "nan".toList
  else if body.contains ':' then
    let parts ← (splitColons body).mapM spelled
    return negate (sixtiesSum parts.reverse 1.0 0.0)
  else return negate (← spelled body)

/-- The truth value of a scalar. -/
def boolValue (text : String) : Except Refusal Bool :=
  let word := String.ofList (text.toList.map Char.toLower)
  if ["yes", "true", "on"].contains word then .ok true
  else if ["no", "false", "off"].contains word then .ok false
  else .error .noMeaning

/-- The day or time of a scalar. -/
def timeValue (text : String) : Except Refusal Timestamp :=
  match timestamp? text.toList with
  | some t => if t.valid then .ok t else .error .badNumber
  | none => .error .noMeaning

/-- The value of a scalar of a known kind. -/
def Kind.value (text : String) : Kind → Except Refusal (Value α)
  | .bool => return .bool (← boolValue text)
  | .float => return .num (← floatValue text)
  | .int => return .int (← intValue text)
  | .null => return .null
  | .time => return .time (← timeValue text)
  | .text => return .text text
  | .merge | .default => .error .malformed

end Diorama.Yaml
