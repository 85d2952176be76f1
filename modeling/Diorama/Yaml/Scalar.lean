/-
# Scalars in a YAML text

The four ways to write a scalar: without quotes, between single or double quotes, and as a
block of lines, kept or folded.  Each function starts at the first character of the scalar and
returns its text.
-/
import Diorama.Yaml.Token

namespace Diorama.Yaml

/-! ## 1. Without quotes -/

/-- The length of a run of a plain scalar: up to white space, a colon that ends a key, or a
bracket or comma between brackets. -/
def plainRun (flow : Bool) : List Char → Nat
  | [] => 0
  | c :: rest =>
    let next := rest.headD stop
    if endsMark c then 0
    else if c == ':' && (endsMark next || (flow && ",[]\x7b\x7d".toList.contains next)) then 0
    else if flow && ",?[]\x7b\x7d".toList.contains c then 0
    else plainRun flow rest + 1

/-- Line breaks and spaces after the first break of a plain scalar.  `none` when a line that
separates documents starts. -/
def plainBreaks : Nat → List (List Char) → Lex (Option (List (List Char)))
  | 0, soFar => return some soFar
  | fuel + 1, soFar => do
    let c ← peek
    if c == ' ' then forward 1; plainBreaks fuel soFar
    else if isBreak c then
      let b ← lineBreak
      if ← atSeparator then return none
      plainBreaks fuel (soFar ++ [b])
    else return some soFar

/-- What white space between two runs of a plain scalar stands for. -/
def plainSpaces : Lex (List Char) := do
  let spaces ← takeWhile (· == ' ')
  if isBreak (← peek) then
    let first ← lineBreak
    modify fun l => { l with keyAllowed := true }
    if ← atSeparator then return []
    match ← plainBreaks ((← get).rest.length + 1) [] with
    | none => return []
    | some more =>
      let joint := if first != ['\n'] then first else if more.isEmpty then [' '] else []
      return joint ++ more.flatten
  else return spaces

/-- The runs of a plain scalar; `before` is the white space before the next run. -/
def plainRuns (indent : Int) : Nat → List Char → List Char → Lex (List Char)
  | 0, soFar, _ => return soFar
  | fuel + 1, soFar, before => do
    let l ← get
    if l.rest.head? == some '#' then return soFar
    let n := plainRun (l.flow != 0) l.rest
    if n == 0 then return soFar
    modify fun l => { l with keyAllowed := false }
    let run := l.rest.take n
    forward n
    let soFar := soFar ++ before ++ run
    let spaces ← plainSpaces
    let l ← get
    if spaces.isEmpty || l.rest.head? == some '#' || (l.flow == 0 && l.column < indent) then
      return soFar
    plainRuns indent fuel soFar spaces

/-- A scalar without quotes. -/
def plainScalar : Lex Token := do
  let l ← get
  let cs ← plainRuns (l.indent + 1) (l.rest.length + 1) [] []
  return .scalar (String.ofList cs) true

/-! ## 2. Between quotes -/

/-- The character of a one-letter escape. -/
def escape? (c : Char) : Option Char :=
  match c with
  | '0' => some '\x00'
  | 'a' => some '\x07'
  | 'b' => some '\x08'
  | 't' | '\t' => some '\t'
  | 'n' => some '\n'
  | 'v' => some '\x0b'
  | 'f' => some '\x0c'
  | 'r' => some '\r'
  | 'e' => some '\x1b'
  | ' ' | '"' | '\\' | '/' => some c
  | 'N' => some '\u0085'
  | '_' => some '\u00a0'
  | 'L' => some '\u2028'
  | 'P' => some '\u2029'
  | _ => none

/-- The number of digits of an escape by code. -/
def escapeWidth? : Char → Option Nat
  | 'x' => some 2
  | 'u' => some 4
  | 'U' => some 8
  | _ => none

/-- Line breaks inside quotes, with the white space around them dropped. -/
def quotedBreaks : Nat → List Char → Lex (List Char)
  | 0, soFar => return soFar
  | fuel + 1, soFar => do
    if ← atSeparator then refuse
    let _ ← takeWhile fun c => c == ' ' || c == '\t'
    if isBreak (← peek) then
      let b ← lineBreak
      quotedBreaks fuel (soFar ++ b)
    else return soFar

/-- An escape between double quotes, from its backslash. -/
def quotedEscape : Lex (List Char) := do
  forward 1
  let c ← peek
  match escape? c, escapeWidth? c with
  | some ch, _ => forward 1; return [ch]
  | none, some width =>
    forward 1
    let digits := (← get).rest.take width
    match digits.mapM Text.hexDigit? with
    | some ds =>
      if ds.length != width then refuse
      forward width
      let n := Text.ofDigits 16 ds
      if 0x110000 ≤ n then throw .badNumber
      return [if 0xd800 ≤ n && n < 0xe000 then '\ufffd' else Char.ofNat n]
    | none => refuse
  | none, none =>
    if isBreak c then
      let _ ← lineBreak
      quotedBreaks ((← get).rest.length + 1) []
    else refuse

/-- The text up to white space or the closing quote. -/
def quotedRun (double : Bool) : Nat → List Char → Lex (List Char)
  | 0, soFar => return soFar
  | fuel + 1, soFar => do
    let run ← takeWhile fun c => !(c == '\'' || c == '"' || c == '\\' || endsMark c)
    let soFar := soFar ++ run
    let c ← peek
    if !double && c == '\'' && (← peekAt 1) == '\'' then
      forward 2
      quotedRun double fuel (soFar ++ ['\''])
    else if (double && c == '\'') || (!double && (c == '"' || c == '\\')) then
      forward 1
      quotedRun double fuel (soFar ++ [c])
    else if double && c == '\\' then
      let ch ← quotedEscape
      quotedRun double fuel (soFar ++ ch)
    else return soFar

/-- What white space inside quotes stands for. -/
def quotedSpaces : Lex (List Char) := do
  let spaces ← takeWhile fun c => c == ' ' || c == '\t'
  let c ← peek
  if c == stop then refuse
  else if isBreak c then
    let first ← lineBreak
    let more ← quotedBreaks ((← get).rest.length + 1) []
    return (if first != ['\n'] then first else if more.isEmpty then [' '] else []) ++ more
  else return spaces

/-- Runs and white space up to the closing quote. -/
def quotedBody (quote : Char) : Nat → List Char → Lex (List Char)
  | 0, _ => refuse
  | fuel + 1, soFar => do
    if (← peek) == quote then return soFar
    let spaces ← quotedSpaces
    let run ← quotedRun (quote == '"') ((← get).rest.length + 1) []
    quotedBody quote fuel (soFar ++ spaces ++ run)

/-- A scalar between quotes. -/
def quotedScalar : Lex Token := do
  let quote ← peek
  forward 1
  let fuel := (← get).rest.length + 1
  let run ← quotedRun (quote == '"') fuel []
  let cs ← quotedBody quote fuel run
  forward 1
  return .scalar (String.ofList cs) false

/-! ## 3. Blocks of lines -/

/-- What happens to the line breaks at the end of a block. -/
inductive Chomp where
  | strip
  | clip
  | keep
  deriving Repr, DecidableEq

/-- A digit for the indentation of a block; zero is refused. -/
def blockDigit? : Lex (Option Nat) := do
  match Text.asciiDigit? (← peek) with
  | none => return none
  | some 0 => refuse
  | some n => forward 1; return some n

/-- A sign for the end of a block. -/
def blockChomp? : Lex (Option Chomp) := do
  let c ← peek
  if c == '+' then forward 1; return some .keep
  else if c == '-' then forward 1; return some .strip
  else return none

/-- The marks after the start of a block, in either order. -/
def blockHeader : Lex (Chomp × Option Nat) := do
  let r ← match ← blockChomp? with
    | some chomp => pure (chomp, ← blockDigit?)
    | none =>
      match ← blockDigit? with
      | none => pure (.clip, none)
      | some n => pure ((← blockChomp?).getD .clip, some n)
  if endsWord (← peek) then return r else refuse

/-- White space and a comment up to the end of a line. -/
def restOfLine : Lex Unit := do
  let _ ← takeWhile (· == ' ')
  if (← peek) == '#' then let _ ← takeWhile (!endsLine ·)
  if !endsLine (← peek) then refuse
  let _ ← lineBreak

/-- Empty lines before the first line of a block, and the widest indentation seen. -/
def leadingLines : Nat → List Char → Nat → Lex (List Char × Nat)
  | 0, soFar, widest => return (soFar, widest)
  | fuel + 1, soFar, widest => do
    let c ← peek
    if c == ' ' then
      forward 1
      leadingLines fuel soFar (max widest (← get).column)
    else if isBreak c then
      let b ← lineBreak
      leadingLines fuel (soFar ++ b) widest
    else return (soFar, widest)

/-- Moves over spaces up to the indentation. -/
def skipIndent (indent : Nat) : Lex Unit := do
  let l ← get
  forward (min (indent - l.column) (l.rest.takeWhile (· == ' ')).length)

/-- Empty lines between two lines of a block. -/
def emptyLines (indent : Nat) : Nat → List Char → Lex (List Char)
  | 0, soFar => return soFar
  | fuel + 1, soFar => do
    if isBreak (← peek) then
      let b ← lineBreak
      skipIndent indent
      emptyLines indent fuel (soFar ++ b)
    else return soFar

/-- The lines of a block.  `breaks` are the empty lines before the next line; the result is the
text, the last line break and the empty lines after it. -/
def blockLines (folded : Bool) (indent : Nat) : Nat → List Char → List Char →
    Lex (List Char × List Char × List Char)
  | 0, soFar, breaks => return (soFar, [], breaks)
  | fuel + 1, soFar, breaks => do
    if (← get).column != indent || (← peek) == stop then return (soFar, [], breaks)
    let soFar := soFar ++ breaks
    let first ← peek
    let line ← takeWhile (!endsLine ·)
    let soFar := soFar ++ line
    let last ← lineBreak
    skipIndent indent
    let breaks ← emptyLines indent ((← get).rest.length + 1) []
    let next ← peek
    if (← get).column == indent && next != stop then
      let isText (c : Char) : Bool := c != ' ' && c != '\t'
      let joint :=
        if folded && last == ['\n'] && isText first && isText next then
          if breaks.isEmpty then [' '] else []
        else last
      blockLines folded indent fuel (soFar ++ joint) breaks
    else return (soFar, last, breaks)

/-- A scalar that is a block of lines. -/
def blockScalar (folded : Bool) : Lex Token := do
  forward 1
  let (chomp, increment) ← blockHeader
  restOfLine
  let least := (max 1 ((← get).indent + 1)).toNat
  let fuel := (← get).rest.length + 1
  let (indent, breaks) ← match increment with
    | none => do
      let (breaks, widest) ← leadingLines fuel [] 0
      pure (max least widest, breaks)
    | some n => do
      let indent := least + n - 1
      skipIndent indent
      pure (indent, ← emptyLines indent fuel [])
  let (cs, last, tail) ← blockLines folded indent fuel [] breaks
  let ending := match chomp with
    | .strip => []
    | .clip => last
    | .keep => last ++ tail
  return .scalar (String.ofList (cs ++ ending)) false

end Diorama.Yaml
