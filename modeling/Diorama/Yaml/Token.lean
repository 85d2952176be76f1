/-
# The tokens of a YAML text

A YAML text is first cut into tokens.  Besides the marks that stand in the text there are
tokens for the structure that indentation gives: the start of a block list or mapping, the end
of a block, and the start of a key that is only recognised at its colon.
-/
import Diorama.Text.Classes

namespace Diorama.Yaml

/-- One token.  The end of the text is the end of the token list. -/
inductive Token where
  | version (major : Nat)
  | tagHandle (handle value : String)
  | unknownDirective
  | documentStart
  | documentEnd
  | blockList
  | blockMapping
  | blockEnd
  | flowListStart
  | flowListEnd
  | flowMappingStart
  | flowMappingEnd
  | blockEntry
  | flowEntry
  | key
  | value
  | alias (name : String)
  | anchor (name : String)
  | tag (handle : Option String) (suffix : String)
  | scalar (text : String) (plain : Bool)
  deriving Repr, DecidableEq

/-- Why a text is not read: it is not YAML that this library reads, a number or a day in it does
not exist, or a scalar is tagged as a truth value or a day and is none. -/
inductive Refusal where
  | malformed
  | badNumber
  | noMeaning
  deriving Repr, DecidableEq

/-! ## 1. Characters -/

/-- The character that stands for the end of the text; no text holds it. -/
def stop : Char := '\x00'

def isBreak (c : Char) : Bool :=
  c == '\n' || c == '\r' || c == '\u0085' || c == '\u2028' || c == '\u2029'

/-- A line break or the end. -/
def endsLine (c : Char) : Bool := isBreak c || c == stop

/-- A space, a line break or the end. -/
def endsWord (c : Char) : Bool := endsLine c || c == ' '

/-- A space, a tab, a line break or the end. -/
def endsMark (c : Char) : Bool := endsWord c || c == '\t'

/-- A character that may stand in a YAML text. -/
def isAllowed (c : Char) : Bool :=
  let n := c.toNat
  n == 9 || n == 10 || n == 13 || (0x20 ≤ n && n ≤ 0x7e) || n == 0x85 ||
    (0xa0 ≤ n && n ≤ 0xfffd) || 0x10000 ≤ n

/-- A letter, a digit, a hyphen or an underscore. -/
def isNameChar (c : Char) : Bool := c.isAlphanum || c == '-' || c == '_'

/-- A character of a tag. -/
def isTagChar (c : Char) : Bool := c.isAlphanum || "-;/?:@&=+$,_.!~*'()[]%".toList.contains c

/-! ## 2. The place in the text -/

/-- A place where a key may have started: the number of the token that would be its first, and
where it stands.  A required key must turn out to be one. -/
structure KeyMark where
  token : Nat
  required : Bool
  index : Nat
  line : Nat
  column : Nat

/-- The text that is left and what indentation means at this place.  `flow` counts the open
brackets; `indent` is the column of the innermost open block and `outer` those around it;
`keys` holds the possible start of a key for each count of brackets. -/
structure Lexer where
  rest : List Char
  index : Nat := 0
  line : Nat := 0
  column : Nat := 0
  flow : Nat := 0
  indent : Int := -1
  outer : List Int := []
  keyAllowed : Bool := true
  keys : List (Nat × KeyMark) := []
  tokens : Array Token := #[]

/-- A step through the text. -/
abbrev Lex := StateT Lexer (Except Refusal)

def refuse {β : Type} : Lex β := throw .malformed

/-- The character `k` places ahead. -/
def peekAt (k : Nat) : Lex Char := return ((← get).rest.drop k).headD stop

def peek : Lex Char := peekAt 0

/-- Moves over one character. -/
def stepOver (l : Lexer) : Lexer :=
  match l.rest with
  | [] => l
  | c :: rest =>
    if isBreak c && !(c == '\r' && rest.head? == some '\n') then
      { l with rest, index := l.index + 1, line := l.line + 1, column := 0 }
    else
      let column := if c == '\ufeff' then l.column else l.column + 1
      { l with rest, index := l.index + 1, column }

/-- Moves over `n` characters. -/
def forward (n : Nat) : Lex Unit := modify fun l => n.repeat stepOver l

/-- Moves over the characters that satisfy `p` and returns them. -/
def takeWhile (p : Char → Bool) : Lex (List Char) := do
  let run := (← get).rest.takeWhile p
  forward run.length
  return run

/-- Moves over a line break; the result is what it means, or nothing without one. -/
def lineBreak : Lex (List Char) := do
  let c ← peek
  if c == '\r' && (← peekAt 1) == '\n' then forward 2; return ['\n']
  else if c == '\r' || c == '\n' || c == '\u0085' then forward 1; return ['\n']
  else if c == '\u2028' || c == '\u2029' then forward 1; return [c]
  else return []

/-- Whether a line that separates documents starts here. -/
def atSeparator : Lex Bool := do
  let three := (← get).rest.take 3
  return (three == ['-', '-', '-'] || three == ['.', '.', '.']) && endsMark (← peekAt 3)

/-- Adds a token at the end. -/
def emit (t : Token) : Lex Unit := modify fun l => { l with tokens := l.tokens.push t }

end Diorama.Yaml
