/-
# Cutting a YAML text into tokens

The text is read from left to right.  Indentation is kept as a stack of columns; a token that
stands further left than the innermost block closes it.  A key without a mark is only known to
be one at its colon, so every token that could start one is remembered until its line ends.
-/
import Diorama.Yaml.Scalar

namespace Diorama.Yaml

/-! ## 1. Keys and indentation -/

/-- Forgets the possible key at this count of brackets; a required one must not be lost. -/
def dropKey : Lex Unit := do
  let l ← get
  match l.keys.lookup l.flow with
  | some k => if k.required then refuse
  | none => pure ()
  set { l with keys := l.keys.filter (·.1 != l.flow) }

/-- Forgets the possible keys that are on an earlier line or too far back. -/
def dropStaleKeys : Lex Unit := do
  let l ← get
  let stale (k : KeyMark) : Bool := k.line != l.line || 1024 < l.index - k.index
  if l.keys.any fun k => stale k.2 && k.2.required then refuse
  set { l with keys := l.keys.filter fun k => !stale k.2 }

/-- Remembers that a key may start here. -/
def markKey : Lex Unit := do
  let l ← get
  let required := l.flow == 0 && l.indent == l.column
  if l.keyAllowed then
    dropKey
    modify fun m =>
      { m with keys := m.keys ++ [(l.flow, ⟨l.tokens.size, required, l.index, l.line, l.column⟩)] }

/-- Closes blocks until one is left that reaches to the column. -/
def closeBlocks (column : Int) : List Int → Int → Array Token → List Int × Int × Array Token
  | [], indent, tokens => ([], indent, tokens)
  | o :: outer, indent, tokens =>
    if column < indent then closeBlocks column outer o (tokens.push .blockEnd)
    else (o :: outer, indent, tokens)

/-- Closes the blocks that end before the column; brackets make indentation irrelevant. -/
def unindent (column : Int) : Lex Unit := modify fun l =>
  if l.flow != 0 then l
  else
    let (outer, indent, tokens) := closeBlocks column l.outer l.indent l.tokens
    { l with outer, indent, tokens }

/-- Opens a block at the column if it is further right; the result says whether. -/
def indentTo (column : Nat) : Lex Bool := do
  let l ← get
  if l.indent < column then
    set { l with outer := l.indent :: l.outer, indent := (column : Int) }
    return true
  else return false

/-! ## 2. Marks -/

/-- Sets whether a key may start at the next token. -/
def allowKey (b : Bool) : Lex Unit := modify fun l => { l with keyAllowed := b }

/-- A token of `n` characters that stands between documents. -/
def documentMark (t : Token) : Lex Unit := do
  unindent (-1)
  dropKey
  allowKey false
  forward 3
  emit t

/-- An opening bracket, which may itself start a key. -/
def openBracket (t : Token) : Lex Unit := do
  markKey
  modify fun l => { l with flow := l.flow + 1, keyAllowed := true }
  forward 1
  emit t

def closeBracket (t : Token) : Lex Unit := do
  dropKey
  if (← get).flow == 0 then refuse
  modify fun l => { l with flow := l.flow - 1, keyAllowed := false }
  forward 1
  emit t

def comma : Lex Unit := do
  allowKey true
  dropKey
  forward 1
  emit .flowEntry

/-- The hyphen before an item. -/
def itemMark : Lex Unit := do
  let l ← get
  if l.flow == 0 then
    if !l.keyAllowed then refuse
    if ← indentTo l.column then emit .blockList
  allowKey true
  dropKey
  forward 1
  emit .blockEntry

/-- The question mark before a key. -/
def keyMark : Lex Unit := do
  let l ← get
  if l.flow == 0 then
    if !l.keyAllowed then refuse
    if ← indentTo l.column then emit .blockMapping
  allowKey (l.flow == 0)
  dropKey
  forward 1
  emit .key

/-- The colon before a value.  If a key was possible, it is one, and its mark goes in front of
its first token. -/
def valueMark : Lex Unit := do
  let l ← get
  match l.keys.lookup l.flow with
  | some k =>
    let insertAt (t : Token) : Lex Unit := modify fun m =>
      { m with tokens := m.tokens.insertIdxIfInBounds k.token t }
    modify fun m => { m with keys := m.keys.filter (·.1 != l.flow) }
    insertAt .key
    if l.flow == 0 then
      if ← indentTo k.column then insertAt .blockMapping
    allowKey false
  | none =>
    if l.flow == 0 then
      if !l.keyAllowed then refuse
      if ← indentTo l.column then emit .blockMapping
    allowKey (l.flow == 0)
    dropKey
  forward 1
  emit .value

/-- A token that may start a key, and after which none starts. -/
def keyToken (read : Lex Token) : Lex Unit := do
  markKey
  allowKey false
  emit (← read)

/-! ## 3. Names and tags -/

/-- The name of an anchor or an alias. -/
def anchorName : Lex String := do
  forward 1
  let name ← takeWhile isNameChar
  let c ← peek
  if name.isEmpty || !(endsMark c || "?:,]\x7d%@\x60".toList.contains c) then refuse
  return String.ofList name

/-- The bytes written with percent signs, as long as they last. -/
def percentBytes : Nat → List Nat → Lex (List Nat)
  | 0, soFar => return soFar
  | fuel + 1, soFar => do
    match (← get).rest with
    | '%' :: a :: b :: _ =>
      match Text.hexDigit? a, Text.hexDigit? b with
      | some x, some y => forward 3; percentBytes fuel (soFar ++ [16 * x + y])
      | _, _ => refuse
    | '%' :: _ => refuse
    | _ => return soFar

/-- The characters of a tag, with bytes in percent signs decoded. -/
def tagBody : Nat → List Char → Lex (List Char)
  | 0, soFar => return soFar
  | fuel + 1, soFar => do
    let run ← takeWhile fun c => isTagChar c && c != '%'
    if (← peek) == '%' then
      let bytes ← percentBytes ((← get).rest.length + 1) []
      match String.fromUTF8? (ByteArray.mk (bytes.map UInt8.ofNat).toArray) with
      | some s => tagBody fuel (soFar ++ run ++ s.toList)
      | none => refuse
    else
      let cs := soFar ++ run
      if cs.isEmpty then refuse else return cs

def tagSuffix : Lex String := do
  return String.ofList (← tagBody ((← get).rest.length + 1) [])

/-- An exclamation mark, a name and, if it is closed, another exclamation mark. -/
def tagHandle : Lex String := do
  if (← peek) != '!' then refuse
  forward 1
  if (← peek) == ' ' then return "!"
  let name ← takeWhile isNameChar
  if (← peek) != '!' then refuse
  forward 1
  return "!" ++ String.ofList name ++ "!"

/-- A tag. -/
def tagToken : Lex Token := do
  let next ← peekAt 1
  let t ←
    if next == '<' then
      forward 2
      let suffix ← tagSuffix
      if (← peek) != '>' then refuse
      forward 1
      pure (.tag none suffix)
    else if endsMark next then
      forward 1
      pure (.tag none "!")
    else
      let word := ((← get).rest.drop 1).takeWhile (!endsWord ·)
      let handle ← if word.contains '!' then tagHandle else do forward 1; pure "!"
      pure (.tag (some handle) (← tagSuffix))
  if endsWord (← peek) then return t else refuse

/-! ## 4. Directives -/

/-- A run of digits. -/
def wholeNumber : Lex Nat := do
  let ds ← takeWhile Char.isDigit
  if ds.isEmpty then refuse
  return Text.ofDigits 10 (ds.map fun d => d.toNat - 48)

/-- A line that starts with a percent sign. -/
def directive : Lex Unit := do
  unindent (-1)
  dropKey
  allowKey false
  forward 1
  let name := String.ofList (← takeWhile isNameChar)
  if name == "" || !endsWord (← peek) then refuse
  if name == "YAML" then
    let _ ← takeWhile (· == ' ')
    let major ← wholeNumber
    if (← peek) != '.' then refuse
    forward 1
    let _ ← wholeNumber
    if !endsWord (← peek) then refuse
    restOfLine
    emit (.version major)
  else if name == "TAG" then
    let _ ← takeWhile (· == ' ')
    let handle ← tagHandle
    if (← peek) != ' ' then refuse
    let _ ← takeWhile (· == ' ')
    let value ← tagSuffix
    if !endsWord (← peek) then refuse
    restOfLine
    emit (.tagHandle handle value)
  else
    let _ ← takeWhile (!endsLine ·)
    restOfLine
    emit .unknownDirective

/-! ## 5. The text -/

/-- Moves over spaces, comments and line breaks; outside brackets a new line may start a
key. -/
def skipBlank : Nat → Lex Unit
  | 0 => pure ()
  | fuel + 1 => do
    let _ ← takeWhile (· == ' ')
    if (← peek) == '#' then let _ ← takeWhile (!endsLine ·)
    if isBreak (← peek) then
      let _ ← lineBreak
      if (← get).flow == 0 then allowKey true
      skipBlank fuel

/-- Whether a plain scalar starts with `c`, followed by `next`. -/
def startsPlain (flow : Bool) (c next : Char) : Bool :=
  !(endsMark c || "-?:,[]\x7b\x7d#&*!|>'\"%@\x60".toList.contains c) ||
    (!endsMark next && (c == '-' || (!flow && (c == '?' || c == ':'))))

/-- Reads the next token, which starts here. -/
def nextToken : Lex Unit := do
  let l ← get
  let c ← peek
  let next ← peekAt 1
  let flow := l.flow != 0
  let separator ← atSeparator
  if c == '%' && l.column == 0 then directive
  else if c == '-' && l.column == 0 && separator then documentMark .documentStart
  else if c == '.' && l.column == 0 && separator then documentMark .documentEnd
  else if c == '[' then openBracket .flowListStart
  else if c == '\x7b' then openBracket .flowMappingStart
  else if c == ']' then closeBracket .flowListEnd
  else if c == '\x7d' then closeBracket .flowMappingEnd
  else if c == ',' then comma
  else if c == '-' && endsMark next then itemMark
  else if c == '?' && (flow || endsMark next) then keyMark
  else if c == ':' && (flow || endsMark next) then valueMark
  else if c == '*' then keyToken (return .alias (← anchorName))
  else if c == '&' then keyToken (return .anchor (← anchorName))
  else if c == '!' then keyToken tagToken
  else if (c == '|' || c == '>') && !flow then
    allowKey true
    dropKey
    emit (← blockScalar (c == '>'))
  else if c == '\'' || c == '"' then keyToken quotedScalar
  else if startsPlain flow c next then keyToken plainScalar
  else refuse

/-- Reads tokens to the end of the text. -/
def allTokens : Nat → Lex Unit
  | 0 => refuse
  | fuel + 1 => do
    skipBlank ((← get).rest.length + 1)
    dropStaleKeys
    unindent (← get).column
    if (← get).rest.isEmpty then
      unindent (-1)
      dropKey
    else
      nextToken
      allTokens fuel

/-- The tokens of a text.  Every token takes at least one character, so the fuel suffices. -/
def tokens (text : List Char) : Except Refusal (Array Token) :=
  if !text.all isAllowed then .error .malformed
  else
    let start : Lexer := { rest := if text.head? == some '\ufeff' then text.drop 1 else text }
    match (allTokens (text.length + 1)).run start with
    | .ok (_, l) => .ok l.tokens
    | .error e => .error e

end Diorama.Yaml
