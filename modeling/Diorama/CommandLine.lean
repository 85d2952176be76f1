/-
# The command line

    scene-canvas [-h] [--scene SCENE] [--demo {pong}] [--debug]

A long option may be shortened as long as it stays unambiguous, and its value may be joined to it
by an equals sign.  All words are first told apart into options and values, which is where an
ambiguous option is found; then they are taken from left to right.  Words that no option takes
are reported together at the end.
-/
import Diorama.Text.Classes
import Diorama.Text.Quoted

namespace Diorama.CommandLine

/-! ## 1. Options -/

/-- The options there are. -/
inductive Flag where
  | help | scene | demo | debug
  deriving Repr, DecidableEq

namespace Flag

/-- The spellings of all options. -/
def spellings : List (String × Flag) := [
  ("-h", .help), ("--help", .help), ("--scene", .scene), ("--demo", .demo), ("--debug", .debug)]

/-- How an option is called in messages. -/
def name : Flag → String
  | .help => "-h/--help"
  | .scene => "--scene"
  | .demo => "--demo"
  | .debug => "--debug"

/-- Whether the option is followed by a value. -/
def takesValue : Flag → Bool
  | .scene | .demo => true
  | .help | .debug => false

end Flag

/-- The games that can be started. -/
def demos : List String := ["pong"]

/-- What the user asks for (`build_parser`). -/
structure Options where
  scene : Option String := none
  demo : Option String := none
  debug : Bool := false
  deriving Repr, DecidableEq

/-- What the command line amounts to. -/
inductive Request where
  | run (o : Options)
  | help
  deriving Repr, DecidableEq

/-- What is wrong with a command line. -/
inductive UsageError where
  | ambiguous (word : String) (spellings : List String)
  | missingValue (flag : Flag)
  | unwantedValue (flag : Flag) (value : String)
  | unknownDemo (value : String)
  | unrecognized (words : List String)
  deriving Repr, DecidableEq

def UsageError.message : UsageError → String
  | .ambiguous word spellings =>
    "ambiguous option: " ++ word ++ " could match " ++ ", ".intercalate spellings
  | .missingValue flag => "argument " ++ flag.name ++ ": expected one argument"
  | .unwantedValue flag value =>
    "argument " ++ flag.name ++ ": ignored explicit argument " ++ Text.quoted value
  | .unknownDemo value =>
    "argument --demo: invalid choice: " ++ Text.quoted value ++ " (choose from " ++
      ", ".intercalate (demos.map Text.quoted) ++ ")"
  | .unrecognized words => "unrecognized arguments: " ++ " ".intercalate words

/-! ## 2. Telling words apart -/

/-- What a word is. -/
inductive Word where
  /-- A value, or something that no option takes. -/
  | value (text : String)
  /-- The word after which there are only values. -/
  | separator
  /-- An option with the value that is joined to it, if any. -/
  | option (flag : Flag) (joined : Option String)
  /-- The option `-h` with further letters after it. -/
  | helpWith (letters : String)
  /-- An option that there is not. -/
  | unknown (text : String)
  deriving Repr, DecidableEq

/-- Splits at the first equals sign. -/
def splitEquals (cs : List Char) : List Char × Option (List Char) :=
  match cs.dropWhile (· != '=') with
  | [] => (cs, none)
  | _ :: value => (cs.takeWhile (· != '='), some value)

/-- A minus sign and digits, perhaps with a point before the last of them. -/
def isNegativeNumber : List Char → Bool
  | '-' :: cs =>
    let isDigit (c : Char) := (Text.digit? c).isSome
    match cs.dropWhile isDigit with
    | [] => !cs.isEmpty
    | '.' :: fraction => !fraction.isEmpty && fraction.all isDigit
    | _ => false
  | _ => false

/-- The spellings that a shortened long option may stand for. -/
def completions (start : String) : List (String × Flag) :=
  Flag.spellings.filter fun s => start.toList.isPrefixOf s.1.toList

/-- A word that starts like an option and is none in full: a shortened one, `-h` with more
letters, a negative number or a text with spaces, or an option that there is not. -/
def readUnlisted (word : String) (start : List Char) (joined : Option (List Char)) :
    Except UsageError Word :=
  match word.toList with
  | '-' :: '-' :: _ =>
    match completions (String.ofList start) with
    | [(_, flag)] => .ok (.option flag (joined.map String.ofList))
    | [] => if word.toList.contains ' ' then .ok (.value word) else .ok (.unknown word)
    | several => .error (.ambiguous word (several.map (·.1)))
  | '-' :: 'h' :: letters => .ok (.helpWith (String.ofList letters))
  | cs =>
    if isNegativeNumber cs || cs.contains ' ' then .ok (.value word) else .ok (.unknown word)

/-- What a word is, before the separator. -/
def readWord (word : String) : Except UsageError Word :=
  if word.toList.head? != some '-' || word == "-" then .ok (.value word)
  else
    match Flag.spellings.lookup word with
    | some flag => .ok (.option flag none)
    | none =>
      let (start, joined) := splitEquals word.toList
      match joined, Flag.spellings.lookup (String.ofList start) with
      | some value, some flag => .ok (.option flag (some (String.ofList value)))
      | _, _ => readUnlisted word start joined

/-- What the words are. -/
def readWords : List String → Except UsageError (List Word)
  | [] => .ok []
  | "--" :: rest => .ok (.separator :: rest.map .value)
  | word :: rest => do
    let w ← readWord word
    return w :: (← readWords rest)

/-! ## 3. Taking words -/

/-- Sets an option to its value. -/
def Options.set (o : Options) (flag : Flag) (value : String) : Except UsageError Options :=
  match flag with
  | .scene => .ok { o with scene := some value }
  | .demo =>
    if demos.contains value then .ok { o with demo := some value }
    else .error (.unknownDemo value)
  | .debug => .ok { o with debug := true }
  | .help => .ok o

/-- Ends the command line: what is left over is reported. -/
def finish (o : Options) (leftOver : List String) : Except UsageError Request :=
  if leftOver.isEmpty then .ok (.run o) else .error (.unrecognized leftOver.reverse)

/-- The letters after `-h` are options of their own, of which there is only `-h`. -/
def takeLetters : List Char → Except UsageError Request
  | '-' :: rest => .error (.unwantedValue .help (String.ofList ('-' :: rest)))
  | 'h' :: '=' :: value => .error (.unwantedValue .help (String.ofList value))
  | 'h' :: rest => takeLetters rest
  | _ => .ok .help

/-- Takes the words from left to right; `leftOver` holds those that no option took, in
reverse. -/
def take (o : Options) (leftOver : List String) : List Word → Except UsageError Request
  | [] => finish o leftOver
  | .value text :: rest => take o (text :: leftOver) rest
  | .separator :: rest => take o ("--" :: leftOver) rest
  | .unknown text :: rest => take o (text :: leftOver) rest
  | .helpWith letters :: _ => takeLetters letters.toList
  | .option .help none :: _ => .ok .help
  | .option .debug none :: rest => take { o with debug := true } leftOver rest
  | .option flag (some value) :: rest =>
    if flag.takesValue then do take (← o.set flag value) leftOver rest
    else .error (.unwantedValue flag value)
  | .option flag none :: .value text :: rest => do take (← o.set flag text) leftOver rest
  | .option flag none :: _ => .error (.missingValue flag)

/-- Reads a command line (`build_parser`). -/
def parse (words : List String) : Except UsageError Request := do
  take {} [] (← readWords words)

/-- The name under which the program reports. -/
def programName : String := "scene-canvas"

/-- How the program is called. -/
def usage : String :=
  "usage: " ++ programName ++ " [-h] [--scene SCENE] [--demo \x7bpong\x7d] [--debug]"

/-- The report of a wrong command line. -/
def UsageError.report (e : UsageError) : String := programName ++ ": error: " ++ e.message

end Diorama.CommandLine
