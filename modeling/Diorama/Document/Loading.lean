/-
# Loading a scene document from a file

The extension decides the format: `.yaml` and `.yml`, in any case, are YAML, all else is JSON.
A file must be UTF-8 text; line breaks of every convention count as one character.

What value a text spells is for a `Decoder` to say.  It may refuse a text as malformed, which is
reported, or stop with a fault of its own: a number of too many digits, a tag without a meaning,
a nesting that is too deep for it (`json.load` and `yaml.safe_load` do all three).  It may also put
characters of its own in place of halves of surrogate pairs, which no text here can hold.  Nothing is
assumed about decoders where something is proved about loading, so it holds for every one of them;
`Decoder.standard` is the one that runs.
-/
import Diorama.Document.Reading
import Diorama.Files
import Diorama.Json.Reader
import Diorama.Text.LowerCase
import Diorama.Yaml.Reader

namespace Diorama

variable {α : Type} [Scalar α]

/-- Makes every line break a line feed. -/
def unifyBreaks : List Char → List Char
  | '\r' :: '\n' :: rest => '\n' :: unifyBreaks rest
  | '\r' :: rest => '\n' :: unifyBreaks rest
  | c :: rest => c :: unifyBreaks rest
  | [] => []

/-- Whether a path names a YAML file (`load_scene_config`). -/
def isYamlPath (path : String) : Bool :=
  let e := Text.lower (Path.extension path)
  e == ".yaml" || e == ".yml"

/-- The formats that a document can be in. -/
inductive Format where
  | json | yaml
  deriving Repr, DecidableEq

/-- Why a decoder gives no value. -/
inductive Unread where
  /-- The text is not in its format; the reason may be known. -/
  | malformed (reason : Option String)
  /-- The decoder stopped for another reason. -/
  | stopped (fault : Fault)

/-- What gives the value that a text spells in a format. -/
abbrev Decoder (α : Type) := Format → List Char → Except Unread (Value α)

/-- The decoder that the program comes with.  It takes texts nested to any depth, and in JSON half
a surrogate pair stands for the replacement character. -/
def Decoder.standard : Decoder α
  | .json, text =>
    match Json.read text with
    | .ok v => .ok v
    | .error (.mistake problem position) =>
      .error (.malformed (some (Json.describe text problem position)))
    | .error .tooManyDigits => .error (.stopped .notANumber)
  | .yaml, text =>
    match Yaml.read text with
    | .ok v => .ok v
    | .error .malformed => .error (.malformed none)
    | .error .badNumber => .error (.stopped .notANumber)
    | .error .noMeaning => .error (.stopped .absent)

/-- The format that a path promises (`load_scene_config`). -/
def formatOf (path : String) : Format := if isYamlPath path then .yaml else .json

/-- The value that a text spells in the format that its path promises (`load_scene_config`). -/
def decode (decoder : Decoder α) (path : String) (text : List Char) : Except Fault (Value α) :=
  match decoder (formatOf path) text with
  | .ok v => .ok v
  | .error (.malformed reason) => .error (.document (.unreadable path reason))
  | .error (.stopped fault) => .error fault

/-- The characters of a file (`load_scene_config`). -/
def readText (files : Files) (path : String) : Except Fault (List Char) := do
  let bytes ← files.read path
  match String.fromUTF8? bytes with
  | some s => return unifyBreaks s.toList
  | none => .error .notText

/-- The scene at a path (`load_scene_config`). -/
def loadScene (files : Files) (path : String) (decoder : Decoder α := .standard) :
    Act Log (SceneSpec α) := do
  let path := Path.tidy path
  let text ← Act.ofExcept (readText files path)
  let v ← Act.ofExcept (decode decoder path text)
  readScene (some (Path.parent path)) v

end Diorama
