/-
# Reading YAML

`Yaml.read` turns a text with one YAML 1.1 document into a value.  A key `<<` brings in the
fields of the mappings it names, which the mapping's own fields override.

Sets, binary data, ordered mappings and anchors that hold themselves are left out: a document with
one of them is refused.  Nothing is proved from this reader; theorems about loading hold for every
decoder.
-/
import Diorama.Yaml.Node
import Diorama.Yaml.Plain

namespace Diorama.Yaml

variable {α : Type} [Scalar α]

/-- The kind that a full tag name asks for. -/
def namedKind? : String → Option Kind
  | "tag:yaml.org,2002:bool" => some .bool
  | "tag:yaml.org,2002:float" => some .float
  | "tag:yaml.org,2002:int" => some .int
  | "tag:yaml.org,2002:null" => some .null
  | "tag:yaml.org,2002:timestamp" => some .time
  | "tag:yaml.org,2002:str" => some .text
  | "tag:yaml.org,2002:merge" => some .merge
  | "tag:yaml.org,2002:value" => some .default
  | _ => none

/-- The kind of a scalar node. -/
def scalarKind? (text : String) : Tag → Option Kind
  | .implicit => some (kindOf text)
  | .quoted => some .text
  | .named name => namedKind? name

/-- Whether the tag of a list or a mapping is the usual one. -/
def isUsual (name : String) : Tag → Bool
  | .named n => n == name
  | _ => true

/-- Whether a node is the key that brings in other mappings. -/
def Node.isMerge : Node → Bool
  | .scalar tag text => scalarKind? text tag == some .merge
  | _ => false

mutual

/-- The value of a node. -/
def Node.value : Node → Except Refusal (Value α)
  | .scalar tag text =>
    match scalarKind? text tag with
    | some kind => kind.value text
    | none => .error .malformed
  | .list tag items =>
    if isUsual "tag:yaml.org,2002:seq" tag then do
      let vs ← itemValues items
      return .list vs
    else .error .malformed
  | .mapping tag fields =>
    if isUsual "tag:yaml.org,2002:map" tag then do
      let (merged, own) ← pairs fields
      return .map (Fields.ofPairs (merged ++ own))
    else .error .malformed

/-- The values of the items. -/
def itemValues : List Node → Except Refusal (List (Value α))
  | [] => .ok []
  | n :: rest => do
    let v ← n.value
    let vs ← itemValues rest
    return v :: vs

/-- The fields that a mapping brings in and its own ones. -/
def pairs : List (Node × Node) →
    Except Refusal (List (Value α × Value α) × List (Value α × Value α))
  | [] => .ok ([], [])
  | (k, v) :: rest => do
    if k.isMerge then
      let brought ← v.broughtIn
      let (merged, own) ← pairs rest
      return (brought ++ merged, own)
    else
      let key ← k.keyValue
      let value ← v.value
      let (merged, own) ← pairs rest
      return (merged, (key, value) :: own)

/-- The value of a key, which is no list and no mapping. -/
def Node.keyValue : Node → Except Refusal (Value α)
  | .scalar tag text =>
    match scalarKind? text tag with
    | some .default => .ok (.text text)
    | some kind => kind.value text
    | none => .error .malformed
  | _ => .error .malformed

/-- The fields that a merge key brings in from a mapping or from a list of mappings, of which
the first has the last word. -/
def Node.broughtIn : Node → Except Refusal (List (Value α × Value α))
  | .mapping _ fields => do
    let (merged, own) ← pairs fields
    return merged ++ own
  | .list _ items => broughtInByAll items
  | .scalar _ _ => .error .malformed

/-- The fields of all mappings of a list, the last mapping first. -/
def broughtInByAll : List Node → Except Refusal (List (Value α × Value α))
  | [] => .ok []
  | .mapping _ fields :: rest => do
    let (merged, own) ← pairs fields
    let later ← broughtInByAll rest
    return later ++ (merged ++ own)
  | _ :: _ => .error .malformed

end

/-- The value of the only document of a text. -/
def read (text : List Char) : Except Refusal (Value α) := do
  let ts ← tokens text
  let n ← Node.ofTokens? ts.toList
  n.value

end Diorama.Yaml
