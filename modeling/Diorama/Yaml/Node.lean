/-
# The nodes of a YAML document

A document is one node: a scalar, a list or a mapping, each with a tag.  An alias stands for a
copy of the node it names, so no names are left in the result.

`Node.ofTokens?` reads the only document of a token list; no document at all is an empty
scalar, and a second one is refused.
-/
import Diorama.Yaml.Lexer

namespace Diorama.Yaml

/-- What a tag says: nothing, a kind to be found from the text, or a name. -/
inductive Tag where
  /-- The kind follows from the shape and, for a scalar without quotes, from its text. -/
  | implicit
  /-- A text, whatever it says. -/
  | quoted
  | named (name : String)
  deriving Repr, DecidableEq

/-- A node of a document. -/
inductive Node where
  | scalar (tag : Tag) (text : String)
  | list (tag : Tag) (items : List Node)
  | mapping (tag : Tag) (fields : List (Node × Node))

/-- An empty scalar. -/
def Node.empty : Node := .scalar .implicit ""

instance : Inhabited Node := ⟨Node.empty⟩

/-- What is known while nodes are read: the tokens left, the tag names and the nodes with an
anchor. -/
structure Reading where
  tokens : List Token
  handles : List (String × String)
  anchors : List (String × Node) := []

/-- A step of reading nodes. -/
abbrev Read := StateT Reading (Except Refusal)

namespace Read

def fail {β : Type} : Read β := throw .malformed

def ahead : Read (Option Token) := return (← get).tokens.head?

def skip : Read Unit := modify fun r => { r with tokens := r.tokens.drop 1 }

/-- Whether one of the tokens, or the end, comes next. -/
def nextIs (ts : List Token) : Read Bool := do
  match ← ahead with
  | none => return false
  | some t => return ts.contains t

/-- Moves over the token if it comes next. -/
def accept (t : Token) : Read Bool := do
  if (← ahead) == some t then skip; return true else return false

end Read

open Read

/-- The names that tags start with unless a directive says otherwise. -/
def standardHandles : List (String × String) :=
  [("!", "!"), ("!!", "tag:yaml.org,2002:")]

/-- The tag of a node, with its start looked up. -/
def resolveHandle (handle : Option String) (suffix : String) : Read String := do
  match handle with
  | none => return suffix
  | some h =>
    match (← get).handles.lookup h with
    | some value => return value ++ suffix
    | none => fail

/-- The anchor and the tag in front of a node, in either order, each at most once. -/
def properties : Read (Option String × Option String) := do
  match ← ahead with
  | some (.anchor a) =>
    skip
    match ← ahead with
    | some (.tag handle suffix) => skip; return (some a, some (← resolveHandle handle suffix))
    | _ => return (some a, none)
  | some (.tag handle suffix) =>
    skip
    let anchor ← match ← ahead with
      | some (.anchor a) => skip; pure (some a)
      | _ => pure none
    return (anchor, some (← resolveHandle handle suffix))
  | _ => return (none, none)

/-- The tag of a collection or an empty scalar; a lone exclamation mark says nothing. -/
def plainTag : Option String → Tag
  | none | some "!" => .implicit
  | some name => .named name

/-- The tag of a written scalar. -/
def scalarTag (plain : Bool) : Option String → Tag
  | none => if plain then .implicit else .quoted
  | some "!" => .implicit
  | some name => .named name

/-- Where a node stands: only outside brackets may it be a block, and only after a key may a
list start without being further right than the key. -/
inductive Place where
  | block
  | afterKey
  | flow
  deriving DecidableEq

mutual

/-- A node.  The fuel bounds the tokens left. -/
def node : Nat → Place → Read Node
  | 0, _ => fail
  | fuel + 1, place => do
    match ← ahead with
    | some (.alias name) =>
      skip
      match (← get).anchors.lookup name with
      | some n => return n
      | none => fail
    | _ =>
      let (anchor, tag) ← properties
      let n ← content fuel place anchor.isSome tag
      if let some a := anchor then
        if ((← get).anchors.lookup a).isSome then fail
        modify fun r => { r with anchors := r.anchors ++ [(a, n)] }
      return n

/-- A node after its anchor and tag.  `anchored` says whether it has an anchor. -/
def content : Nat → Place → Bool → Option String → Read Node
  | 0, _, _, _ => fail
  | fuel + 1, place, anchored, tag => do
    match ← ahead with
    | some (.scalar text plain) => skip; return .scalar (scalarTag plain tag) text
    | some .flowListStart => skip; return .list (plainTag tag) (← flowItems fuel true)
    | some .flowMappingStart => skip; return .mapping (plainTag tag) (← flowFields fuel true)
    | some .blockEntry =>
      if place == .afterKey then return .list (plainTag tag) (← sameColumnItems fuel)
      else if anchored || tag.isSome then return .scalar (plainTag tag) ""
      else fail
    | some .blockList =>
      if place == .flow then emptyOrFail anchored tag
      else skip; return .list (plainTag tag) (← blockItems fuel)
    | some .blockMapping =>
      if place == .flow then emptyOrFail anchored tag
      else skip; return .mapping (plainTag tag) (← blockFields fuel)
    | _ => emptyOrFail anchored tag

/-- An empty scalar, which needs an anchor or a tag. -/
def emptyOrFail (anchored : Bool) (tag : Option String) : Read Node :=
  if anchored || tag.isSome then return .scalar (plainTag tag) "" else fail

/-- The items of a list that is further right than what holds it. -/
def blockItems : Nat → Read (List Node)
  | 0 => fail
  | fuel + 1 => do
    if ← accept .blockEntry then
      let n ← if ← nextIs [.blockEntry, .blockEnd] then pure Node.empty else node fuel .block
      return n :: (← blockItems fuel)
    else if ← accept .blockEnd then return []
    else fail

/-- The items of a list at the column of its key. -/
def sameColumnItems : Nat → Read (List Node)
  | 0 => fail
  | fuel + 1 => do
    if ← accept .blockEntry then
      let n ← if ← nextIs [.blockEntry, .key, .value, .blockEnd] then pure Node.empty
        else node fuel .block
      return n :: (← sameColumnItems fuel)
    else return []

/-- A key or a value of a block mapping. -/
def blockPart : Nat → Read Node
  | 0 => fail
  | fuel + 1 => do
    if ← nextIs [.key, .value, .blockEnd] then return Node.empty else node fuel .afterKey

/-- The keys and values of a block mapping. -/
def blockFields : Nat → Read (List (Node × Node))
  | 0 => fail
  | fuel + 1 => do
    if ← accept .blockEnd then return []
    else if ← accept .key then
      let k ← blockPart fuel
      let v ← if ← accept .value then blockPart fuel else pure Node.empty
      return (k, v) :: (← blockFields fuel)
    else fail

/-- The items of a list between brackets. -/
def flowItems : Nat → Bool → Read (List Node)
  | 0, _ => fail
  | fuel + 1, first => do
    if ← accept .flowListEnd then return []
    else
      if !first then
        if !(← accept .flowEntry) then fail
      if ← accept .key then
        let k ← flowPart fuel
        let v ← if ← accept .value then flowPart fuel else pure Node.empty
        return .mapping .implicit [(k, v)] :: (← flowItems fuel false)
      else if ← accept .flowListEnd then return []
      else
        let n ← node fuel .flow
        return n :: (← flowItems fuel false)

/-- A key or a value between brackets. -/
def flowPart : Nat → Read Node
  | 0 => fail
  | fuel + 1 => do
    if ← nextIs [.value, .flowEntry, .flowListEnd, .flowMappingEnd] then return Node.empty
    else node fuel .flow

/-- The keys and values of a mapping between braces. -/
def flowFields : Nat → Bool → Read (List (Node × Node))
  | 0, _ => fail
  | fuel + 1, first => do
    if ← accept .flowMappingEnd then return []
    else
      if !first then
        if !(← accept .flowEntry) then fail
      if ← accept .key then
        let k ← flowPart fuel
        let v ← if ← accept .value then flowPart fuel else pure Node.empty
        return (k, v) :: (← flowFields fuel false)
      else if ← accept .flowMappingEnd then return []
      else
        let k ← node fuel .flow
        return (k, Node.empty) :: (← flowFields fuel false)

end

/-- The directives before a document: one version, which must be 1, and each tag name once. -/
def directives : List Token → Bool → List (String × String) →
    Except Refusal (List (String × String) × List Token)
  | .version major :: rest, seen, handles =>
    if seen || major != 1 then .error .malformed else directives rest true handles
  | .tagHandle handle value :: rest, seen, handles =>
    if (handles.lookup handle).isSome then .error .malformed
    else directives rest seen (handles ++ [(handle, value)])
  | .unknownDirective :: rest, seen, handles => directives rest seen handles
  | rest, _, handles => .ok (handles ++ standardHandles, rest)

/-- Whether a token cannot belong to the content of a document. -/
def betweenDocuments : Token → Bool
  | .version _ | .tagHandle _ _ | .unknownDirective | .documentStart | .documentEnd => true
  | _ => false

/-- The root node of a document, after its start. -/
def rootNode : Read Node := do
  match ← ahead with
  | none => return Node.empty
  | some t =>
    if betweenDocuments t then return Node.empty
    else node (8 * (← get).tokens.length + 8) .block

/-- The only document of the tokens. -/
def Node.ofTokens? (tokens : List Token) : Except Refusal Node := do
  let implicit := match tokens with
    | [] => true
    | .documentEnd :: _ => true
    | t :: _ => !betweenDocuments t
  let (n, r) ←
    if tokens.isEmpty then pure (Node.empty, ⟨[], [], []⟩)
    else if implicit then
      (node (8 * tokens.length + 8) .block).run ⟨tokens, standardHandles, []⟩
    else
      let (handles, rest) ← directives tokens false []
      match rest with
      | .documentStart :: rest => rootNode.run ⟨rest, handles, []⟩
      | _ => .error .malformed
  if r.tokens.all (· == .documentEnd) then return n else .error .malformed

end Diorama.Yaml
