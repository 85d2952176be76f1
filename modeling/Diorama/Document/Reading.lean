/-
# Reading a scene document

From a decoded value to a `SceneSpec`.  A document that leaves nothing to run is refused: one
that is no mapping, whose states are no list, or with a state that is no mapping or has no
name.  A number that is out of range is a fault too.  Every other mistake is reported in the
log and answered by a default or by leaving the part out.
-/
import Diorama.Document.Scene

namespace Diorama

variable {α : Type} [Scalar α]

/-- Reports a mistake in a document. -/
def warn (line : String) : Act Log Unit := say ("[SceneConfig] Warning: " ++ line)

/-- The number that a value stands for, or the default (`_as_float`). -/
def readNumber (what : String) (default : α) (v : Value α) : Act Log α :=
  if v.isNull then pure default
  else do
    match ← Act.ofExcept v.toScalar? with
    | some x => return x
    | none =>
      warn (what ++ " is not a number: " ++ (← Act.ofExcept v.shown))
      return default

/-- The fields of a mapping; nothing has none (`_as_mapping`). -/
def readMapping (what : String) : Value α → Act Log (Fields α)
  | .null => pure []
  | .map fields => pure fields
  | v => do
    warn (what ++ " is not a mapping, ignoring: " ++ (← Act.ofExcept v.shown))
    return []

/-- Whether a value can be an asset: a path or a mapping. -/
def isAssetEntry : Value α → Bool
  | .text _ | .map _ => true
  | _ => false

/-- The asset entries of a list (`_asset_entries`). -/
def readAssetEntries (what : String) : Value α → Act Log (List (Value α))
  | .null => pure []
  | .list items => do
    let entries := items.filter isAssetEntry
    if entries.length != items.length then
      warn ("skipped " ++ toString (items.length - entries.length) ++ " malformed " ++ what ++
        " entries")
    return entries
  | _ => do
    warn ("assets." ++ what ++ " is not a list, ignoring")
    return []

/-! ## 1. Animations, actions, transitions -/

/-- The animation of an entity (`parse_animation`). -/
def readAnimation : Value α → Act Log (Option (AnimationSpec α))
  | .map fields => do
    let type := Fields.get fields "type"
    match ← Vocabulary.choose "SceneConfig" "animation type" none (.value type) with
    | none =>
      if type.isNull then warn "animation without a type"
      return none
    | some kind =>
      let duration ← readNumber "animation duration" 1.0 (Fields.get fields "duration")
      let delay ← readNumber "animation delay" 0.0 (Fields.get fields "delay")
      let easing ← Vocabulary.chooseOr "SceneConfig" "easing" Easing.linear
        (Fields.get fields "easing")
      let side ← Vocabulary.chooseOr "SceneConfig" "slide direction" Side.top
        (Fields.get fields "direction")
      return some { kind, duration, delay, easing, side }
  | v => do
    warn ("animation is not a mapping: " ++ (← Act.ofExcept v.shown))
    return none

/-- What a click on a button does (`parse_action`). -/
def readAction : Value α → Act Log (Option (ActionSpec α))
  | .map fields => do
    let action := Fields.get fields "action"
    match ← Vocabulary.choose "SceneConfig" "click action" none (.value action) with
    | none =>
      if action.isNull then warn "onClick without an action"
      return none
    | some kind =>
      return some {
        kind
        target := Fields.get fields "target"
        sound := Fields.get fields "sound"
        params := fields }
  | v => do
    warn ("onClick is not a mapping: " ++ (← Act.ofExcept v.shown))
    return none

/-- When and where a state is left (`parse_transition`). -/
def readTransition : Value α → Act Log (Option (TransitionSpec α))
  | .null => pure none
  | .map fields => do
    match ← Vocabulary.choose "SceneConfig" "transition type" none
        (.value (Fields.get fields "type")) with
    | none => return none
    | some kind =>
      let d := Fields.get fields "duration"
      if d.isNull then
        warn "timer transition without a duration"
        return none
      else
        let duration ← readNumber "transition duration" 0.0 d
        return some {
          kind
          duration
          nextState := Fields.get fields "nextState"
          nextScene := Fields.get fields "nextScene" }
  | v => do
    warn ("transition is not a mapping: " ++ (← Act.ofExcept v.shown))
    return none

/-! ## 2. States -/

/-- The mappings among the items of a layer. -/
def entityConfigs (items : List (Value α)) : List (Fields α) :=
  items.filterMap fun
    | .map fields => some fields
    | _ => none

/-- The layers of a state, added to those read before (`parse_state`). -/
def readLayers (state : Value α) : Table (List (Fields α)) → Fields α →
    Act Log (Table (List (Fields α)))
  | layers, [] => pure layers
  | layers, (key, .list items) :: rest => do
    let name ← Act.ofExcept key.written
    readLayers state (layers.put name (entityConfigs items)) rest
  | layers, (key, _) :: rest => do
    let stateName ← Act.ofExcept state.written
    let name ← Act.ofExcept key.written
    warn ("state '" ++ stateName ++ "' layer '" ++ name ++ "' is not a list, ignoring")
    readLayers state layers rest

/-- The layers of a state, from the value that lists them (`parse_state`). -/
def readLayerTable (state : Value α) : Value α → Act Log (Table (List (Fields α)))
  | .map layers => readLayers state [] layers
  | v => do
    if v.truthy then
      warn ("state '" ++ (← Act.ofExcept state.written) ++ "' layers is not a mapping")
    return []

/-- A state of a scene; `index` counts the states from zero (`parse_state`). -/
def readState (index : Int) : Value α → Act Log (StateSpec α)
  | .map fields => do
    let name := Fields.get fields "name"
    if !name.truthy then throw (.document (.stateUnnamed index))
    let layers ← readLayerTable name (Fields.get fields "layers")
    -- the name becomes a text before the transition is looked at
    let stateName ← Act.ofExcept name.written
    let transition ← readTransition (Fields.get fields "transition")
    return { name := stateName, clears := (Fields.get fields "clearLayers").truthy,
             layers, transition }
  | _ => throw (.document (.stateNotMapping index))

/-- The states of a scene, counted from `index` (`parse_scene_config`). -/
def readStates (index : Nat) : List (Value α) → Act Log (List (StateSpec α))
  | [] => pure []
  | v :: rest => do
    let s ← readState index v
    let ss ← readStates (index + 1) rest
    return s :: ss

/-- Reports every state whose name an earlier one has (`parse_scene_config`). -/
def reportDuplicates (seen : List String) : List (StateSpec α) → Act Log Unit
  | [] => pure ()
  | s :: rest => do
    if seen.contains s.name then warn ("duplicate state name '" ++ s.name ++ "'")
    reportDuplicates (s.name :: seen) rest

/-! ## 3. Scenes -/

/-- A side of the canvas, without its fraction (`parse_scene_config`). -/
def readSide (what : String) (default : Int) (v : Value α) : Act Log Int := do
  let x ← readNumber what (Scalar.ofInt default) v
  Act.ofExcept (Scalar.whole x)

/-- The value of a key that may be left out, null, false, zero or empty (`parse_scene_config`). -/
def optionalList (v : Value α) : Act Log (List (Value α)) :=
  if !v.truthy then pure []
  else match v with
    | .list items => pure items
    | _ => throw (.document .statesNotList)

/-- A scene document (`parse_scene_config`). -/
def readScene (folder : Option String) : Value α → Act Log (SceneSpec α)
  | .map fields => do
    let canvas ← readMapping "canvasSize" (Fields.get fields "canvasSize")
    let width ← readSide "canvas width" standardCanvas.1 (Fields.get canvas "width")
    let height ← readSide "canvas height" standardCanvas.2 (Fields.get canvas "height")
    let assets ← readMapping "assets" (Fields.get fields "assets")
    let images ← readAssetEntries "images" (Fields.get assets "images")
    let audio ← readAssetEntries "audio" (Fields.get assets "audio")
    let videos ← readAssetEntries "videos" (Fields.get assets "videos")
    let raw ← optionalList (Fields.get fields "states")
    let states ← readStates 0 raw
    reportDuplicates [] states
    let name ← Act.ofExcept
      ((Fields.get fields "sceneName").orElse (.text "ConfigurableScene")).written
    return {
      name
      canvas := (width, height)
      assets := { images, audio, videos }
      states
      folder }
  | _ => throw (.document .notMapping)

end Diorama
