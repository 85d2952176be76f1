/-
# What a scene document says

A scene is an ordered list of named states with the assets they use.  A state lists, layer by
layer, the entities it places; entities themselves stay raw mappings until they are built.
Targets of actions and transitions stay raw values, because what they name is looked up only
when they are used.
-/
import Diorama.Path
import Diorama.Table
import Diorama.Value.Number
import Diorama.Vocabulary

namespace Diorama

/-- The width and height that a scene has unless it says otherwise (`WIDTH` and `HEIGHT`). -/
def standardCanvas : Int × Int := (1080, 1920)

/-- How an entity is animated (`AnimationConfig`). -/
structure AnimationSpec (α : Type) where
  kind : AnimationKind
  duration : α
  delay : α
  easing : Easing
  side : Side

/-- What a click does (`ActionConfig`).  `params` is the whole mapping, for handlers of custom
actions. -/
structure ActionSpec (α : Type) where
  kind : ActionKind
  target : Value α := .null
  sound : Value α := .null
  params : Fields α := []

/-- When and where a state is left (`TransitionConfig`). -/
structure TransitionSpec (α : Type) where
  kind : TransitionKind
  duration : α
  nextState : Value α := .null
  nextScene : Value α := .null

/-- A state: its name, whether it starts from an empty canvas, and what it places (`StateConfig`).
-/
structure StateSpec (α : Type) where
  name : String
  clears : Bool := false
  layers : Table (List (Fields α)) := []
  transition : Option (TransitionSpec α) := none

/-- The assets of a scene: each entry is a path or a mapping (`AssetManifest`). -/
structure Manifest (α : Type) where
  images : List (Value α) := []
  audio : List (Value α) := []
  videos : List (Value α) := []

/-- A scene (`SceneConfig`). -/
structure SceneSpec (α : Type) where
  name : String := "ConfigurableScene"
  canvas : Int × Int := standardCanvas
  assets : Manifest α := {}
  states : List (StateSpec α) := []
  /-- The folder of the document, which asset paths are relative to. -/
  folder : Option String := none

variable {α : Type} [Scalar α]

/-- The id that an asset entry is listed under.  A path is listed by its file name without
extension. -/
def Manifest.idOf? : Value α → Option String
  | .map fields =>
    let v := Fields.get fields "id"
    if v.truthy then some v.plain else none
  | .text path => some (Path.stem path)
  | _ => none

/-- The ids of the images and the sounds, in order (`AssetManifest.ids`). -/
def Manifest.ids (m : Manifest α) : List String := (m.images ++ m.audio).filterMap Manifest.idOf?

/-- Whether the id of an asset entry can be written, if it has one of its own. -/
def Manifest.nameable : Value α → Bool
  | .map fields =>
    let v := Fields.get fields "id"
    !v.truthy || v.writable
  | _ => true

/-- The ids of the images and the sounds, or a fault where one of them is too long a number
(`AssetManifest.ids`). -/
def Manifest.writtenIds (m : Manifest α) : Except Fault (List String) :=
  if (m.images ++ m.audio).all Manifest.nameable then .ok m.ids else .error .notANumber

/-- The names of the states, in order (`SceneConfig.state_names`). -/
def SceneSpec.stateNames (s : SceneSpec α) : List String := s.states.map (·.name)

end Diorama
