/-
# The world

A world is one run of the engine: the depot it draws from, every entity and every scene there
ever was, which scene is current, what is in the layers, and where the pointer is.  Entities and
scenes are known by their numbers, so that a thing is the same wherever it is kept.

There are four roles a scene can have.  A *scripted* scene plays a document, a *pong* scene a
game, a *plain* scene does nothing, and a *witness* has only some of the hooks of a scene and
notes when they are called.
-/
import Diorama.Compositor
import Diorama.Depot
import Diorama.Entity.Building
import Diorama.Input
import Diorama.Pong

namespace Diorama

/-! ## 1. What is in the layers -/

/-- What a marker does when it is drawn. -/
inductive Reaction where
  /-- It notes that it was drawn. -/
  | drawn
  /-- It cannot be drawn, and is passed over. -/
  | silent
  /-- Drawing it is a fault. -/
  | broken
  deriving Repr, DecidableEq

/-- A thing without a look, put into a layer from outside. -/
structure Marker where
  number : Nat
  name : String
  reaction : Reaction := .drawn
  deriving Repr, DecidableEq

/-- Something in a layer. -/
inductive Occupant where
  | entity (number : Nat)
  | scene (number : Nat)
  | marker (m : Marker)
  deriving Repr, DecidableEq

/-! ## 2. Scenes -/

/-- A scene that plays a document: where it is in the document, and what it keeps track of
(`ConfigurableScene`). -/
structure Script (α : Type) where
  spec : Option (SceneSpec α) := none
  /-- The number of the current state, and its name once the scene was entered. -/
  index : Nat := 0
  stateName : Option String := none
  /-- The time since the current state was entered. -/
  timer : α
  /-- The entities by the ids that the document gives them. -/
  ids : Table Nat := []
  /-- The buttons, in the order of their making. -/
  clickables : List Nat := []
  motions : Motions α := {}
  /-- How many times what is tracked was set up or dropped. -/
  activations : Nat := 0
  /-- Whether custom actions are answered. -/
  handlesCustom : Bool := false

/-- The entities of a game. -/
structure Pieces where
  player : Nat
  opponent : Nat
  ball : Nat
  board : Nat

/-- A game of Pong (`PongScene`).  Where things are is kept by their entities. -/
structure PongScene (α : Type) where
  court : Pong.Court α
  /-- The scene that the escape key leads to. -/
  escapeTo : Value α
  pieces : Option Pieces := none
  velX : α
  velY : α
  playerScore : Nat := 0
  opponentScore : Nat := 0

/-- What a witness asks for in an update. -/
inductive Wish where
  | stay
  | switchTo (name : String)
  | change (scene : Option Nat)
  deriving Repr, DecidableEq

/-- A scene that notes which of its hooks are called.  What it has under the name of a broken
hook cannot be called.  Its wishes are what it asks for in its updates, one after the other. -/
structure Witness where
  hooks : List Hook := []
  broken : List Hook := []
  wishes : List Wish := []

/-- What a scene is (`Scene`). -/
inductive Role (α : Type) where
  | plain
  | scripted (s : Script α)
  | pong (p : PongScene α)
  | witness (w : Witness)

/-- A scene with its name, whether it is bound to the engine, and whether it was set up (`Scene`).
-/
structure Scene (α : Type) where
  name : String
  bound : Bool := false
  started : Bool := false
  role : Role α

namespace Script

variable {α : Type}

/-- The states of the document. -/
def states (s : Script α) : List (StateSpec α) :=
  match s.spec with
  | some spec => spec.states
  | none => []

/-- The size of the canvas that the document is laid out for. -/
def canvas (s : Script α) : Int × Int :=
  match s.spec with
  | some spec => spec.canvas
  | none => standardCanvas

/-- The current state, if the document has as many (`ConfigurableScene.current_state`). -/
def state? (s : Script α) : Option (StateSpec α) := s.states[s.index]?

/-- Forgets all entities (`ConfigurableScene._drop_tracking`). -/
def dropTracking (s : Script α) : Script α :=
  { s with activations := s.activations + 1, ids := [], clickables := [], motions := {} }

end Script

namespace Scene

variable {α : Type} [Scalar α]

/-- A scripted scene without a document. -/
def scripted (name : String) (handlesCustom : Bool) : Scene α :=
  { name, role := .scripted { timer := 0.0, handlesCustom } }

/-- Gives a scripted scene a document and its name (`ConfigurableScene.load_from_config`). -/
def adopt (spec : SceneSpec α) (s : Scene α) : Scene α :=
  match s.role with
  | .scripted script =>
    { s with name := spec.name, role := .scripted { script with spec := some spec } }
  | _ => s

/-- A game on a court (`PongScene`). -/
def pong (name : String) (court : Pong.Court α) (escapeTo : Value α) : Scene α :=
  { name, role := .pong { court, escapeTo, velX := court.ballSpeed, velY := 0.0 } }

/-- Whether the scene has a hook. -/
def has (s : Scene α) (h : Hook) : Bool :=
  match s.role with
  | .witness w => w.hooks.contains h
  | _ => true

/-- The name of the current state, for a scene that has states
(`ConfigurableScene.get_current_state_name`). -/
def stateName? (s : Scene α) : Option String :=
  match s.role with
  | .scripted script => script.stateName
  | _ => none

end Scene

/-! ## 3. The world -/

/-- The parts of the engine that a scene may find missing. -/
inductive Part where
  | compositor | director | input | sounds | assets | lettering
  deriving Repr, DecidableEq

/-- A run of the engine (`Engine`). -/
structure World (α : Type) where
  depot : Depot α
  canvas : Surface
  window : Surface
  input : Input α
  entities : Array (Entity α) := #[]
  scenes : Array (Scene α) := #[]
  registry : Table Nat := []
  current : Option Nat := none
  compositor : Compositor Occupant := {}
  missing : List Part := []
  running : Bool := false
  showsOverlay : Bool := false

namespace World

variable {α : Type}

/-- Runs an act on the depot. -/
def onDepot {β : Type} (x : Act (Depot α) β) : Act (World α) β :=
  Act.zoom World.depot (fun depot w => { w with depot }) x

/-- Runs an act on the device. -/
def onDevice {β : Type} (x : Act (Device α) β) : Act (World α) β := onDepot (Depot.onDevice x)

instance : MonadLift (Act Log) (Act (World α)) where
  monadLift x := onDepot (liftM x)

/-- Whether the engine has a part. -/
def hasPart (w : World α) (p : Part) : Bool := !w.missing.contains p

/-- Stops unless the engine has a part. -/
def requirePart (p : Part) : Act (World α) Unit := do
  if !(← get).hasPart p then throw .absent

/-- The scene of a number. -/
def sceneAt (n : Nat) : Act (World α) (Scene α) := do
  match (← get).scenes[n]? with
  | some s => return s
  | none => throw .absent

/-- The script of a scripted scene. -/
def scriptAt (n : Nat) : Act (World α) (Script α) := do
  match (← sceneAt n).role with
  | .scripted s => return s
  | _ => throw .absent

def modifyScene (n : Nat) (f : Scene α → Scene α) : Act (World α) Unit :=
  modify fun w => { w with scenes := w.scenes.modify n f }

/-- Changes the script of a scripted scene. -/
def modifyScript (n : Nat) (f : Script α → Script α) : Act (World α) Unit :=
  modifyScene n fun s =>
    match s.role with
    | .scripted script => { s with role := .scripted (f script) }
    | _ => s

/-- Whether a scene can reach a part of the engine (`Scene.layer_manager`, `Scene.asset_loader` and
`Scene.audio_manager`). -/
def reaches (n : Nat) (p : Part) : Act (World α) Bool := do
  return (← sceneAt n).bound && (← get).hasPart p

/-- Binds a scene to the engine, or takes it off (`Scene.set_engine`). -/
def bind (n : Nat) (bound : Bool) : Act (World α) Unit := modifyScene n fun s => { s with bound }

/-- Prints a line in the name of a scene. -/
def sayFor (n : Nat) (line : String) : Act (World α) Unit := do
  say ("[" ++ (← sceneAt n).name ++ "] " ++ line)

/-- Makes an entity; the result is its number. -/
def addEntity (e : Entity α) : Act (World α) Nat :=
  modifyGet fun w => (w.entities.size, { w with entities := w.entities.push e })

/-- The entity of a number. -/
def entityAt (n : Nat) : Act (World α) (Entity α) := do
  match (← get).entities[n]? with
  | some e => return e
  | none => throw .absent

def modifyEntity (n : Nat) (f : Entity α → Entity α) : Act (World α) Unit :=
  modify fun w => { w with entities := w.entities.modify n f }

def modifyCompositor (f : Compositor Occupant → Compositor Occupant) : Act (World α) Unit :=
  modify fun w => { w with compositor := f w.compositor }

/-- Registers a scene under a name (`SceneManager.register`). -/
def register (name : String) (n : Nat) : Act (World α) Unit :=
  modify fun w => { w with registry := w.registry.put name n }

/-- Adds a scene; the result is its number. -/
def addScene (s : Scene α) : Act (World α) Nat :=
  modifyGet fun w => (w.scenes.size, { w with scenes := w.scenes.push s })

end World

end Diorama
