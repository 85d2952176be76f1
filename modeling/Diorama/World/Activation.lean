/-
# Activating a state

A state is activated by emptying the canvas if it says so and building everything it lists, layer
by layer.  An entity is built, put into its layer, recorded under its id, listed if it is a
button, and set to the start of its animation, in this order; so a fault in one of these leaves
what came before it in place.

Entities under an unknown layer name are not built at all.
-/
import Diorama.World

namespace Diorama.World

variable {α : Type} [Scalar α] [Host α]

/-! ## 1. Placing entities -/

/-- What a scene builds its entities with (`ConfigurableScene._entity_factory`). -/
def workshopOf (n : Nat) : Act (World α) Workshop := do
  let w ← get
  let assets ← reaches n .assets
  let lettering ← reaches n .lettering
  return {
    image? := if assets then some w.depot.image? else none
    lettering := if lettering then .engine else .everyone }

/-- Records an entity under the id that its description gives it (`ConfigurableScene._setup_state`).
-/
def recordId (n : Nat) (fields : Fields α) (e : Nat) : Act (World α) Unit := do
  let id := Fields.get fields "id"
  if id.truthy then
    let name ← Act.ofExcept id.written
    modifyScript n fun s => { s with ids := s.ids.put name e }

/-- Lists an entity if it is a button (`ConfigurableScene._setup_state`). -/
def recordButton (n e : Nat) : Act (World α) Unit := do
  if (← entityAt e).isButton then
    modifyScript n fun s => { s with clickables := s.clickables ++ [e] }

/-- The size of the canvas in scalars. -/
def canvasOf (s : Script α) : α × α := (Scalar.ofInt s.canvas.1, Scalar.ofInt s.canvas.2)

/-- Starts an animation on an entity (`Animator.attach`). -/
def attach (n e : Nat) (spec : AnimationSpec α) : Act (World α) Unit := do
  let s ← scriptAt n
  let (motions, entities) := s.motions.attach e spec (canvasOf s) (← get).entities
  modify fun w => { w with entities }
  modifyScript n fun s => { s with motions }

/-- Starts the animation that a description asks for (`ConfigurableScene._setup_state`). -/
def attachDescribed (n : Nat) (fields : Fields α) (e : Nat) : Act (World α) Unit := do
  let v := Fields.get fields "animation"
  if !v.isNull then
    match ← readAnimation v with
    | some spec => attach n e spec
    | none => pure ()

/-- Puts an entity into a layer, if its scene can reach the compositor
(`ConfigurableScene._setup_state`). -/
def putInLayer (n e : Nat) (layer : Layer) : Act (World α) Unit := do
  if ← reaches n .compositor then modifyCompositor (·.add (.entity e) layer)

/-- Builds an entity and places it in a layer (`ConfigurableScene._setup_state`). -/
def placeEntity (n : Nat) (layer : Layer) (fields : Fields α) : Act (World α) Unit := do
  let built ← (← workshopOf n).build fields
  match built with
  | none => pure ()
  | some entity =>
    let e ← addEntity entity
    putInLayer n e layer
    recordId n fields e
    recordButton n e
    attachDescribed n fields e

/-- Places the entities of a layer, if it is a layer (`ConfigurableScene._setup_state`). -/
def placeLayer (n : Nat) (state name : String) (fields : List (Fields α)) :
    Act (World α) Unit := do
  match (Vocabulary.ofWord? name : Option Layer) with
  | some layer => fields.forM (placeEntity n layer)
  | none =>
    sayFor n ("Warning: state '" ++ state ++ "' uses unknown layer '" ++ name ++
      "', skipping " ++ toString fields.length ++ " entities")

/-! ## 2. Activating -/

/-- Empties the canvas and forgets what was tracked (`ConfigurableScene._setup_state`). -/
def clearStage (n : Nat) : Act (World α) Unit := do
  if ← reaches n .compositor then modifyCompositor (·.clearAll)
  modifyScript n (·.dropTracking)

/-- Places everything that a state lists (`ConfigurableScene._setup_state`). -/
def placeState (n : Nat) (state : StateSpec α) : Act (World α) Unit :=
  state.layers.forM fun (name, fields) => placeLayer n state.name name fields

/-- Activates a state of a scene (`ConfigurableScene._setup_state`). -/
def activate (n : Nat) (state : StateSpec α) : Act (World α) Unit := do
  modifyScript n fun s => { s with activations := s.activations + 1 }
  if state.clears then clearStage n
  placeState n state

/-- Switches a scene to the first of its states with a name; an unknown name is reported and changes
nothing (`ConfigurableScene.switch_to_state`). -/
def switchToState (n : Nat) (name : Value α) : Act (World α) Unit := do
  let s ← scriptAt n
  match s.states.findIdx? fun state => name.isText state.name with
  | none => sayFor n ("Warning: state not found: " ++ (← Act.ofExcept name.written))
  | some index =>
    let stateName ← Act.ofExcept name.written
    sayFor n ("Switching to state: " ++ stateName)
    modifyScript n fun s => { s with index, stateName := some stateName, timer := 0.0 }
    match s.states[index]? with
    | some state => activate n state
    | none => pure ()

/-! ## 3. Coming and going -/

/-- Loads the assets of a document (`ConfigurableScene.init`). -/
def preload (n : Nat) : Act (World α) Unit := do
  match (← scriptAt n).spec with
  | none => sayFor n "Warning: no config loaded"
  | some spec =>
    if !(← reaches n .assets) then
      sayFor n "Warning: no asset loader, skipping preload"
    else
      let images ← onDepot (Depot.loadImages spec.folder spec.assets.images)
      let sounds ← onDepot (Depot.loadSounds spec.folder spec.assets.audio)
      if !spec.assets.videos.isEmpty then
        sayFor n ("Skipping " ++ toString spec.assets.videos.length ++
          " video asset(s): not supported")
      sayFor n ("Assets loaded: images=" ++ toString images.length ++ " audio=" ++
        toString sounds.length)

/-- Enters the first state of a scripted scene (`ConfigurableScene.enter`). -/
def enterScript (n : Nat) : Act (World α) Unit := do
  modifyScript n fun s => { s with index := 0, timer := 0.0 }
  match (← scriptAt n).states with
  | [] => pure ()
  | first :: _ =>
    modifyScript n fun s => { s with stateName := some first.name }
    sayFor n ("Entering state: " ++ first.name)

/-- Places what the first state lists (`ConfigurableScene.populate_layers`). -/
def populateScript (n : Nat) : Act (World α) Unit := do
  match (← scriptAt n).states with
  | [] => pure ()
  | first :: _ => activate n first

/-- Gives the assets of a document back; they are loaded again when the scene is entered again
(`ConfigurableScene.exit`). -/
def giveBack (n : Nat) : Act (World α) Unit := do
  match (← scriptAt n).spec with
  | none => pure ()
  | some spec =>
    if ← reaches n .assets then
      let ids ← Act.ofExcept spec.assets.writtenIds
      if !ids.isEmpty then
        onDepot (Depot.unloadAssets ids)
        modifyScene n fun s => { s with started := false }

/-- Forgets what was tracked and gives the assets back (`ConfigurableScene.exit`). -/
def leaveScript (n : Nat) : Act (World α) Unit := do
  modifyScript n (·.dropTracking)
  giveBack n

end Diorama.World
