/-
# Changing scenes

The director knows the registered scenes and which one is current, and it is the only one to
change it.  A change has a fixed order: the old scene leaves, the new one is bound to the engine,
the canvas is emptied, the new scene becomes current, is entered, and places what it shows.  So
nothing of the old scene is ever seen on top of the new one.

A scene without one of the hooks is simply not called at that moment.
-/
import Diorama.World.Activation
import Diorama.World.Court

namespace Diorama.World

variable {α : Type} [Scalar α] [Host α]

/-! ## 1. The hooks -/

/-- Notes that a hook of a witness was called; at some moments it sees how much the layers hold,
if it is bound to the engine. -/
def witness (n : Nat) (hook : Hook) (counts : Bool) (dt : Option α) : Act (World α) Unit := do
  let s ← sceneAt n
  let w ← get
  let held := if counts && s.bound then some w.compositor.size else none
  onDevice (Device.call (.called s.name hook held dt))

/-- Sets a scene up, the first time it is entered (`Scene.init`). -/
def setUp (n : Nat) : Act (World α) Unit := do
  match (← sceneAt n).role with
  | .scripted _ => preload n
  | .pong _ => setUpPong n
  | _ => pure ()

/-- Sets a scene up unless that was done (`Scene.enter`). -/
def start (n : Nat) : Act (World α) Unit := do
  if !(← sceneAt n).started then
    setUp n
    modifyScene n fun s => { s with started := true }

/-- Binds a scene to the engine (`Scene.set_engine`). -/
def callBind (n : Nat) : Act (World α) Unit := do
  bind n true
  match (← sceneAt n).role with
  | .witness _ => witness n .bind false none
  | _ => pure ()

/-- Enters a scene (`Scene.enter`). -/
def callEnter (n : Nat) : Act (World α) Unit := do
  match (← sceneAt n).role with
  | .witness _ => witness n .enter true none
  | .plain => start n
  | .scripted _ => do
    start n
    enterScript n
  | .pong _ => do
    start n
    enterPong n

/-- Lets a scene place what it shows (`Scene.populate_layers`).  A witness shows itself. -/
def callPopulate (n : Nat) : Act (World α) Unit := do
  match (← sceneAt n).role with
  | .witness _ => do
    witness n .populate true none
    if (← sceneAt n).bound then modifyCompositor (·.add (.scene n) .sprites)
  | .plain => pure ()
  | .scripted _ => populateScript n
  | .pong _ => populatePong n

/-- Lets a scene go (`Scene.exit`). -/
def callLeave (n : Nat) : Act (World α) Unit := do
  match (← sceneAt n).role with
  | .witness _ => witness n .leave true none
  | .scripted _ => leaveScript n
  | .plain | .pong _ => pure ()

/-- Shows a scene an event; only witnesses look at it (`Scene.handle_event`). -/
def callEvent (n : Nat) : Act (World α) Unit := do
  match (← sceneAt n).role with
  | .witness _ => witness n .event false none
  | _ => pure ()

/-- Calls a hook of a scene that has it. -/
def ifHas (n : Nat) (hook : Hook) (x : Act (World α) Unit) : Act (World α) Unit := do
  if (← sceneAt n).has hook then x

/-! ## 2. Changing -/

/-- Lets the current scene go, if there is one (`SceneManager.change_scene`). -/
def dismiss : Act (World α) Unit := do
  match (← get).current with
  | some old => ifHas old .leave (callLeave old)
  | none => pure ()

/-- Binds the scene that comes next, if one does (`SceneManager.change_scene`). -/
def bindNext : Option Nat → Act (World α) Unit
  | some n => ifHas n .bind (callBind n)
  | none => pure ()

/-- Empties the canvas for the next scene, which is the current one from now on
(`SceneManager.change_scene`). -/
def handOver (next : Option Nat) : Act (World α) Unit := do
  requirePart .compositor
  modifyCompositor (·.clearAll)
  modify fun w => { w with current := next }

/-- Lets the new scene enter and place what it shows (`SceneManager.change_scene`). -/
def bringUp : Option Nat → Act (World α) Unit
  | some n => do
    ifHas n .enter (callEnter n)
    ifHas n .populate (callPopulate n)
  | none => pure ()

/-- Makes a scene the current one, or none (`SceneManager.change_scene`). -/
def changeScene (next : Option Nat) : Act (World α) Unit := do
  dismiss
  bindNext next
  handOver next
  bringUp next

/-- The scene registered under a name (`SceneManager.get`). -/
def registered? (name : Value α) : Act (World α) (Option Nat) := do
  let key ← Act.ofExcept name.nameKey
  let w ← get
  return key.bind fun key => w.registry.lookup key

/-- Changes to the scene registered under a name; an unknown name is reported and changes nothing
(`SceneManager.switch_to`). -/
def switchTo (name : Value α) : Act (World α) Unit := do
  match ← registered? name with
  | some n => changeScene (some n)
  | none =>
    say ("[SceneManager] Warning: scene '" ++ (← Act.ofExcept name.written) ++
      "' not registered")

/-- Lets a scene ask for another; without a director that is reported (`Scene.switch_scene`). -/
def switchScene (n : Nat) (name : Value α) : Act (World α) Unit := do
  if ← reaches n .director then switchTo name
  else
    sayFor n ("Warning: no scene manager to switch to '" ++ (← Act.ofExcept name.written) ++ "'")

end Diorama.World
