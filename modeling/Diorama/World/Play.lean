/-
# A scene in time

In an update of a scripted scene its timer and its animations move on, then a fresh press of the
pointer is offered to the buttons in the order of their making, then a timer transition fires if
it is due.  As soon as an action has set up or dropped what is tracked, the rest of the update is
about things that are gone, and is left out.
-/
import Diorama.World.Director

namespace Diorama.World

variable {α : Type} [Scalar α] [Host α]

/-! ## 1. Actions -/

/-- Answers a custom action: it is noted, and may name a state to go to. -/
def answerCustom (n : Nat) (params : Fields α) : Act (World α) Unit := do
  onDevice (Device.call (.custom params))
  match Fields.lookup params "goto" with
  | some state => switchToState n state
  | none => pure ()

/-- Does what a button asks for (`ConfigurableScene._handle_button_action`). -/
def perform (n : Nat) (action : ActionSpec α) : Act (World α) Unit := do
  sayFor n ("Button action: " ++ Vocabulary.word action.kind)
  match action.kind with
  | .switchScene => if action.target.truthy then switchScene n action.target
  | .switchState => if action.target.truthy then switchToState n action.target
  | .playSound =>
    if action.sound.truthy then
      if ← reaches n .sounds then
        let _ ← onDepot (Depot.playSound action.sound .null)
  | .custom =>
    if (← scriptAt n).handlesCustom then answerCustom n action.params
    else sayFor n ("Custom action: " ++ (← Act.ofExcept (Value.map action.params).shown))

/-- Offers a press to one entity (`ConfigurableScene._handle_clicks`). -/
def click (n e : Nat) (x y : α) : Act (World α) Unit := do
  match ← Act.ofExcept ((← entityAt e).clicked? x y) with
  | some action => perform n action
  | none => pure ()

/-- Offers a press to entities, one after the other, for as long as nothing is activated; the result
is whether something was (`ConfigurableScene._handle_clicks`). -/
def clickAll (n : Nat) (x y : α) (activations : Nat) : List Nat → Act (World α) Bool
  | [] => pure false
  | e :: rest => do
    click n e x y
    if (← scriptAt n).activations != activations then return true
    clickAll n x y activations rest

/-! ## 2. Transitions -/

/-- Leaves a state as its transition says (`ConfigurableScene._handle_transition`). -/
def follow (n : Nat) (t : TransitionSpec α) : Act (World α) Unit :=
  if t.nextScene.truthy then switchScene n t.nextScene
  else if t.nextState.truthy then switchToState n t.nextState
  else pure ()

/-- Follows a transition that is due (`ConfigurableScene.update`). -/
def followIfDue (n : Nat) (state : StateSpec α) : Act (World α) Unit := do
  match state.transition with
  | some t =>
    match t.kind with
    | .timer => if Scalar.le t.duration (← scriptAt n).timer then follow n t
  | none => pure ()

/-! ## 3. Updates -/

/-- Lets time pass for the timer and the animations; what has moved before a fault stays moved
(`ConfigurableScene.update`). -/
def advance (n : Nat) (dt : α) : Act (World α) Unit := do
  modifyScript n fun s => { s with timer := s.timer + dt }
  let s ← scriptAt n
  let (motions, entities, done) := s.motions.advance dt (← get).entities
  modify fun w => { w with entities }
  modifyScript n fun s => { s with motions }
  Act.ofExcept done

/-- The pointer, if it was freshly pressed and the scene can reach it. -/
def freshPress? (n : Nat) : Act (World α) (Option (Pointer α)) := do
  let w ← get
  if ← reaches n .input then
    return if w.input.pointer.pressed then some w.input.pointer else none
  return none

/-- Offers a fresh press to the buttons; the result is whether something was activated
(`ConfigurableScene._handle_clicks`). -/
def dispatch (n : Nat) : Act (World α) Bool := do
  match ← freshPress? n with
  | none => return false
  | some p =>
    let s ← scriptAt n
    clickAll n p.x p.y s.activations s.clickables

/-- Lets time pass in a scripted scene (`ConfigurableScene.update`). -/
def updateScript (n : Nat) (dt : α) : Act (World α) Unit := do
  match (← scriptAt n).state? with
  | none => pure ()
  | some state =>
    advance n dt
    if !(← dispatch n) then followIfDue n state

/-- Lets time pass in a game, unless the escape key is down (`PongScene.update`). -/
def updatePong (n : Nat) (dt : α) : Act (World α) Unit := do
  let w ← get
  if (← reaches n .input) && w.input.isDown [Key.escape] then
    switchScene n (← pongAt n).escapeTo
  else stepPong n dt

/-- Gives a witness what it asks for. -/
def grant (wish : Wish) : Act (World α) Unit :=
  match wish with
  | .stay => pure ()
  | .switchTo name => switchTo (.text name)
  | .change scene => changeScene scene

/-- Takes the next wish of a witness. -/
def nextWish (n : Nat) (w : Witness) : Act (World α) Wish := do
  match w.wishes with
  | [] => return .stay
  | wish :: wishes =>
    modifyScene n fun s => { s with role := .witness { w with wishes } }
    return wish

/-- Lets a witness note an update and ask for something. -/
def updateWitness (n : Nat) (w : Witness) (dt : α) : Act (World α) Unit := do
  witness n .update false (some dt)
  grant (← nextWish n w)

/-- Lets time pass in a scene (`Scene.update`). -/
def callUpdate (n : Nat) (dt : α) : Act (World α) Unit := do
  match (← sceneAt n).role with
  | .witness w => updateWitness n w dt
  | .plain => pure ()
  | .scripted _ => updateScript n dt
  | .pong _ => updatePong n dt

/-- Lets time pass in the current scene (`SceneManager.update`). -/
def update (dt : α) : Act (World α) Unit := do
  match (← get).current with
  | some n => ifHas n .update (callUpdate n dt)
  | none => pure ()

/-- Shows the current scene an event (`SceneManager.handle_event`). -/
def handleEvent : Act (World α) Unit := do
  match (← get).current with
  | some n => ifHas n .event (callEvent n)
  | none => pure ()

end Diorama.World
