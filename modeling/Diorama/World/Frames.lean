/-
# Frame after frame

A frame takes in the events that have happened, lets time pass, and is drawn.  However long it
really took, no more than a tenth of a second passes in it, so that a stall never skips a state.
-/
import Diorama.World.Play
import Diorama.World.Screen

namespace Diorama.World

variable {α : Type} [Scalar α] [Host α]

/-- The longest time that passes in a frame (`MAX_FRAME_DT`). -/
def longestFrame : α := 0.1

/-- Takes in events; false if one of them asks to stop, and those after it are lost
(`Engine.handle_events`). -/
def handleEvents : List (Event α) → Act (World α) Bool
  | [] => pure true
  | .quit :: _ => pure false
  | e :: rest => do
    requirePart .input
    modify fun w => { w with input := w.input.handle e }
    requirePart .director
    handleEvent
    handleEvents rest

/-- Lets the time of a frame pass (`Engine.update`). -/
def tick (dt : α) : Act (World α) Unit := do
  requirePart .director
  update (Scalar.min dt longestFrame)
  requirePart .input
  modify fun w => { w with input := w.input.endFrame }

/-- A frame: how many milliseconds it takes, and what happens in it. -/
structure Frame (α : Type) where
  milliseconds : α
  events : List (Event α) := []

/-- Plays one frame; false if the engine is asked to stop (`Engine.run`). -/
def playFrame (f : Frame α) : Act (World α) Bool := do
  if !(← handleEvents f.events) then return false
  tick (f.milliseconds / 1000.0)
  render
  return true

/-- Plays frames until there are none, one asks to stop, or as many were played as there may be
(`Engine.run`).  The result is how many are left.  `played` counts those before. -/
def playFrames (most : Option Int) (played : Nat) : List (Frame α) → Act (World α) Nat
  | [] => pure 0
  | f :: rest => do
    if !(← playFrame f) then return rest.length
    if most.any fun (most : Int) => most ≤ played + 1 then return rest.length
    playFrames most (played + 1) rest

/-- Runs the engine for some frames and closes the window; the result is how many are left
(`Engine.run`). -/
def run (frames : List (Frame α)) (most : Option Int) : Act (World α) Nat := do
  modify fun w => { w with running := true }
  let left ← playFrames most 0 frames
  modify fun w => { w with running := false }
  onDevice Device.stop
  return left

/-- Asks the engine to stop (`Engine.stop`). -/
def stop : Act (World α) Unit := modify fun w => { w with running := false }

end Diorama.World
