/-
# Pointer and keys

The input holds what the events so far amount to: where the pointer is on the canvas, whether
its first button is held, whether it was pressed since the last frame ended, and which keys are
down.  Only the first button counts.
-/
import Diorama.Scalar

namespace Diorama

/-- Something that happens at the window; positions are in window pixels. -/
inductive Event (α : Type) where
  | quit
  | motion (x y : α)
  | press (x y : α) (button : Int)
  | release (x y : α) (button : Int)
  | keyDown (key : Int)
  | keyUp (key : Int)
  | other

/-- The pointer, in canvas pixels (`PointerState`). -/
structure Pointer (α : Type) where
  x : α
  y : α
  pressed : Bool := false
  down : Bool := false

/-- Pointer and keys (`InputHandler`). -/
structure Input (α : Type) where
  /-- The canvas pixels in a window pixel, across and down. -/
  scale : α × α
  pointer : Pointer α
  keys : List Int := []

variable {α : Type} [Scalar α]

/-- A pointer that nothing has happened to. -/
def Pointer.rest : Pointer α := { x := 0.0, y := 0.0 }

namespace Input

/-- The input of a window with the given scale (`InputHandler`). -/
def ofScale (scale : α × α) : Input α := { scale, pointer := .rest }

/-- The button that counts. -/
def firstButton : Int := 1

/-- Moves the pointer to a place in the window (`InputHandler._to_canvas`). -/
def move (i : Input α) (x y : α) : Pointer α :=
  { i.pointer with x := x * i.scale.1, y := y * i.scale.2 }

/-- Takes in an event (`InputHandler.handle_event`). -/
def handle (i : Input α) : Event α → Input α
  | .motion x y => { i with pointer := i.move x y }
  | .press x y button =>
    if button == firstButton then
      { i with pointer := { i.move x y with pressed := true, down := true } }
    else i
  | .release x y button =>
    if button == firstButton then { i with pointer := { i.move x y with down := false } } else i
  | .keyDown key => if i.keys.contains key then i else { i with keys := key :: i.keys }
  | .keyUp key => { i with keys := i.keys.filter (· != key) }
  | .quit | .other => i

/-- After a frame no press is fresh (`InputHandler.end_frame`). -/
def endFrame (i : Input α) : Input α := { i with pointer := { i.pointer with pressed := false } }

/-- Whether one of some keys is down (`InputHandler.is_key_down`). -/
def isDown (i : Input α) (keys : List Int) : Bool := keys.any i.keys.contains

/-- Forgets all events (`InputHandler.reset`). -/
def reset (i : Input α) : Input α := ofScale i.scale

end Input

/-! ## Keys -/

namespace Key

def escape : Int := 27

def w : Int := 119

def s : Int := 115

def up : Int := 1073741906

def down : Int := 1073741905

end Key

end Diorama
