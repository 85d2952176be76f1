/-
# Entities

An entity is a thing on the canvas: a sprite, a button, a line of text, a shape, or the dashed
divider of a court.  It is placed by its upper left corner, scaled about its centre, and turned
clockwise by an angle in radians.

`Entity.bounds` is the rectangle that a click must hit.  Its four numbers are rounded to whole
pixels, of which the screen keeps 32 bits.
-/
import Diorama.Motions
import Diorama.Device.Call
import Diorama.Device

namespace Diorama

/-- What all entities have (`Entity`). -/
structure Body (α : Type) where
  x : α
  y : α
  width : α
  height : α
  rotation : α
  alpha : α
  scaleX : α
  scaleY : α
  visible : Bool := true
  /-- The colour as it is written. -/
  color : Value α := .null

/-- What an entity is, with what only this kind of entity has (`Sprite`, `Button`, `TextEntity` and
`ShapeEntity`). -/
inductive Form (α : Type) where
  | sprite (image : Option Surface)
  /-- A button has an action only if its description can be read, and reacts to clicks only if
  someone handles its actions. -/
  | button (text : String) (textColor : Value α) (font : String) (corner : Int)
      (action : Option (ActionSpec α)) (clickable : Bool) (lettering : Lettering.Owner)
  | text (content font align : String) (lettering : Lettering.Owner)
  | shape (kind : ShapeKind) (radius : α) (filled : Bool) (stroke : Int)
  | divider

/-- A thing on the canvas (`Entity`). -/
structure Entity (α : Type) extends Body α where
  form : Form α

variable {α : Type}

/-- An entity can be moved by animations. -/
instance : Posed (Entity α) α where
  pose e := { x := some e.x, y := some e.y, width := some e.width, height := some e.height
              alpha := some e.alpha, scaleX := some e.scaleX, scaleY := some e.scaleY }
  withPose p e :=
    { e with
      x := p.x.getD e.x
      y := p.y.getD e.y
      alpha := p.alpha.getD e.alpha
      scaleX := p.scaleX.getD e.scaleX
      scaleY := p.scaleY.getD e.scaleY }

variable [Scalar α]

/-- A body of full size and opacity. -/
def Body.at (x y width height : α) (color : Value α := .null) : Body α where
  x := x
  y := y
  width := width
  height := height
  rotation := 0.0
  alpha := 1.0
  scaleX := 1.0
  scaleY := 1.0
  color := color

namespace Area

/-- A whole number as the screen keeps it: 64 bits are taken and 32 of them kept. -/
def screenInt (n : Int) : Except Fault Int :=
  if -9223372036854775808 ≤ n && n < 9223372036854775808 then .ok (n.bmod (Nat.pow 2 32))
  else .error .wrongKind

/-- An area of the screen. -/
def onScreen (x y width height : Int) : Except Fault Area := do
  return { x := ← screenInt x, y := ← screenInt y, width := ← screenInt width,
           height := ← screenInt height }

def right (a : Area) : Int := (a.x + a.width).bmod (Nat.pow 2 32)

def bottom (a : Area) : Int := (a.y + a.height).bmod (Nat.pow 2 32)

/-- Whether a point lies in the area or on its edge. -/
def contains (a : Area) (px py : α) : Bool :=
  Scalar.le (Scalar.ofInt a.x) px && Scalar.le px (Scalar.ofInt a.right) &&
    (Scalar.le (Scalar.ofInt a.y) py && Scalar.le py (Scalar.ofInt a.bottom))

end Area

namespace Entity

/-- The point about which the entity is scaled and turned (`Entity.center` and
`ShapeEntity.center`). -/
def center (e : Entity α) : α × α :=
  match e.form with
  | .shape .circle radius _ _ => (e.x + radius, e.y + radius)
  | _ => (e.x + e.width / 2.0, e.y + e.height / 2.0)

/-- The scaled width, without its sign. -/
def scaledWidth (e : Entity α) : α := Scalar.abs (e.width * e.scaleX)

/-- The scaled height, without its sign. -/
def scaledHeight (e : Entity α) : α := Scalar.abs (e.height * e.scaleY)

/-- The rectangle of the scaled entity (`Entity.bounds`). -/
def bounds (e : Entity α) : Except Fault Area := do
  let w := e.scaledWidth
  let h := e.scaledHeight
  let (cx, cy) := e.center
  let x ← Scalar.nearest (cx - w / 2.0)
  let y ← Scalar.nearest (cy - h / 2.0)
  Area.onScreen x y (← Scalar.nearest w) (← Scalar.nearest h)

/-- Whether a point hits the entity (`Entity.contains_point`). -/
def containsPoint (e : Entity α) (px py : α) : Except Fault Bool := do
  return (← e.bounds).contains px py

/-- Whether the entity can be tried with a click at all (`Clickable`). -/
def isButton (e : Entity α) : Bool :=
  match e.form with
  | .button .. => true
  | _ => false

/-- The action that a click on the entity asks for, if any: a visible button that reacts to clicks
and is hit gives its own action (`Button.check_click`). -/
def clicked? (e : Entity α) (px py : α) : Except Fault (Option (ActionSpec α)) :=
  match e.form with
  | .button _ _ _ _ (some action) true _ => do
    if e.visible then
      if ← e.containsPoint px py then return some action
    return none
  | _ => .ok none

end Entity

end Diorama
