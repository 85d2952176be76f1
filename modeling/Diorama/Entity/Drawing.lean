/-
# Drawing entities

An entity is drawn on a surface of its own, which is then turned, faded and placed by its
centre.  Text is written straight onto the canvas.  What rounds to nothing is not drawn, and
neither is what cannot be seen.

Only surfaces made for the drawing are drawn on or faded; an image, a placeholder or a label
that others share is copied first.
-/
import Diorama.Device.Textures
import Diorama.Entity
import Diorama.Lettering

namespace Diorama.Entity

variable {α : Type} [Scalar α] [Host α]

/-- Turns and fades a picture of the entity and places it by the entity's centre
(`Entity._present`). -/
def present (e : Entity α) (canvas picture : Surface) : Act (Device α) Unit := do
  let turned ← if Scalar.isZero e.rotation then pure picture
    else Device.rotate picture (-(Scalar.degrees e.rotation))
  let opacity ← Act.ofExcept (Device.opacityPart e.alpha 255.0)
  let shown ← Device.faded turned opacity
  let (cx, cy) := e.center
  let x ← Act.ofExcept (Scalar.nearest cx)
  let y ← Act.ofExcept (Scalar.nearest cy)
  Device.place shown canvas (.centered x y)

/-- The colour of a text as ink for a line. -/
def inkOf (c : Color) : Int × Int × Int := (c.red, c.green, c.blue)

/-! ## 1. The kinds of entity -/

/-- An image stretched to the entity, or its colour; without either there is nothing
(`Sprite.draw`). -/
def drawSprite (e : Entity α) (image : Option Surface) (canvas : Surface) :
    Act (Device α) Unit := do
  let w ← Act.ofExcept (Scalar.nearest e.scaledWidth)
  let h ← Act.ofExcept (Scalar.nearest e.scaledHeight)
  if w ≤ 0 || h ≤ 0 then return
  match image with
  | some image => e.present canvas (← Device.fit image w h)
  | none =>
    if e.color.isNull then return
    let picture ← Device.make w h
    let c ← Device.paint e.color
    Device.fill picture (.color c) none
    e.present canvas picture

/-- A rounded rectangle with a centred text (`Button.draw`). -/
def drawButton (e : Entity α) (text : String) (textColor : Value α) (font : String)
    (corner : Int) (lettering : Lettering.Owner) (canvas : Surface) : Act (Device α) Unit := do
  let area ← Act.ofExcept e.bounds
  if area.width ≤ 0 || area.height ≤ 0 then return
  let picture ← Device.make area.width area.height
  let sx := Scalar.abs e.scaleX
  let sy := Scalar.abs e.scaleY
  let radius ← Act.ofExcept (Scalar.whole (Scalar.ofInt corner * Scalar.min sx sy))
  let c ← Device.paint e.color
  Device.rectangle picture c picture.area 0 radius
  if text != "" then
    let (_, height) ← Device.measure lettering text font
    let ink ← Device.paint textColor
    let _ ← Device.write lettering picture {
      text
      x := Scalar.ofInt area.width / 2.0
      y := (Scalar.ofInt area.height - Scalar.ofInt height * sy) / 2.0
      rgb := inkOf ink
      opacity := Scalar.ofInt ink.opacity
      font
      align := "center"
      alpha := 1.0
      scaleX := sx
      scaleY := sy }
  e.present canvas picture

/-- A line of text at the entity's corner (`TextEntity.draw`). -/
def drawText (e : Entity α) (content font align : String) (lettering : Lettering.Owner)
    (canvas : Surface) : Act (Device α) Unit := do
  let ink ← Device.paint e.color
  let _ ← Device.write lettering canvas {
    text := content
    x := e.x
    y := e.y
    rgb := inkOf ink
    opacity := Scalar.ofInt ink.opacity
    font
    align
    alpha := e.alpha
    scaleX := e.scaleX
    scaleY := e.scaleY }

/-- The width of an outline; at least one pixel. -/
def outline (stroke : Int) : Int := max 1 stroke

/-- The box around a disc (`ShapeEntity.draw`). -/
def drawCircle (e : Entity α) (c : Color) (radius : α) (width : Int) (canvas : Surface) :
    Act (Device α) Unit := do
  let r := radius * Scalar.min (Scalar.abs e.scaleX) (Scalar.abs e.scaleY)
  let side ← Act.ofExcept (Scalar.nearest (2.0 * r))
  if side ≤ 0 then return
  let picture ← Device.make side side
  let middle : α := Scalar.ofInt side / 2.0
  Device.circle picture c (middle, middle) r width
  e.present canvas picture

/-- Where a line starts in its padded box: at the side that it leads away from. -/
def lineStart (delta : α) (side stroke : Int) : Int :=
  if Scalar.le 0.0 delta then stroke else side - stroke

/-- A line with room for its width on every side (`ShapeEntity.draw`). -/
def drawLine (e : Entity α) (c : Color) (stroke : Int) (canvas : Surface) :
    Act (Device α) Unit := do
  let dx := e.width * Scalar.abs e.scaleX
  let dy := e.height * Scalar.abs e.scaleY
  let w := (← Act.ofExcept (Scalar.nearest (Scalar.abs dx))) + stroke * 2
  let h := (← Act.ofExcept (Scalar.nearest (Scalar.abs dy))) + stroke * 2
  let picture ← Device.make w h
  let x := lineStart dx w stroke
  let y := lineStart dy h stroke
  Device.line picture (.color c) (x, y) (.exact (Scalar.ofInt x + dx) (Scalar.ofInt y + dy))
    stroke
  e.present canvas picture

/-- A rectangle (`ShapeEntity.draw`). -/
def drawRectangle (e : Entity α) (c : Color) (width : Int) (canvas : Surface) :
    Act (Device α) Unit := do
  let w ← Act.ofExcept (Scalar.nearest (Scalar.abs e.width * Scalar.abs e.scaleX))
  let h ← Act.ofExcept (Scalar.nearest (Scalar.abs e.height * Scalar.abs e.scaleY))
  if w ≤ 0 || h ≤ 0 then return
  let picture ← Device.make w h
  Device.rectangle picture c picture.area width (-1)
  e.present canvas picture

/-- A shape, filled or as an outline (`ShapeEntity.draw`). -/
def drawShape (e : Entity α) (kind : ShapeKind) (radius : α) (filled : Bool) (stroke : Int)
    (canvas : Surface) : Act (Device α) Unit := do
  let c ← Device.paint e.color
  let stroke := outline stroke
  let width := if filled then 0 else stroke
  match kind with
  | .circle => e.drawCircle c radius width canvas
  | .line => e.drawLine c stroke canvas
  | .rect => e.drawRectangle c width canvas

/-- The distance from one dash of a divider to the next; a dash fills half of it. -/
def dashPitch : Int := 20

/-- The upper and lower ends of the dashes between two heights (`_CenterLine.draw`). -/
def dashes (top bottom : Int) : List (Int × Int) :=
  (List.range ((bottom - top + dashPitch - 1) / dashPitch).toNat).map fun n =>
    let y := top + dashPitch * (n : Nat)
    (y, min bottom (y + dashPitch / 2))

/-- White dashes from top to bottom (`_CenterLine.draw`). -/
def drawDivider (e : Entity α) (canvas : Surface) : Act (Device α) Unit := do
  let x ← Act.ofExcept (Scalar.whole e.x)
  let top ← Act.ofExcept (Scalar.whole e.y)
  let bottom ← Act.ofExcept (Scalar.whole (e.y + e.height))
  (dashes top bottom).forM fun (y, below) =>
    Device.line canvas (.solid 255 255 255) (x, y) (.whole x below) 2

/-! ## 2. Any entity -/

/-- Draws an entity that can be seen. -/
def draw (e : Entity α) (canvas : Surface) : Act (Device α) Unit :=
  match e.form with
  | .sprite image => e.drawSprite image canvas
  | .button text textColor font corner _ _ lettering =>
    e.drawButton text textColor font corner lettering canvas
  | .text content font align lettering => e.drawText content font align lettering canvas
  | .shape kind radius filled stroke => e.drawShape kind radius filled stroke canvas
  | .divider => e.drawDivider canvas

/-- Draws an entity unless it is hidden or has no opacity (`Entity.render`). -/
def render (e : Entity α) (canvas : Surface) : Act (Device α) Unit :=
  if !e.visible || Scalar.le e.alpha 0.0 then pure () else e.draw canvas

end Diorama.Entity
