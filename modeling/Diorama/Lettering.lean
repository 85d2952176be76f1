/-
# Writing text

Text is drawn one line at a time, aligned at a point, faded and stretched.  Typefaces are loaded
once; labels are kept by text, typeface and colour, and all are dropped when there are as many
as the lettering's limit.
-/
import Diorama.Device.Textures
import Diorama.Value.Number

namespace Diorama

variable {α : Type} [Scalar α] [Host α]

namespace Device

/-! ## 1. The two letterings -/

def lettering (d : Device α) : Lettering.Owner → Lettering
  | .everyone => d.everyoneLettering
  | .engine => d.engineLettering

def setLettering (o : Lettering.Owner) (l : Lettering) (d : Device α) : Device α :=
  match o with
  | .everyone => { d with everyoneLettering := l }
  | .engine => { d with engineLettering := l }

/-- Loads a typeface unless it was loaded before (`TextRenderer.get_font`). -/
def useFace (o : Lettering.Owner) (t : Typeface) : Act (Device α) Unit := do
  let l := (← get).lettering o
  if t ∉ l.faces then
    loadFont t
    modify (setLettering o { l with faces := t :: l.faces })

/-- The label of a text, drawn now or kept from before (`TextRenderer.render_label`). -/
def keptLabel (o : Lettering.Owner) (text : String) (t : Typeface) (rgb : Int × Int × Int) :
    Act (Device α) Surface := do
  let l := (← get).lettering o
  match l.labels.lookup (text, t, rgb) with
  | some s => return s
  | none =>
    if l.limit ≤ l.labels.length then modify (setLettering o { l with labels := [] })
    useFace o t
    let s ← label t text rgb
    modify fun d =>
      let l := d.lettering o
      setLettering o { l with labels := ((text, t, rgb), s) :: l.labels } d
    return s

/-! ## 2. Measuring and writing -/

/-- The size of a text (`TextRenderer.measure`). -/
def measure (o : Lettering.Owner) (text font : String) : Act (Device α) (Int × Int) := do
  let t ← Typeface.read α font
  useFace o t
  permit (.measure t text)
  return Host.textSize (α := α) t text

end Device

/-- Where and how a line of text is written.  `x` is the point that `align` speaks of and `y`
the top edge. -/
structure Line (α : Type) where
  text : String
  x : α
  y : α
  rgb : Int × Int × Int := (255, 255, 255)
  /-- The opacity that the colour has of its own. -/
  opacity : α
  font : String := Typeface.standard
  align : String := "left"
  alpha : α
  scaleX : α
  scaleY : α

namespace Device

/-- The label stretched by both scales, unless nothing of it is left (`TextRenderer.draw_text`). -/
def stretchLabel (s : Surface) (scaleX scaleY : α) : Act (Device α) (Option Surface) := do
  if Scalar.eq scaleX 1.0 && Scalar.eq scaleY 1.0 then return some s
  let w := max 0 (← Act.ofExcept (Scalar.nearest (Scalar.ofInt s.width * Scalar.abs scaleX)))
  let h := max 0 (← Act.ofExcept (Scalar.nearest (Scalar.ofInt s.height * Scalar.abs scaleY)))
  if w == 0 || h == 0 then return none
  return some (← resizeSmoothly s w h)

/-- The left edge of a line of the given width (`TextRenderer.draw_text`). -/
def leftEdge (align : String) (x : α) (width : Int) : α :=
  if align == "center" then x - Scalar.ofInt width / 2.0
  else if align == "right" || align == "end" then x - Scalar.ofInt width
  else x

/-- The part of a full opacity, without its fraction. -/
def opacityPart (alpha full : α) : Except Fault Int :=
  Scalar.whole (Scalar.max 0.0 (Scalar.min 1.0 alpha) * full)

/-- The surface at an opacity: itself at full opacity, else a faded copy. -/
def faded (s : Surface) (opacity : Int) : Act (Device α) Surface := do
  if opacity < 255 then
    let s ← copy s
    setOpacity s opacity
    return s
  return s

/-- Writes a line of text; the result is the size of what was written (`TextRenderer.draw_text`). -/
def write (o : Lettering.Owner) (target : Surface) (l : Line α) :
    Act (Device α) (Int × Int) := do
  if l.text == "" || Scalar.le l.alpha 0.0 then return (0, 0)
  let t ← Typeface.read α l.font
  let s ← keptLabel o l.text t l.rgb
  match ← stretchLabel s l.scaleX l.scaleY with
  | none => return (0, 0)
  | some s =>
    let left := leftEdge l.align l.x s.width
    let opacity ← Act.ofExcept (opacityPart l.alpha l.opacity)
    let shown ← faded s opacity
    let x ← Act.ofExcept (Scalar.whole left)
    let y ← Act.ofExcept (Scalar.whole l.y)
    place shown target (.cornered x y)
    return s.size

end Device

end Diorama
