/-
# Building entities from their descriptions

A description is a mapping in a scene document.  Every field but the type has a default, so
that `type: shape` alone is a white square of a hundred pixels.  A field that is no number is
reported and answered by its default; a number that is out of range is a fault.
-/
import Diorama.Document.Reading
import Diorama.Entity

namespace Diorama

/-- What entities are built with: the images by their ids, if there are any; whether someone handles
the actions of buttons; and the lettering that texts are written with (`EntityFactory`). -/
structure Workshop where
  image? : Option (String → Option Surface) := none
  handlesActions : Bool := true
  lettering : Lettering.Owner := .everyone

variable {α : Type} [Scalar α]

/-- The number in a field, or the default (`_num`). -/
def fieldNumber (fields : Fields α) (key : String) (default : α) : Act Log α := do
  let v := Fields.get fields key
  if v.isNull then return default
  match ← Act.ofExcept v.toScalar? with
  | some x => return x
  | none =>
    say ("[EntityFactory] Warning: '" ++ key ++ "' is not a number: " ++
      (← Act.ofExcept v.shown))
    return default

/-- The text of a field that may be left out. -/
def fieldText (fields : Fields α) (key : String) : Act Log String :=
  Act.ofExcept ((Fields.lookup fields key).getD (.text "")).written

/-- The text of a field, and `default` where the field is nothing, false, zero or empty. -/
def fieldTextOr (fields : Fields α) (key default : String) : Act Log String :=
  Act.ofExcept ((Fields.get fields key).orElse (.text default)).written

/-- The truth of a field that is true if it is left out. -/
def fieldFlag (fields : Fields α) (key : String) : Bool :=
  ((Fields.lookup fields key).getD (.bool true)).truthy

namespace Workshop

/-- The position and size of an entity; sizes have defaults. -/
def readPlace (fields : Fields α) (width height : α) : Act Log (Body α) := do
  let x ← fieldNumber fields "x" 0.0
  let y ← fieldNumber fields "y" 0.0
  let width ← fieldNumber fields "width" width
  let height ← fieldNumber fields "height" height
  return .at x y width height

/-- What can be said of every kind of entity (`_apply_common`). -/
def readLook (fields : Fields α) (b : Body α) : Act Log (Body α) := do
  let rotation ← fieldNumber fields "rotation" 0.0
  let scaleX ← fieldNumber fields "scaleX" 1.0
  let scaleY ← fieldNumber fields "scaleY" 1.0
  let alpha ← fieldNumber fields "alpha" 1.0
  return { b with rotation, scaleX, scaleY, alpha, visible := fieldFlag fields "visible" }

/-- The image that a sprite names. -/
def findImage (w : Workshop) (id : Value α) : Act Log (Option Surface) := do
  match w.image? with
  | none => return none
  | some image =>
    if !id.truthy then return none
    match (← Act.ofExcept id.nameKey).bind image with
    | some s => return some s
    | none =>
      say ("[EntityFactory] Warning: image '" ++ (← Act.ofExcept id.written) ++ "' not loaded")
      return none

/-- A body of no size takes that of its image (`Sprite.set_image`). -/
def adoptSize (b : Body α) : Option Surface → Body α
  | none => b
  | some s =>
    if Scalar.isZero b.width && Scalar.isZero b.height then
      { b with width := Scalar.ofInt s.width, height := Scalar.ofInt s.height }
    else b

/-- A sprite shows an image, if it names one that is there, else its colour
(`EntityFactory.create_sprite`). -/
def buildSprite (w : Workshop) (fields : Fields α) : Act Log (Entity α) := do
  let b ← readPlace fields 0.0 0.0
  let image ← w.findImage (Fields.get fields "assetId")
  let b ← readLook fields (adoptSize b image)
  return { b with color := Fields.get fields "color", form := .sprite image }

/-- The action of a button. -/
def readClick (fields : Fields α) : Act Log (Option (ActionSpec α)) := do
  let v := Fields.get fields "onClick"
  if v.isNull then return none else readAction v

/-- A button has a text and may have an action (`EntityFactory.create_button`). -/
def buildButton (w : Workshop) (fields : Fields α) : Act Log (Entity α) := do
  let b ← readPlace fields 200.0 80.0
  let text ← fieldText fields "text"
  let font ← fieldTextOr fields "font" "bold 32px Arial"
  let b ← readLook fields b
  let action ← readClick fields
  return {
    b with
    color := (Fields.get fields "color").orElse (.text "#4a90e2")
    form := .button text ((Fields.get fields "textColor").orElse (.text "#ffffff")) font
      12 action (action.isSome && w.handlesActions) w.lettering }

/-- A line of text (`EntityFactory.create_text`). -/
def buildText (w : Workshop) (fields : Fields α) : Act Log (Entity α) := do
  let b ← readPlace fields 0.0 0.0
  let content ← fieldText fields "content"
  let font ← fieldTextOr fields "font" Typeface.standard
  let align ← fieldTextOr fields "textAlign" "left"
  let b ← readLook fields b
  return {
    b with
    color := (Fields.get fields "color").orElse (.text "#ffffff")
    form := .text content font align w.lettering }

/-- A shape, filled or as an outline of a whole number of pixels (`EntityFactory.create_shape`). -/
def buildShape (fields : Fields α) : Act Log (Entity α) := do
  let kind ← Vocabulary.chooseOr "EntityFactory" "shape" ShapeKind.rect (Fields.get fields "shape")
  let b ← readPlace fields 100.0 100.0
  let radius ← fieldNumber fields "radius" 50.0
  let stroke ← fieldNumber fields "strokeWidth" 1.0
  let stroke ← Act.ofExcept (Scalar.whole stroke)
  let b ← readLook fields b
  return {
    b with
    color := (Fields.get fields "color").orElse (.text "#ffffff")
    form := .shape kind radius (fieldFlag fields "fill") stroke }

/-- The entity of a description, if its type is known (`EntityFactory.create`). -/
def build (w : Workshop) (fields : Fields α) : Act Log (Option (Entity α)) := do
  let type := Fields.get fields "type"
  let kind : Option EntityKind ←
    Vocabulary.choose "EntityFactory" "entity type" none (.value type)
  match kind with
  | none =>
    if type.isNull then
      say ("[EntityFactory] Warning: entity without a type: " ++
        (← Act.ofExcept (Value.map fields).shown))
    return none
  | some .sprite => return some (← w.buildSprite fields)
  | some .button => return some (← w.buildButton fields)
  | some .text => return some (← w.buildText fields)
  | some .shape => return some (← buildShape fields)

end Workshop

end Diorama
