/-
# Images and colours

An image that cannot be read is reported and replaced by a placeholder, a red checkerboard, of
which there is one for each size.

Colours stay as they are written until something is drawn with them.  A colour that cannot be
read is reported every time and replaced by a default.  Texts that could be read are remembered;
nothing else is, so remembering changes no answer.
-/
import Diorama.Device
import Diorama.Vocabulary

namespace Diorama.Device

variable {α : Type} [Host α]

/-! ## 1. Images -/

/-- The side of a square of the checkerboard. -/
def tile : Int := 8

/-- The squares of a checkerboard, row by row, and whether each is coloured
(`create_placeholder_surface`). -/
def checkerboard (side : Int) : List (Area × Bool) :=
  let n := ((side + tile - 1) / tile).toNat
  (List.range n).flatMap fun row => (List.range n).map fun column =>
    (⟨tile * (column : Nat), tile * (row : Nat), tile, tile⟩, (column + row) % 2 == 0)

/-- The colour of the coloured squares. -/
def tileColor : Color := { red := 255, green := 0, blue := 0 }

/-- Nothing to be seen. -/
def noColor : Color := { red := 0, green := 0, blue := 0, opacity := 0 }

/-- The placeholder of a size, which is made once (`create_placeholder_surface`). -/
def placeholder (side : Int) : Act (Device α) Surface := do
  match (← get).placeholders.lookup side with
  | some s => return s
  | none =>
    let s ← make side side
    (checkerboard side).forM fun (area, coloured) =>
      fill s (.color (if coloured then tileColor else noColor)) (some area)
    modify fun d => { d with placeholders := (side, s) :: d.placeholders }
    return s

/-- The side of the placeholder for an image (`load_image`). -/
def placeholderSide : Int := 64

/-- The image in a file, ready to be drawn if there is a window, or the placeholder (`load_image`).
-/
def image (path : String) : Act (Device α) Surface :=
  tryCatch
    (do
      let s ← loadImage path
      let d ← get
      if d.displayOn && d.hasWindow then addOpacity s else return s)
    fun fault =>
      let report (message : String) : Act (Device α) Surface := do
        say ("Failed to load image " ++ path ++ ": " ++ message)
        placeholder placeholderSide
      match fault with
      | .device f => report f.message
      | .file f => report f.message
      | fault => throw fault

/-- The surface stretched to a size; colours are mixed if its depth allows it (`scale_surface`). -/
def fit (s : Surface) (width height : Int) : Act (Device α) Surface :=
  if s.size == (width, height) then pure s
  else if s.depth == 24 || s.depth == 32 then resizeSmoothly s width height
  else resize s width height

/-! ## 2. Colours -/

variable [Scalar α]

/-- Reports a colour that cannot be read (`parse_color`). -/
def rejectColor (v : Value α) (default : Color) : Act Log Color := do
  say ("[Colors] Warning: unknown color '" ++ (← Act.ofExcept v.written) ++ "'")
  return default

/-- The colour that a text spells, if it is remembered or can be read (`parse_color`). -/
def colorOfText? (s : String) : Act (Device α) (Option Color) := do
  match (← get).colors.lookup s with
  | some c => return some c
  | none =>
    match Color.ofText? α s with
    | some c =>
      modify fun d => { d with colors := (s, c) :: d.colors }
      return some c
    | none => return none

/-- The colour of a value; nothing at all stands for the default (`parse_color`). -/
def color (default : Color) : Choice α Color → Act (Device α) Color
  | .member c => pure c
  | .value .null => pure default
  | .value (.text s) => do
    match ← colorOfText? s with
    | some c => return c
    | none => rejectColor (.text s : Value α) default
  | .value v => do
    match ← Act.ofExcept (Color.ofParts? v) with
    | some c => return c
    | none => rejectColor v default

/-- The colour that a thing is painted with: white if it cannot be read (`parse_color`). -/
def paint (v : Value α) : Act (Device α) Color := color .white (.value v)

end Diorama.Device
