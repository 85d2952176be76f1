/-
# The window and what is drawn in it

A world starts with a window and a canvas.  The canvas has a fixed size; the window shows it
scaled, and positions of the pointer are scaled back.

A frame is drawn on the cleared canvas, layer by layer from bottom to top; then the canvas is
scaled into the window and shown.  On request an overlay tells what the engine is doing.
-/
import Diorama.Entity.Drawing
import Diorama.World

namespace Diorama

/-- The parts of a canvas pixel that a window pixel is, unless asked otherwise (`WINDOW_SCALE`). -/
def standardWindowScale {α : Type} [Scalar α] : α := 0.45

/-- What the engine tells about itself (`Engine.debug_info`). -/
structure Report (α : Type) where
  running : Bool
  scene : String
  state : String
  frameRate : α
  counts : List (Layer × Nat)
  total : Nat

namespace World

variable {α : Type} [Scalar α] [Host α]

/-! ## 1. Opening -/

/-- A side of the window, at least one pixel. -/
def windowSide (side : Int) (scale : α) : Except Fault Int := do
  return max 1 (← Scalar.whole (Scalar.ofInt side * scale))

/-- Opens the window; a display that refuses to be told about the retrace is not told (`Engine`). -/
def openWindow (width height : Int) : Act (Device α) Surface :=
  tryCatch (Device.openWindow width height (some false)) fun fault =>
    match fault with
    | .device _ => Device.openWindow width height none
    | fault => throw fault

/-- Opens the engine's window and makes its canvas: the window, the canvas, and the canvas pixels in
a window pixel (`Engine`). -/
def openDisplay (width height : Int) (scale : α) :
    Act (Device α) (Surface × Surface × (α × α)) := do
  Device.start
  Device.call (.title "Scene Canvas")
  let windowWidth ← Act.ofExcept (windowSide width scale)
  let windowHeight ← Act.ofExcept (windowSide height scale)
  let window ← openWindow windowWidth windowHeight
  let canvas ← Device.make width height
  let across := Scalar.ofInt width / Scalar.ofInt windowWidth
  let down := Scalar.ofInt height / Scalar.ofInt windowHeight
  return (window, canvas, (across, down))

/-- A world with its engine started, on a device (`Engine`). -/
def opened (width height : Int) (scale : α) (showsOverlay : Bool) (device : Device α) :
    Except Fault (World α) × Device α :=
  match (openDisplay width height scale).run device with
  | (.ok (window, canvas, ratio), device) =>
    (.ok { depot := { device }, canvas, window, input := .ofScale ratio, showsOverlay }, device)
  | (.error fault, device) => (.error fault, device)

/-! ## 2. What the engine tells -/

/-- The text unless it is missing or empty. -/
def orText (s : Option String) (default : String) : String :=
  match s with
  | some s => if s == "" then default else s
  | none => default

/-- The state of the engine in words and numbers (`Engine.debug_info`). -/
def report : Act (World α) (Report α) := do
  requirePart .director
  let w ← get
  let scene := w.current.bind fun n => w.scenes[n]?
  requirePart .compositor
  return {
    running := w.running
    scene := orText (scene.map (·.name)) "None"
    state := orText (scene.bind (·.stateName?)) "N/A"
    frameRate := w.depot.device.frameRate
    counts := Layer.all.map fun l => (l, w.compositor.count l)
    total := w.compositor.size }

/-! ## 3. Drawing -/

/-- What the canvas is cleared to (`CLEAR_COLOR`). -/
def clearInk : Ink := .solid 15 23 42

/-- Draws a marker. -/
def drawMarker (m : Marker) : Act (Device α) Unit :=
  match m.reaction with
  | .drawn => Device.call (.drawn m.name)
  | .silent => pure ()
  | .broken => throw .wrongKind

/-- Draws something in a layer; a scene is not drawn. -/
def drawOccupant : Occupant → Act (World α) Unit
  | .entity n => do
    let e ← entityAt n
    onDevice (e.render (← get).canvas)
  | .scene _ => pure ()
  | .marker m => onDevice (drawMarker m)

/-- Draws all layers from bottom to top (`LayerManager.render`). -/
def drawLayers : Act (World α) Unit := do
  requirePart .compositor
  (← get).compositor.drawOrder.forM drawOccupant

/-- The lines of the overlay. -/
def overlayLines (r : Report α) : List String := [
  "FPS " ++ Scalar.wholeText r.frameRate,
  "Scene " ++ r.scene,
  "State " ++ r.state,
  "Entities " ++ toString r.total]

/-- Writes a line of the overlay at a height. -/
def writeOverlayLine (y : Int) (text : String) : Act (World α) Unit := do
  requirePart .lettering
  let canvas := (← get).canvas
  let _ ← onDevice (Device.write .engine canvas {
    text
    x := 16.0
    y := Scalar.ofInt y
    rgb := (148, 163, 184)
    opacity := 255.0
    font := "32px Arial"
    alpha := 1.0
    scaleX := 1.0
    scaleY := 1.0 })

/-- Writes lines below each other. -/
def writeOverlayLines (y : Int) : List String → Act (World α) Unit
  | [] => pure ()
  | line :: rest => do
    writeOverlayLine y line
    writeOverlayLines (y + 40) rest

/-- Writes the overlay in the upper left corner (`Engine._draw_debug_overlay`). -/
def drawOverlay : Act (World α) Unit := do
  writeOverlayLines 16 (overlayLines (← report))

/-- Draws a frame and shows it (`Engine.render`). -/
def render : Act (World α) Unit := do
  let w ← get
  onDevice (Device.fill w.canvas clearInk none)
  drawLayers
  if w.showsOverlay then drawOverlay
  let shown ← onDevice (Device.fit w.canvas w.window.width w.window.height)
  onDevice (Device.place shown w.window (.cornered 0 0))
  onDevice (Device.call .present)

end World

end Diorama
