/-
# The device

The device holds what has been asked of it so far, the files, and the few answers that it gives
of its own: whether a window can be opened, whether sound works, how many frames a second are
shown, and a stream of chances.  It also holds what is shared by everything that draws: the
colours that were read, the placeholders for images, and the letterings.

Every operation either records a call or stops with a fault and records nothing.  What draws is
asked first (`Device.permit`), because the host may refuse anything.
-/
import Diorama.Device.Call
import Diorama.Files
import Diorama.Typeface

namespace Diorama

/-- What is kept from one drawing of text to the next: the typefaces that were loaded and the labels
that were drawn, each with the text, typeface and colour that it shows (`TextRenderer`). -/
structure Lettering where
  /-- How many labels are kept before all are dropped. -/
  limit : Int := 512
  faces : List Typeface := []
  labels : List ((String × Typeface × (Int × Int × Int)) × Surface) := []

/-- There are two letterings: one for everything that has none of its own, and the engine's. -/
inductive Lettering.Owner where
  | everyone | engine
  deriving Repr, DecidableEq

/-- How the sound hardware answers when it is started. -/
inductive MixerKind where
  /-- It works. -/
  | working
  /-- It refuses. -/
  | failing
  /-- It does not refuse, and stays off. -/
  | dead
  deriving Repr, DecidableEq

/-- The device. -/
structure Device (α : Type) where
  log : Log := #[]
  calls : Array (Call α) := #[]
  /-- How many sheets have been made. -/
  made : Nat := 0
  files : Files := {}
  mixer : MixerKind := .working
  mixerOn : Bool := false
  /-- How many sounds can play at once. -/
  channels : Int := 8
  /-- Whether the display has been started, and whether it has a window. -/
  displayOn : Bool := false
  hasWindow : Bool := false
  /-- Whether the display refuses to be told about the retrace. -/
  refusesRetrace : Bool := false
  frameRate : α
  /-- The chances, and how many have been taken. -/
  chances : Nat → α
  taken : Nat := 0
  colors : List (String × Color) := []
  placeholders : List (Int × Surface) := []
  everyoneLettering : Lettering := {}
  engineLettering : Lettering := {}

namespace Device

variable {α : Type} [Host α]

instance : MonadLift (Act Log) (Act (Device α)) where
  monadLift := Act.zoom Device.log fun log d => { d with log }

/-- Records a call. -/
def call (c : Call α) : Act (Device α) Unit := modify fun d => { d with calls := d.calls.push c }

/-- A sheet that was not there before. -/
def newSheet : Act (Device α) Sheet :=
  modifyGet fun d => (.made (d.made + 1), { d with made := d.made + 1 })

/-- Stops if the host refuses a request. -/
def permit (r : Request α) : Act (Device α) Unit :=
  match Host.refusal? r with
  | some fault => throw fault
  | none => pure ()

/-- Records a call that the host may refuse. -/
def ask (c : Call α) : Act (Device α) Unit := do
  permit (.call c)
  call c

/-- A new sheet from a call that the host may refuse; a refused call takes no sheet. -/
def create (c : Sheet → Call α) : Act (Device α) Sheet := do
  permit (.call (c (.made ((← get).made + 1))))
  let sheet ← newSheet
  call (c sheet)
  return sheet

/-- The next chance. -/
def chance : Act (Device α) α :=
  modifyGet fun d => (d.chances d.taken, { d with taken := d.taken + 1 })

/-! ## 1. Making surfaces -/

/-- An empty surface; a negative side is refused by every host. -/
def make (width height : Int) : Act (Device α) Surface := do
  if width < 0 || height < 0 then throw (.device .badSurfaceSize)
  let sheet ← create (.make · width height)
  return { sheet, width, height }

def copy (s : Surface) : Act (Device α) Surface := do
  let sheet ← create (.copy s.sheet ·)
  return { s with sheet }

/-- The surface turned clockwise.  Its size is not looked at again: what is turned is placed by
its centre. -/
def rotate (s : Surface) (degrees : α) : Act (Device α) Surface := do
  let sheet ← create (.rotate s.sheet · degrees)
  return { s with sheet }

/-- The surface stretched to a size, with colours mixed. -/
def resizeSmoothly (s : Surface) (width height : Int) : Act (Device α) Surface := do
  let sheet ← create (.resizeSmoothly s.sheet · width height)
  return { s with sheet, width, height }

/-- The surface stretched to a size, pixel by pixel. -/
def resize (s : Surface) (width height : Int) : Act (Device α) Surface := do
  let sheet ← create (.resize s.sheet · width height)
  return { s with sheet, width, height }

/-- The surface with 32 bits a pixel. -/
def addOpacity (s : Surface) : Act (Device α) Surface := do
  ask (.addOpacity s.sheet)
  return { s with depth := 32 }

/-- The image in a file. -/
def loadImage (path : String) : Act (Device α) Surface := do
  match (← get).files.leaf? path with
  | none => throw (.device .noSuchImage)
  | some (.image width height depth _) =>
    let sheet ← create (.loadImage path ·)
    return { sheet, width, height, depth }
  | some _ => throw (.device .badImage)

/-! ## 2. Drawing -/

def fill (s : Surface) (ink : Ink) (area : Option Area) : Act (Device α) Unit :=
  ask (.fill s.sheet ink area)

def setOpacity (s : Surface) (opacity : Int) : Act (Device α) Unit :=
  ask (.setOpacity s.sheet opacity)

def place (source target : Surface) (spot : Placement) : Act (Device α) Unit :=
  ask (.place source.sheet target.sheet spot)

/-- A filled rectangle, or an outline if `width` is positive; a negative radius rounds no
corner. -/
def rectangle (s : Surface) (c : Color) (area : Area) (width radius : Int) :
    Act (Device α) Unit :=
  ask (.rectangle s.sheet (.color c) area width radius)

def circle (s : Surface) (c : Color) (center : α × α) (radius : α) (width : Int) :
    Act (Device α) Unit :=
  ask (.circle s.sheet (.color c) center radius width)

def line (s : Surface) (ink : Ink) (start : Int × Int) (tip : Tip α) (width : Int) :
    Act (Device α) Unit :=
  ask (.line s.sheet ink start tip width)

/-! ## 3. Letters -/

def loadFont (t : Typeface) : Act (Device α) Unit :=
  ask (.loadFont t.family t.size t.bold t.italic)

/-- A line of text on a surface of its own. -/
def label (t : Typeface) (text : String) (rgb : Int × Int × Int) : Act (Device α) Surface := do
  let (width, height) := Host.textSize (α := α) t text
  let sheet ← create fun sheet => @Call.label α t sheet text rgb width height
  return { sheet, width, height }

/-! ## 4. Sound -/

/-- Starts the sound hardware. -/
def startMixer : Act (Device α) Unit := do
  call .startMixer
  match (← get).mixer with
  | .working => modify fun d => { d with mixerOn := true }
  | .failing => throw (.device .noAudioDevice)
  | .dead => pure ()

/-- Reads the sound in a file. -/
def loadSound (path : String) : Act (Device α) Unit := do
  match (← get).files.leaf? path with
  | some (.audio _) => call (.loadSound path)
  | _ => throw (.device .badAudio)

/-- Whether a channel could be had to play on. -/
def findChannel : Act (Device α) Bool := do
  call .findChannel
  return (← get).channels != 0

/-! ## 5. The display -/

/-- Starts the display. -/
def start : Act (Device α) Unit := do
  call .start
  modify fun d => { d with displayOn := true }

/-- Closes the window and stops the display. -/
def stop : Act (Device α) Unit := do
  call .stop
  modify fun d => { d with displayOn := false, hasWindow := false }

/-- Opens the window. -/
def openWindow (width height : Int) (retrace : Option Bool) : Act (Device α) Surface := do
  call (.openWindow width height retrace)
  if (← get).refusesRetrace && retrace.isSome then throw (.device .noDisplayMode)
  modify fun d => { d with hasWindow := true }
  return { sheet := .window, width, height }

end Device

end Diorama
