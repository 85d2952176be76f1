/-
# Surfaces and what is asked of the device

A surface is a rectangle of pixels.  Nothing here knows its pixels: a surface is the sheet it is
drawn on, its size and its depth.  Sheets made while the program runs are numbered, so two
surfaces share pixels exactly when they have the same sheet.

The device draws, plays and shows.  What it does with its pixels and samples is not modelled;
what it is asked to do is.  Every request is a `Call`, and the calls in order are the whole
observable behaviour on the screen and the speaker.

Some answers the program needs back, and those come from a `Host`: the colour that a text spells,
the size of a line of text, and whether a request is refused.  Nothing is assumed about them here,
so whatever is proved holds for every host.

The last three calls are made by scenes that only witness what happens to them.
-/
import Diorama.Color
import Diorama.Typeface

namespace Diorama

/-! ## 1. Surfaces -/

/-- The identity of a surface. -/
inductive Sheet where
  /-- A canvas that was there from the start. -/
  | canvas
  | window
  | made (number : Nat)
  deriving Repr, DecidableEq

/-- A surface: its identity, its size, and how many bits a pixel has. -/
structure Surface where
  sheet : Sheet
  width : Int
  height : Int
  depth : Nat := 32
  deriving Repr, DecidableEq

/-- A rectangle of whole pixels. -/
structure Area where
  x : Int
  y : Int
  width : Int
  height : Int
  deriving Repr, DecidableEq

namespace Surface

/-- Width and height. -/
def size (s : Surface) : Int × Int := (s.width, s.height)

/-- The whole surface. -/
def area (s : Surface) : Area := ⟨0, 0, s.width, s.height⟩

end Surface

/-! ## 2. Calls -/

/-- What is painted with: a colour without opacity, or with it. -/
inductive Ink where
  | solid (red green blue : Int)
  | color (c : Color)
  deriving Repr, DecidableEq

/-- Where a surface is placed on another. -/
inductive Placement where
  | centered (x y : Int)
  | cornered (x y : Int)
  deriving Repr, DecidableEq

/-- The end of a line, between pixels or on one. -/
inductive Tip (α : Type) where
  | exact (x y : α)
  | whole (x y : Int)

/-- The moments of a scene's life at which it is called. -/
inductive Hook where
  | bind | enter | populate | leave | update | event
  deriving Repr, DecidableEq

/-- A request to the device, or a note of a witness. -/
inductive Call (α : Type) where
  | make (s : Sheet) (width height : Int)
  | fill (s : Sheet) (ink : Ink) (area : Option Area)
  | copy (source result : Sheet)
  | setOpacity (s : Sheet) (opacity : Int)
  | addOpacity (s : Sheet)
  | place (source target : Sheet) (spot : Placement)
  | rectangle (s : Sheet) (ink : Ink) (area : Area) (width radius : Int)
  | circle (s : Sheet) (ink : Ink) (center : α × α) (radius : α) (width : Int)
  | line (s : Sheet) (ink : Ink) (start : Int × Int) (tip : Tip α) (width : Int)
  | rotate (source result : Sheet) (degrees : α)
  | resizeSmoothly (source result : Sheet) (width height : Int)
  | resize (source result : Sheet) (width height : Int)
  | loadImage (path : String) (result : Sheet)
  | loadFont (family : String) (size : Int) (bold italic : Bool)
  /-- The typeface is one that was loaded. -/
  | label {face : Typeface} (result : Sheet) (text : String) (rgb : Int × Int × Int)
    (width height : Int)
  | startMixer
  | loadSound (path : String)
  | findChannel
  | soundVolume (path : String) (volume : α)
  | stopSound (path : String)
  | channelVolume (volume : α)
  | playSound (path : String)
  | start
  | stop
  | present
  | title (text : String)
  /-- `retrace` says whether to wait for the screen, if anything is said about it. -/
  | openWindow (width height : Int) (retrace : Option Bool)
  /-- A witness among the things of a layer is drawn. -/
  | drawn (name : String)
  /-- A witness is called; it may see how many things the layers hold, or how much time has
  passed. -/
  | called (scene : String) (hook : Hook) (held : Option Nat) (dt : Option α)
  /-- A custom action reaches a scene that handles them. -/
  | custom (params : Fields α)

/-! ## 3. The host -/

/-- What a host can refuse: to do what it is asked to, or to measure a line of text. -/
inductive Request (α : Type) where
  | call (c : Call α)
  | measure (face : Typeface) (text : String)

/-- The answers that the program gets from what draws for it. -/
class Host (α : Type) where
  /-- The colour that a text spells. -/
  color? : String → Option Color
  /-- The width and height of a line of text. -/
  textSize : Typeface → String → Int × Int
  /-- The fault that a request is refused with, if it is. -/
  refusal? : Request α → Option Fault

namespace Host

variable {α : Type}

/-- The host refuses nothing. -/
def Obliging (α : Type) [Host α] : Prop := ∀ r : Request α, refusal? r = none

/-- The host that only records: it refuses nothing and knows the colours of `Color.ofSpelling?`.
Every letter is half as wide as the typeface is high, and one pixel wider if it is bold; a line is
a quarter higher than the typeface. -/
@[reducible] def recording : Host α where
  color? := Color.ofSpelling?
  textSize t text := (text.length * (t.size / 2 + (if t.bold then 1 else 0)), t.size + t.size / 4)
  refusal? _ := none

instance : Host Float := recording

theorem obliging_recording : @Obliging α recording := fun _ => rfl

end Host

/-- The colour that a text spells, with blanks around it or in the short form (`parse_color`). -/
def Color.ofText? (α : Type) [Host α] (s : String) : Option Color :=
  Host.color? (α := α) (Color.spelling s)

end Diorama
