/-
# The closed sets of words

Every word of a document that selects a behaviour belongs to a closed set: what an entity is,
how it moves, what a click does.  A set of words is an inductive type with a `Vocabulary`: the
list of its members and the word of each.

`Vocabulary.choose` is the one place where a word is looked up, so an unknown word is reported
in one way: a line in the log, and a default if there is one.
-/
import Diorama.Act
import Diorama.Value

namespace Diorama

/-- A closed set of words.  No two members share a word. -/
class Vocabulary (κ : Type) where
  members : List κ
  word : κ → String

namespace Vocabulary

variable {κ : Type} [Vocabulary κ]

/-- The member with a given word. -/
def ofWord? (w : String) : Option κ := (members (κ := κ)).find? (word · == w)

/-- The member that a value names: only a text can. -/
def ofValue? {α : Type} : Value α → Option κ
  | .text w => ofWord? w
  | _ => none

end Vocabulary

/-- What a choice is made from: a value of a document, or a member already chosen. -/
inductive Choice (α κ : Type) where
  | value (v : Value α)
  | member (k : κ)

/-- The member that is chosen, or the default (`parse_enum`).  An unknown word is reported by the
part of the program called `reporter`; a missing one is not. -/
def Vocabulary.choose {α κ : Type} [Scalar α] [Vocabulary κ] (reporter what : String)
    (default : Option κ) : Choice α κ → Act Log (Option κ)
  | .member k => pure (some k)
  | .value .null => pure default
  | .value v =>
    match Vocabulary.ofValue? v with
    | some k => pure (some k)
    | none => do
      let instead := match default with
        | some d => ", using '" ++ Vocabulary.word d ++ "'"
        | none => ""
      let word ← Act.ofExcept v.written
      say ("[" ++ reporter ++ "] Warning: unknown " ++ what ++ " '" ++ word ++ "'" ++ instead)
      return default

/-- A choice with a default always chooses (`parse_enum`). -/
def Vocabulary.chooseOr {α κ : Type} [Scalar α] [Vocabulary κ] (reporter what : String)
    (default : κ) (v : Value α) : Act Log κ := do
  return (← Vocabulary.choose reporter what (some default) (.value v)).getD default

/-! ## The sets -/

/-- What an entity is (`EntityKind`). -/
inductive EntityKind where
  | sprite | button | text | shape
  deriving Repr, DecidableEq

instance : Vocabulary EntityKind where
  members := [.sprite, .button, .text, .shape]
  word
    | .sprite => "sprite"
    | .button => "button"
    | .text => "text"
    | .shape => "shape"

/-- How an entity is animated (`AnimationType`). -/
inductive AnimationKind where
  | fadeIn | fadeOut | slideIn | scale | pulse
  deriving Repr, DecidableEq

instance : Vocabulary AnimationKind where
  members := [.fadeIn, .fadeOut, .slideIn, .scale, .pulse]
  word
    | .fadeIn => "fadeIn"
    | .fadeOut => "fadeOut"
    | .slideIn => "slideIn"
    | .scale => "scale"
    | .pulse => "pulse"

/-- How the progress of an animation is bent (`Easing`). -/
inductive Easing where
  | linear | easeIn | easeOut | easeInOut
  deriving Repr, DecidableEq

instance : Vocabulary Easing where
  members := [.linear, .easeIn, .easeOut, .easeInOut]
  word
    | .linear => "linear"
    | .easeIn => "easeIn"
    | .easeOut => "easeOut"
    | .easeInOut => "easeInOut"

/-- The side of the canvas that an entity slides in from (`SlideDirection`). -/
inductive Side where
  | top | bottom | left | right
  deriving Repr, DecidableEq

instance : Vocabulary Side where
  members := [.top, .bottom, .left, .right]
  word
    | .top => "top"
    | .bottom => "bottom"
    | .left => "left"
    | .right => "right"

/-- What a click does (`ActionKind`). -/
inductive ActionKind where
  | switchScene | switchState | playSound | custom
  deriving Repr, DecidableEq

instance : Vocabulary ActionKind where
  members := [.switchScene, .switchState, .playSound, .custom]
  word
    | .switchScene => "switchScene"
    | .switchState => "switchState"
    | .playSound => "playSound"
    | .custom => "custom"

/-- When a state is left (`TransitionType`). -/
inductive TransitionKind where
  | timer
  deriving Repr, DecidableEq

instance : Vocabulary TransitionKind where
  members := [.timer]
  word
    | .timer => "timer"

/-- The form of a shape (`ShapeKind`). -/
inductive ShapeKind where
  | rect | circle | line
  deriving Repr, DecidableEq

instance : Vocabulary ShapeKind where
  members := [.rect, .circle, .line]
  word
    | .rect => "rect"
    | .circle => "circle"
    | .line => "line"

end Diorama
