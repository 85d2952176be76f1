/-
# The running animations

Each thing has at most one animation.  The table is keyed by what the thing is, not by the id
that a document may give it, so things without an id are animated too, and two things that
share an id do not disturb each other.
-/
import Diorama.Animation

namespace Diorama

/-- Something with a pose that can be moved. -/
class Posed (ε : Type) (α : outParam Type) where
  pose : ε → Pose α
  withPose : Pose α → ε → ε

instance {α : Type} : Posed (Pose α) α where
  pose p := p
  withPose p _ := p

/-- The animations by the index of the thing they move, in the order of their first attachment
(`Animator`). -/
structure Motions (α : Type) where
  entries : List (Nat × Animation α) := []

namespace Motions

variable {α ε : Type} [Scalar α] [Posed ε α]

/-- The animation of a thing (`Animator.get`). -/
def find? (a : Motions α) (i : Nat) : Option (Animation α) := a.entries.lookup i

def contains (a : Motions α) (i : Nat) : Bool := (a.find? i).isSome

def size (a : Motions α) : Nat := a.entries.length

/-- Sets the animation of a thing, which keeps its place in the table. -/
def put (a : Motions α) (i : Nat) (m : Animation α) : Motions α :=
  if a.contains i then ⟨a.entries.map fun e => if e.1 == i then (i, m) else e⟩
  else ⟨a.entries ++ [(i, m)]⟩

/-- Starts an animation on the thing `i`, in place of the one it may have (`Animator.attach`). -/
def attach (a : Motions α) (i : Nat) (spec : AnimationSpec α) (canvas : α × α)
    (things : Array ε) : Motions α × Array ε :=
  match things[i]? with
  | none => (a, things)
  | some t =>
    let p := Posed.pose t
    let m := Animation.ofSpec spec p
    (a.put i m, things.set! i (Posed.withPose (m.start canvas p) t))

/-- Forgets the animation of a thing (`Animator.remove`). -/
def remove (a : Motions α) (i : Nat) : Motions α := ⟨a.entries.filter (·.1 != i)⟩

/-- Lets time pass for the animations listed, one after the other, until one of them has no pose
(`Animator.update`). -/
def stepAll (dt : α) : List (Nat × Animation α) → Array ε →
    List (Nat × Animation α) × Array ε × Except Fault Unit
  | [], things => ([], things, .ok ())
  | (i, m) :: rest, things =>
    match things[i]? with
    | none =>
      let (rest, done) := stepAll dt rest things
      ((i, m) :: rest, done)
    | some t =>
      match m.step dt (Posed.pose t) with
      | (m, .error f) => ((i, m) :: rest, things, .error f)
      | (m, .ok p) =>
        let (rest, done) := stepAll dt rest (things.set! i (Posed.withPose p t))
        ((i, m) :: rest, done)

/-- Lets time pass (`Animator.update`). -/
def advance (dt : α) (a : Motions α) (things : Array ε) :
    Motions α × Array ε × Except Fault Unit :=
  let (entries, done) := stepAll dt a.entries things
  (⟨entries⟩, done)

end Motions

end Diorama
