/-
# The stream of chances

The device is given its chances once, as a stream, and gives them out one after the other.  Taking
one moves on in the stream, and nothing else that is asked of the device or of the depot touches it
at all: whatever is loaded, played or forgotten, the chances that are still to come are the same
(`Device.SameChances`, `Depot.SameChances`).
-/
import Diorama.Proofs.Drawing
import Diorama.Proofs.Images

namespace Diorama

open Act

variable {α : Type}

/-! ## 1. The device

The acts of the device, one by one.  None but `chance` itself looks at the stream. -/

namespace Device

/-- The stream of chances is the same. -/
def SameChances (d e : Device α) : Prop := e.chances = d.chances

instance : IsPreorder (Device α) SameChances where
  refl _ := rfl
  trans _ _ _ h h' := Eq.trans h' h

theorem sameChances_say (line : String) :
    (liftM (say line) : Act (Device α) Unit).Moves SameChances := fun _ => rfl

/-- A call is recorded, and the stream is not looked at. -/
theorem sameChances_call (c : Call α) : (call c).Moves SameChances := moves_modify fun _ => rfl

theorem sameChances_newSheet : (newSheet : Act (Device α) Sheet).Moves SameChances := fun _ => rfl

/-- A sheet may be made or refused; the stream is the same in both cases. -/
theorem sameChances_create [Host α] (c : Sheet → Call α) : (create c).Moves SameChances :=
  moves_create (moves_bind sameChances_newSheet fun _ => moves_bind (sameChances_call _) fun _ =>
    moves_pure _)

theorem sameChances_make [Host α] (width height : Int) :
    (make width height : Act (Device α) Surface).Moves SameChances := by
  unfold make
  have hnew : (do
      let sheet ← create (.make · width height)
      return { sheet, width, height } : Act (Device α) Surface).Moves SameChances :=
    moves_bind (sameChances_create _) fun _ => moves_pure _
  exact moves_ite (moves_bind (moves_throw _) fun _ => hnew) hnew

/-- A placeholder is drawn square by square and kept, without any chance in it. -/
theorem sameChances_placeholder [Host α] (side : Int) :
    (placeholder side : Act (Device α) Surface).Moves SameChances := by
  unfold placeholder
  refine moves_bind moves_get fun d => ?_
  split
  · exact moves_pure _
  · refine moves_bind (sameChances_make _ _) fun s => ?_
    refine moves_bind (moves_forM _ fun _ _ => moves_ask (sameChances_call _)) fun _ => ?_
    exact moves_bind (moves_modify fun _ => rfl) fun _ => moves_pure _

theorem sameChances_loadImage [Host α] (path : String) :
    (loadImage path : Act (Device α) Surface).Moves SameChances := by
  unfold loadImage
  refine moves_bind moves_get fun d => ?_
  split
  · exact moves_throw _
  · exact moves_bind (sameChances_create _) fun _ => moves_pure _
  · exact moves_throw _

theorem sameChances_image [Host α] (path : String) :
    (image path : Act (Device α) Surface).Moves SameChances := by
  refine moves_tryCatch (moves_bind (sameChances_loadImage path) fun s => ?_) fun e => ?_
  · exact moves_bind moves_get fun d =>
      moves_ite (moves_bind (moves_ask (sameChances_call _)) fun _ => moves_pure _) (moves_pure _)
  · have hreport (line : String) : (do
        liftM (say line)
        placeholder placeholderSide : Act (Device α) Surface).Moves SameChances :=
      moves_bind (sameChances_say _) fun _ => sameChances_placeholder _
    split
    · exact hreport _
    · exact hreport _
    · exact moves_throw _

/-- Sound hardware comes up or does not, which is fixed from the start and no chance. -/
theorem sameChances_startMixer : (startMixer : Act (Device α) Unit).Moves SameChances := by
  unfold startMixer
  refine moves_bind (sameChances_call _) fun _ => moves_bind moves_get fun d => ?_
  split
  · exact moves_modify fun _ => rfl
  · exact moves_throw _
  · exact moves_pure _

theorem sameChances_loadSound (path : String) :
    (loadSound path : Act (Device α) Unit).Moves SameChances := by
  unfold loadSound
  refine moves_bind moves_get fun d => ?_
  split
  · exact sameChances_call _
  · exact moves_throw _

/-- Whether a channel is free is fixed as well. -/
theorem sameChances_findChannel : (findChannel : Act (Device α) Bool).Moves SameChances :=
  moves_bind (sameChances_call _) fun _ => moves_bind moves_get fun _ => moves_pure _

end Device

/-! ## 2. The depot

What the depot does, it does with the device. -/

namespace Depot

/-- The stream of chances is the same. -/
def SameChances (d e : Depot α) : Prop := d.device.SameChances e.device

instance : IsPreorder (Depot α) SameChances where
  refl _ := rfl
  trans _ _ _ h h' := Eq.trans h' h

theorem sameChances_onDevice {β : Type} {x : Act (Device α) β}
    (hx : x.Moves Device.SameChances) : (onDevice x).Moves SameChances := fun d => hx d.device

/-- Everything that is done with sounds is made of a few requests, and none of them draws a
chance. -/
theorem listens_sameChances : Listens (α := α) SameChances where
  log _ _ := rfl
  call c := sameChances_onDevice (Device.sameChances_call c)
  start := sameChances_onDevice Device.sameChances_startMixer
  decode path := sameChances_onDevice (Device.sameChances_loadSound path)
  channel := sameChances_onDevice Device.sameChances_findChannel
  sounds _ _ := rfl

/-- To forget assets stops their sounds and draws no chance. -/
theorem sameChances_unloadAssets (ids : List String) :
    (unloadAssets ids : Act (Depot α) Unit).Moves SameChances :=
  moves_forM ids fun id _ => moves_bind (moves_modify fun _ => rfl) fun _ =>
    moves_bind moves_get fun _ => moves_ite (listens_sameChances.unloadSound id) (moves_pure _)

variable [Scalar α]

theorem sameChances_loadImage [Host α] (folder : Option String) (entry : Value α) :
    (loadImage folder entry).Moves SameChances := by
  have hput (path id : String) : (do
      let s ← onDevice (Device.image path)
      modify fun d => { d with images := d.images.put id s }
      return some id : Act (Depot α) (Option String)).Moves SameChances :=
    moves_bind (sameChances_onDevice (Device.sameChances_image path)) fun _ =>
      moves_bind (moves_modify fun _ => rfl) fun _ => moves_pure _
  unfold loadImage
  refine moves_bind (listens_sameChances.log _) fun r => ?_
  split
  · exact moves_pure _
  · exact moves_bind moves_get fun d =>
      moves_ite (moves_bind (listens_sameChances.log _) fun _ => hput _ _) (hput _ _)

/-- By induction on the entries. -/
theorem sameChances_loadImages [Host α] (folder : Option String) :
    ∀ entries : List (Value α), (loadImages folder entries).Moves SameChances
  | [] => moves_pure _
  | entry :: rest => moves_bind (sameChances_loadImage folder entry) fun _ =>
      moves_bind (sameChances_loadImages folder rest) fun _ => moves_pure _

end Depot

end Diorama
