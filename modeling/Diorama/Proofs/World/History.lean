/-
# The history of a world

A run is a list of operations on a world: scenes are registered and changed, the current scene is
sent to one of its states, and frames are played.  An operation that ends with a fault leaves
what it did, and the next one starts from there.

Seen more closely, a world is moved by *beats*: the current scene does one of its own works, a
scene is bound to the engine or leaves, or something outside of the scenes and the layers
changes.  No beat changes which scene is current.  That is done by a *turn*, which empties the
layers at the same moment.  So whatever is in a layer was put there in a beat after the last
turn, and only the current scene's work can do it (`History.putSince`).
-/
import Diorama.Proofs.World.Showing
import Diorama.World.Frames

namespace Diorama

open Act

variable {α : Type}

namespace World

/-! ## 1. Runs

An operation is what the caller of the engine does, a deed is an operation or an update on its
own.  Only its result is dropped: what an operation did before a fault stays, and the run goes on
from there. -/

/-- What can be asked of a world from outside. -/
inductive Operation (α : Type) where
  | register (name : String) (scene : Nat)
  | switchTo (name : Value α)
  | change (next : Option Nat)
  /-- Sends the current scene, if there is one, to one of its states. -/
  | switchState (name : Value α)
  /-- A frame is its events and then, unless one of them asks to stop, the time that passes. -/
  | events (es : List (Event α))
  | pass (dt : α)

/-- What happens in a run of a scene: an operation on its world, or an update of the scene alone, in
which all of the time counts. -/
inductive Deed (α : Type) where
  | operate (o : Operation α)
  | update (dt : α)

/-- Nothing was shown yet: every part of the engine is there, no scene is current, the layers are
empty, and no scene was ever entered. -/
structure Fresh (w : World α) : Prop where
  parts : w.missing = []
  idle : w.current = none
  blank : w.compositor = {}
  untouched : ∀ (n : Nat) (c : Script α), w.script? n = some c →
    c = { spec := c.spec, timer := c.timer, handlesCustom := c.handlesCustom }

section Runs

variable [Scalar α]

/-- What an operation does. -/
def Operation.act [Host α] : Operation α → Act (World α) Unit
  | .register name n => World.register name n
  | .switchTo name => World.switchTo name
  | .change next => changeScene next
  | .switchState name => do
    match (← get).current with
    | some n => switchToState n name
    | none => pure ()
  | .events es => do
    let _ ← handleEvents es
  | .pass dt => tick dt

/-- The world after some operations, whether or not they end with a fault. -/
def play [Host α] : List (Operation α) → World α → World α
  | [], w => w
  | o :: os, w => play os (o.act.after w)

/-- The time that counts of a deed, if it takes time. -/
def Deed.time? : Deed α → Option α
  | .operate (.pass dt) => some (Scalar.min dt longestFrame)
  | .operate _ => none
  | .update dt => some dt

end Runs

/-- A world is fresh when its engine has started. -/
theorem fresh_of_opened [Host α] [Scalar α] {width height : Int} {scale : α} {overlay : Bool}
    {device device' : Device α} {w : World α}
    (h : opened width height scale overlay device = (.ok w, device')) : w.Fresh := by
  unfold opened at h
  split at h
  · cases h
    refine ⟨rfl, rfl, rfl, fun n c hc => ?_⟩
    cases hc
  · cases h

/-! Two rooms, each with a door to the other.  A room starts with its door, which fades in, and can
get dark. -/

/-- Exact fractions with a simple sine, for worlds that are looked at one by one. -/
instance plainRat : Scalar Rat := .exact (fun x => x) 57

/-- Nothing is refused in those worlds. -/
instance plainHost : Host Rat := .recording

/-- A button that leads to a scene. -/
def door (target : String) : Fields Rat :=
  [(.text "type", .text "button"), (.text "id", .text "door"),
   (.text "animation", .map [(.text "type", .text "fadeIn")]),
   (.text "onClick", .map [(.text "action", .text "switchScene"), (.text "target", .text target)])]

def room (name target : String) : Scene Rat :=
  (Scene.scripted name false).adopt
    { name
      states := [
        { name := "bright", layers := [("UI_BUTTONS", [door target])] },
        { name := "dark", clears := true,
          layers := [("SHAPES", [[(.text "type", .text "shape")]])] }] }

/-- A world of two rooms that nobody has entered. -/
def house : World Rat where
  depot := { device := { frameRate := 60, chances := fun _ => 0 } }
  canvas := { sheet := .canvas, width := 1080, height := 1920 }
  window := { sheet := .window, width := 1080, height := 1920 }
  input := .ofScale (1, 1)
  scenes := #[room "hall" "yard", room "yard" "hall"]
  registry := [("hall", 0), ("yard", 1)]

/-- In the house nothing was shown yet. -/
theorem fresh_house : house.Fresh where
  parts := rfl
  idle := rfl
  blank := rfl
  untouched
    | 0, _, h => by cases h; rfl
    | 1, _, h => by cases h; rfl
    | _ + 2, _, h => by simp [script?, house] at h

/-- The hall is entered and its door is pressed. -/
def knock : List (Operation Rat) := [.switchTo (.text "hall"), .events [.press 10 10 1]]

/-- A world with one scene, which plays a document. -/
def playing (spec : SceneSpec Rat) : World Rat :=
  { house with
    scenes := #[{ (Scene.scripted "" false).adopt spec with bound := true }]
    registry := [(spec.name, 0)] }

/-- A world that plays a document was not played before. -/
theorem fresh_playing (spec : SceneSpec Rat) : (playing spec).Fresh where
  parts := rfl
  idle := rfl
  blank := rfl
  untouched
    | 0, _, h => by cases h; rfl
    | _ + 1, _, h => by simp [script?, playing] at h

/-! ## 2. Beats and turns

The smallest moves of a world that the results about isolation and time are told with.  A beat is
one of four things; which scene is current is never part of it. -/

/-- Neither the scenes nor what they made and show is touched. -/
structure Outside (w v : World α) : Prop where
  missing : v.missing = w.missing
  entities : v.entities = w.entities
  scenes : v.scenes = w.scenes
  current : v.current = w.current
  compositor : v.compositor = w.compositor

instance : IsPreorder (World α) Outside where
  refl _ := ⟨rfl, rfl, rfl, rfl, rfl⟩
  trans _ _ _ h h' := ⟨h'.1.trans h.1, h'.2.trans h.2, h'.3.trans h.3, h'.4.trans h.4,
    h'.5.trans h.5⟩

/-- The depot is outside of the scenes and the layers, so what happens there is a beat. -/
theorem OffDepot.outside {w v : World α} (h : w.OffDepot v) : w.Outside v := by
  rw [h]
  exact ⟨rfl, rfl, rfl, rfl, rfl⟩

/-- A scene takes over, or none does, and finds the layers empty. -/
def handedTo (next : Option Nat) (w : World α) : World α :=
  { w with compositor := {}, current := next }

section Beats

variable [Scalar α]

/-- One of the works of the scene `n`: it is entered, places what it shows, goes to a state, lets
its animations or its game go on, or takes its next wish. -/
inductive Work [Host α] (n : Nat) (w : World α) : World α → Prop where
  | enter : Work n w ((callEnter n).after w)
  | populate : Work n w ((callPopulate n).after w)
  | switchState (name : Value α) : Work n w ((switchToState n name).after w)
  | advance (dt : α) : Work n w ((advance n dt).after w)
  | play (dt : α) : Work n w ((stepPong n dt).after w)
  | wish {s : Scene α} {r : Witness} (hs : w.scenes[n]? = some s) (hr : s.role = .witness r) :
      Work n w ((nextWish n r).after w)

/-- The least that happens between two turns. -/
inductive Beat [Host α] (w : World α) : World α → Prop where
  | outside {v : World α} (h : w.Outside v) : Beat w v
  | work {n : Nat} {v : World α} (hn : w.current = some n) (h : Work n w v) : Beat w v
  | bound (n : Nat) : Beat w ((callBind n).after w)
  | left (n : Nat) : Beat w ((callLeave n).after w)

/-- One way in which a world can have come about, beat by beat and turn by turn. -/
inductive History [Host α] (start : World α) : World α → Type where
  | start : History start start
  | beat {w v : World α} (h : History start w) (hv : Beat w v) : History start v
  | turn {w : World α} (h : History start w) (next : Option Nat) : History start (w.handedTo next)

/-- A work of the scene `n` has put a thing into a layer, after the last turn. -/
def History.PutSince [Host α] {start : World α} (n : Nat) (o : Occupant) :
    {w : World α} → History start w → Prop
  | _, .start => False
  | v, .beat (w := w) h _ =>
    (w.current = some n ∧ Work n w v ∧ ¬ w.Holds o ∧ v.Holds o) ∨ h.PutSince n o
  | _, .turn _ _ => False

/-! ## 3. What a beat leaves alone

For each kind of beat, what it leaves as it was: a work leaves all scenes but its own, binding and
leaving do not touch the layers, and none of them changes the current scene. -/

omit [Scalar α] in
/-- A witness that takes its next wish changes its own list of wishes and nothing else. -/
theorem ownWork_nextWish {n : Nat} {w : World α} {s : Scene α} {r : Witness}
    (hs : w.scenes[n]? = some s) (hr : s.role = .witness r) :
    w.OwnWork n ((nextWish n r).after w) := by
  unfold nextWish
  split
  · exact refl w
  · refine OwnWork.modifyScene fun t ht => ?_
    rw [hs] at ht
    cases ht
    exact ⟨rfl, id, hr ▸ .witness rfl⟩

/-- Every work of a scene is its own work. -/
theorem Work.ownWork [Host α] {n : Nat} {w v : World α} (h : Work n w v) : w.OwnWork n v := by
  cases h with
  | enter => exact moves_callEnter n w
  | populate => exact moves_callPopulate n w
  | switchState name => exact moves_switchToState n name w
  | advance dt => exact moves_advance n dt w
  | play dt => exact moves_stepPong n dt w
  | wish hs hr => exact ownWork_nextWish hs hr

/-- A beat leaves the current scene current. -/
theorem Beat.current [Host α] {w v : World α} (h : Beat w v) : v.current = w.current := by
  cases h with
  | outside h => exact h.current
  | work _ h => exact h.ownWork.current
  | bound n => exact (moves_callBind n w).current
  | left n => exact (moves_callLeave n w).current

/-- In a beat no count goes back and no script is lost. -/
theorem Beat.ages [Host α] {w v : World α} (h : Beat w v) : w.Ages v := by
  cases h with
  | outside h => exact .of_eq h.missing h.scenes h.entities
  | work _ h => exact h.ownWork.toAges
  | bound n => exact (moves_callBind n w).toAges
  | left n => exact (moves_callLeave n w).toAges

end Beats

/-- The layers are the same. -/
def SameLayers (w v : World α) : Prop := v.compositor = w.compositor

instance : IsPreorder (World α) SameLayers where
  refl _ := rfl
  trans _ _ _ h h' := Eq.trans h' h

/-- What happens in the depot changes no layer. -/
theorem OffDepot.sameLayers {w v : World α} (h : w.OffDepot v) : w.SameLayers v :=
  h.outside.compositor

/-- The scripts are the same. -/
def SameScripts (w v : World α) : Prop := ∀ n, v.script? n = w.script? n

instance : IsPreorder (World α) SameScripts where
  refl _ _ := rfl
  trans _ _ _ h h' n := (h' n).trans (h n)

/-- Neither the layers nor the scripts are touched.  So it is when a scene is bound, and when it
gives its assets back. -/
structure Backstage (w v : World α) : Prop where
  layers : w.SameLayers v
  scripts : w.SameScripts v

instance : IsPreorder (World α) Backstage where
  refl _ := ⟨refl _, refl _⟩
  trans _ _ _ h h' := ⟨Trans.trans h.layers h'.layers, Trans.trans h.scripts h'.scripts⟩

/-- What happens in the depot changes neither the layers nor a script. -/
theorem OffDepot.backstage {w v : World α} (h : w.OffDepot v) : w.Backstage v := by
  rw [h]
  exact ⟨rfl, fun _ => rfl⟩

/-- What a scene knows apart from its role is no matter of its script. -/
theorem moves_modifyScene_backstage (n : Nat) {f : Scene α → Scene α}
    (hf : ∀ s, (f s).role = s.role) :
    (modifyScene n f : Act (World α) Unit).Moves Backstage :=
  fun w => ⟨rfl, fun m => script?_modifyScene w n m hf⟩

/-- Binding a scene marks it as bound, which is no part of its script. -/
theorem moves_callBind_backstage (n : Nat) :
    (callBind n : Act (World α) Unit).Moves Backstage := by
  unfold callBind
  refine moves_bind (moves_modifyScene_backstage n fun _ => rfl) fun _ => ?_
  refine moves_bind (moves_sceneAt n).of_eq fun s => ?_
  split
  · exact (moves_witness n _ _ _).mono fun _ _ h => h.backstage
  · exact moves_pure _

section Beats

variable [Scalar α]

/-- To give assets back is done in the depot; then the scene is marked as not set up, which is no
part of its script either. -/
theorem moves_giveBack_backstage (n : Nat) :
    (giveBack n : Act (World α) Unit).Moves Backstage := by
  unfold giveBack
  refine moves_bind (moves_scriptAt n).of_eq fun c => ?_
  split
  · exact moves_pure _
  · refine moves_bind (moves_reaches n _).of_eq fun _ => moves_ite ?_ (moves_pure _)
    refine moves_bind (moves_ofExcept _) fun ids => moves_ite ?_ (moves_pure _)
    exact moves_bind ((moves_onDepot _).mono fun _ _ h => h.backstage) fun _ =>
      moves_modifyScene_backstage n fun _ => rfl

/-- A scene that leaves forgets its own records.  The layers are emptied later, by the turn. -/
theorem moves_callLeave_sameLayers (n : Nat) :
    (callLeave n : Act (World α) Unit).Moves SameLayers := by
  unfold callLeave
  refine moves_bind (moves_sceneAt n).of_eq fun s => ?_
  split
  · exact (moves_witness n _ _ _).mono fun _ _ h => h.sameLayers
  · exact moves_bind (moves_modify fun _ => rfl) fun _ =>
      (moves_giveBack_backstage n).mono fun _ _ h => h.layers
  · exact moves_pure _
  · exact moves_pure _

/-- Only the work of the current scene puts anything into a layer. -/
theorem Beat.work_of_holds [Host α] {w v : World α} (h : Beat w v) {o : Occupant} (hw : ¬ w.Holds o)
    (hv : v.Holds o) : ∃ n, w.current = some n ∧ Work n w v := by
  have same (hc : v.compositor = w.compositor) : False := by
    unfold Holds at hv
    rw [hc] at hv
    exact hw hv
  cases h with
  | outside h => exact (same h.compositor).elim
  | work hn h => exact ⟨_, hn, h⟩
  | bound n => exact (same (moves_callBind_backstage n w).layers).elim
  | left n => exact (same (moves_callLeave_sameLayers n w)).elim

/-! ## 4. Histories

By induction on the history.  A turn empties the layers, so what is in one of them came in a beat
after it, and of all beats only a work can have put it there. -/

omit [Scalar α] in
/-- Nothing is in empty layers. -/
theorem not_holds_empty {w : World α} (h : w.compositor = {}) (o : Occupant) : ¬ w.Holds o := by
  rintro ⟨l, hl⟩
  rw [h, Compositor.items_empty] at hl
  cases hl

/-- **In every history of a world, whatever is shown was put there by the current scene, since it
became the current one.** -/
theorem History.putSince [Host α] {start : World α} (hstart : start.Fresh) {o : Occupant} :
    ∀ {w : World α} (h : History start w), w.Holds o →
      ∃ n, w.current = some n ∧ h.PutSince n o
  | _, .start, ho => (not_holds_empty hstart.blank o ho).elim
  | _, .turn _ _, ho => (not_holds_empty rfl o ho).elim
  | v, .beat (w := w) h hv, ho => by
    rw [hv.current]
    by_cases hw : w.Holds o
    · obtain ⟨n, hn, hput⟩ := h.putSince hstart hw
      exact ⟨n, hn, Or.inr hput⟩
    · obtain ⟨n, hn, hwork⟩ := hv.work_of_holds hw ho
      exact ⟨n, hn, Or.inl ⟨hn, hwork, hw, ho⟩⟩

end Beats

end World

end Diorama
