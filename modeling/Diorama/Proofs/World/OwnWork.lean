/-
# The work of a scene

Building and placing entities, moving them, playing a game, entering and placing what is shown:
all this is put together from a few changes of a world.  The device is asked for something, the
script or the game of the scene changes, something is put into a layer, or entities are made and
moved.  So whatever relation between two worlds holds across these few (`Tools`) holds across all
of it, and the lemmas follow the text of the acts once, for every such relation.  For the work of a
scripted scene it is enough that the relation holds across everything but the layers (`Chores`), and
across emptying them and placing an entity (`Places`); for a step of a game, that it holds across
what the game itself writes (`Strokes`).

The first of them is `World.OwnWork`: the hooks of a scene are its own work.  A scene that leaves
or is bound to the engine does not even touch the layers (`moves_callLeave`, `moves_callBind`).
-/
import Diorama.Proofs.World.Lasting

namespace Diorama

open Act

variable {α : Type}

namespace World

/-! ## 1. Changes of the depot

The depot holds the device, and the device the log; an act on any of them changes the depot of the
world and nothing else. -/

/-- An act on the depot changes at most the depot. -/
theorem moves_onDepot {β : Type} (x : Act (Depot α) β) : (onDepot x).Moves OffDepot :=
  fun _ => rfl

theorem moves_onDevice {β : Type} (x : Act (Device α) β) : (onDevice x).Moves OffDepot :=
  moves_onDepot _

/-- Printing changes the depot, which has the device with the log. -/
theorem moves_liftLog {β : Type} (x : Act Log β) : (liftM x : Act (World α) β).Moves OffDepot :=
  moves_onDepot _

/-- Puts another log in place. -/
def withLog (log : Log) (w : World α) : World α :=
  { w with depot := { w.depot with device := { w.depot.device with log } } }

/-- An act on the log runs in the world as it runs on the log alone, and only the log is replaced.
-/
theorem run_liftLog {β : Type} {x : Act Log β} {w : World α} {r : Except Fault β} {log : Log}
    (h : x.run w.depot.device.log = (r, log)) :
    (liftM x : Act (World α) β).run w = (r, w.withLog log) := by
  change ((x.run w.depot.device.log).1, w.withLog (x.run w.depot.device.log).2) = _
  rw [h]

/-- Every run in the world comes from one on the log. -/
theorem run_of_liftLog {β : Type} {x : Act Log β} {w v : World α} {r : Except Fault β}
    (h : (liftM x : Act (World α) β).run w = (r, v)) :
    x.run w.depot.device.log = (r, v.depot.device.log) := by
  cases h
  rfl

theorem moves_sayFor (n : Nat) (line : String) :
    (sayFor n line : Act (World α) Unit).Moves OffDepot :=
  moves_bind (moves_sceneAt n).of_eq fun _ => moves_liftLog _

/-- A witness only makes a note with the device. -/
theorem moves_witness (n : Nat) (hook : Hook) (counts : Bool) (dt : Option α) :
    (witness n hook counts dt).Moves OffDepot := by
  unfold witness
  exact moves_bind (moves_sceneAt n).of_eq fun s => moves_bind moves_get fun w => moves_onDevice _

end World

/-- What only changes the depot is the own work of whichever scene does it. -/
theorem Act.Moves.ownWork {β : Type} {x : Act (World α) β} (h : x.Moves World.OffDepot) (n : Nat) :
    x.Moves (World.OwnWork n) := h.mono fun _ _ h => h.ownWork n

namespace World

/-! ## 2. Changes of a world

The changes that a scene makes of its world, one by one: its own data, its script, entities, the
layers.  Each is shown to be its own work here, and nowhere else. -/

section Changes

variable {n : Nat}

/-- A scene may change what it holds, as far as its name, hooks, binding and role last. -/
theorem OwnWork.modifyScene {w : World α} {f : Scene α → Scene α}
    (h : ∀ s, w.scenes[n]? = some s → s.Lasts (f s)) :
    w.OwnWork n { w with scenes := w.scenes.modify n f } where
  missing := rfl
  size := Array.size_modify
  scenes m s hs := by
    rw [Array.getElem?_modify]
    split
    · next hnm =>
      subst hnm
      rw [hs]
      exact ⟨f s, rfl, h s hs⟩
    · exact ⟨s, hs, .refl s⟩
  entities := .refl _
  current := rfl
  registry := rfl
  input := rfl
  others m hm := by
    rw [Array.getElem?_modify, if_neg (Ne.symm hm)]

/-- A script may move on in its document and track what it likes; the document stays. -/
theorem OwnWork.mapScript {w : World α} {f : Script α → Script α}
    (hspec : ∀ c, (f c).spec = c.spec) (hhandles : ∀ c, (f c).handlesCustom = c.handlesCustom)
    (hact : ∀ c, c.activations ≤ (f c).activations) : w.OwnWork n (w.mapScript n f) := by
  refine OwnWork.modifyScene fun s _ => ?_
  obtain ⟨name, bound, started, role⟩ := s
  cases role with
  | scripted c => exact ⟨rfl, id, .scripted (hspec c) (hhandles c) (hact c)⟩
  | plain => exact .refl _
  | pong p => exact .refl _
  | witness v => exact .refl _

/-- Entities may be made and moved by anyone, as long as buttons stay the buttons they are. -/
theorem OwnWork.setEntities {w : World α} {es : Array (Entity α)}
    (h : SameButtons w.entities es) :
    w.OwnWork n { w with entities := es } where
  missing := rfl
  size := rfl
  scenes _ s hs := ⟨s, hs, .refl s⟩
  entities := h
  current := rfl
  registry := rfl
  input := rfl
  others _ _ := rfl

/-- The relation says nothing of what is in the layers. -/
theorem OwnWork.setCompositor (w : World α) (c : Compositor Occupant) :
    w.OwnWork n { w with compositor := c } where
  missing := rfl
  size := rfl
  scenes _ s hs := ⟨s, hs, .refl s⟩
  entities := .refl _
  current := rfl
  registry := rfl
  input := rfl
  others _ _ := rfl

end Changes

section Acts

variable (n : Nat)

theorem moves_modifyScene {f : Scene α → Scene α} (h : ∀ s : Scene α, s.Lasts (f s)) :
    (modifyScene n f : Act (World α) Unit).Moves (OwnWork n) :=
  moves_modify fun _ => .modifyScene fun s _ => h s

theorem moves_modifyScript {f : Script α → Script α} (hspec : ∀ c, (f c).spec = c.spec)
    (hhandles : ∀ c, (f c).handlesCustom = c.handlesCustom)
    (hact : ∀ c, c.activations ≤ (f c).activations) :
    (modifyScript n f : Act (World α) Unit).Moves (OwnWork n) :=
  fun _ => OwnWork.mapScript hspec hhandles hact

/-- A game may change in any way: the relation says nothing of it. -/
theorem moves_modifyPong (f : PongScene α → PongScene α) :
    (modifyPong n f : Act (World α) Unit).Moves (OwnWork n) := by
  refine moves_modifyScene n fun s => ?_
  obtain ⟨name, bound, started, role⟩ := s
  cases role with
  | pong p => exact ⟨rfl, id, .pong p (f p)⟩
  | plain => exact .refl _
  | scripted c => exact .refl _
  | witness v => exact .refl _

end Acts

/-! ## 3. What a scene works with

`Notes`, `Chores`, `Strokes`, `Places` and `Tools` list the few changes that larger acts are made
of.  A relation that has one of these lists has all acts that are made of it; so a new invariant
costs a proof for each line of the list, and not one for each act. -/

/-- The relation holds across what the scene `n` notes: it prints, and it writes down in its script
where it is and what it keeps track of, but starts no animation. -/
structure Notes (n : Nat) (R : World α → World α → Prop) : Prop where
  liftLog {β : Type} (x : Act Log β) : (liftM x : Act (World α) β).Moves R
  script {f : Script α → Script α} (hspec : ∀ c, (f c).spec = c.spec)
    (hhandles : ∀ c, (f c).handlesCustom = c.handlesCustom)
    (hact : ∀ c, c.activations ≤ (f c).activations)
    (hmotions : ∀ c, (f c).motions = c.motions ∨ (f c).motions = {}) : (modifyScript n f).Moves R

/-- The relation holds across the changes that the work of the scene `n` is put together from,
other than those of the layers. -/
structure Chores (n : Nat) (R : World α → World α → Prop) : Prop extends Notes n R where
  device {β : Type} (x : Act (Device α) β) : (onDevice x).Moves R
  animate (motions : Motions α) : (modifyScript n fun s => { s with motions }).Moves R
  game (f : PongScene α → PongScene α) : (modifyPong n f).Moves R
  entities {w : World α} {es : Array (Entity α)} (h : SameButtons w.entities es) :
    R w { w with entities := es }

/-- The relation holds across all the changes that the work of the scene `n` is put together
from. -/
structure Tools (n : Nat) (R : World α → World α → Prop) : Prop extends Chores n R where
  layers (f : Compositor Occupant → Compositor Occupant) : (modifyCompositor f).Moves R

/-- The relation holds across what playing the game of the scene `n` is put together from: a chance
is taken, the score is written down, and the pieces are put where a game has them or the score is
shown. -/
structure Strokes (n : Nat) (R : World α → World α → Prop) : Prop where
  chance : (onDevice Device.chance).Moves R
  tally {f : PongScene α → PongScene α} (h : ∀ p, (f p).pieces = p.pieces) :
    (modifyPong n f).Moves R
  write (g : Pong.Game α) : (writeGame n g).Moves R
  showScore : (showScore n).Moves R

/-- The first relation with all the tools: a scene's own work. -/
theorem tools_ownWork (n : Nat) : Tools (α := α) n (OwnWork n) where
  liftLog x := (moves_liftLog x).ownWork n
  device x := (moves_onDevice x).ownWork n
  script hspec hhandles hact _ := moves_modifyScript n hspec hhandles hact
  animate _ := moves_modifyScript n (fun _ => rfl) (fun _ => rfl) fun _ => Nat.le_refl _
  game := moves_modifyPong n
  layers _ := moves_modify fun w => .setCompositor w _
  entities := OwnWork.setEntities

namespace Tools

variable {n : Nat} {R : World α → World α → Prop}

/-- A weaker relation has the tools of a stronger one. -/
theorem mono {S : World α → World α → Prop} (h : Tools n R) (hRS : ∀ w v, R w v → S w v) :
    Tools n S where
  liftLog x := (h.liftLog x).mono hRS
  device x := (h.device x).mono hRS
  script hspec hhandles hact hmotions := (h.script hspec hhandles hact hmotions).mono hRS
  animate motions := (h.animate motions).mono hRS
  game f := (h.game f).mono hRS
  layers f := (h.layers f).mono hRS
  entities hes := hRS _ _ (h.entities hes)

/-- Two relations may be shown together, where one alone does not carry itself. -/
theorem and {S : World α → World α → Prop} (h : Tools n R) (h' : Tools n S) :
    Tools n fun w v => R w v ∧ S w v where
  liftLog x w := ⟨h.liftLog x w, h'.liftLog x w⟩
  device x w := ⟨h.device x w, h'.device x w⟩
  script hspec hhandles hact hmotions w :=
    ⟨h.script hspec hhandles hact hmotions w, h'.script hspec hhandles hact hmotions w⟩
  animate motions w := ⟨h.animate motions w, h'.animate motions w⟩
  game f w := ⟨h.game f w, h'.game f w⟩
  layers f w := ⟨h.layers f w, h'.layers f w⟩
  entities hes := ⟨h.entities hes, h'.entities hes⟩

end Tools

/-- Changes of a script that leave its document, the count of its activations and its animations
alone. -/
theorem Notes.record {n : Nat} {R : World α → World α → Prop} (h : Notes n R)
    {f : Script α → Script α} (hspec : ∀ c, (f c).spec = c.spec)
    (hhandles : ∀ c, (f c).handlesCustom = c.handlesCustom)
    (hact : ∀ c, (f c).activations = c.activations)
    (hmotions : ∀ c, (f c).motions = c.motions) : (modifyScript n f).Moves R :=
  h.script hspec hhandles (fun c => Nat.le_of_eq (hact c).symm) fun c => .inl (hmotions c)

namespace Chores

variable {n : Nat} {R : World α → World α → Prop}

theorem addEntity (h : Chores n R) (e : Entity α) : (World.addEntity e).Moves R := by
  intro w
  refine h.entities fun k f hf => ⟨f, ?_, .refl f⟩
  obtain ⟨hk, rfl⟩ := Array.getElem?_eq_some_iff.1 hf
  exact Array.getElem?_push_lt hk

/-- Moving a thing is a chore only if it leaves a button the button it is. -/
theorem modifyEntity (h : Chores n R) (k : Nat) {f : Entity α → Entity α}
    (hf : ∀ e : Entity α, e.SameButton (f e)) : (World.modifyEntity k f).Moves R := by
  refine moves_modify fun w => h.entities fun j e he => ?_
  rw [Array.getElem?_modify]
  split
  · rw [he]
    exact ⟨f e, rfl, hf e⟩
  · exact ⟨e, he, .refl e⟩

end Chores

end World

/-! ## 4. Animations

Animations move things by their poses, and a pose has neither form nor action in it; so a button
that is animated stays the button it was. -/

/-- Replacing one thing keeps all buttons, if it keeps that one. -/
theorem sameButtons_set (es : Array (Entity α)) (i : Nat) {e f : Entity α} (he : es[i]? = some e)
    (h : e.SameButton f) : SameButtons es (es.set! i f) := by
  intro k d hd
  rw [Array.set!_eq_setIfInBounds, Array.getElem?_setIfInBounds]
  split
  · next hik =>
    subst hik
    rw [he] at hd
    cases hd
    rw [if_pos (Array.getElem?_eq_some_iff.1 he).1]
    exact ⟨f, rfl, h⟩
  · exact ⟨d, hd, .refl d⟩

/-- A new pose makes no other button. -/
theorem sameButton_withPose (p : Pose α) (e : Entity α) : e.SameButton (Posed.withPose p e) :=
  .of_form rfl

section Motions

variable [Scalar α]

/-- To attach an animation moves at most one thing, to its start. -/
theorem sameButtons_attach (a : Motions α) (i : Nat) (spec : AnimationSpec α) (canvas : α × α)
    (es : Array (Entity α)) : SameButtons es (a.attach i spec canvas es).2 := by
  unfold Motions.attach
  split
  · exact .refl es
  · next e he => exact sameButtons_set es i he (sameButton_withPose _ e)

/-- By induction on the animations: each moves one thing, until one of them has no pose. -/
theorem sameButtons_stepAll (dt : α) :
    ∀ (ms : List (Nat × Animation α)) (es : Array (Entity α)),
      SameButtons es (Motions.stepAll dt ms es).2.1
  | [], es => .refl es
  | (i, m) :: rest, es => by
    unfold Motions.stepAll
    split
    · exact sameButtons_stepAll dt rest es
    · next e he =>
      split
      · exact .refl es
      · exact (sameButtons_set es i he (sameButton_withPose _ e)).trans
          (sameButtons_stepAll dt rest _)

theorem sameButtons_advance (dt : α) (a : Motions α) (es : Array (Entity α)) :
    SameButtons es (a.advance dt es).2.1 := sameButtons_stepAll dt a.entries es

end Motions

namespace World

/-! ## 5. Chores

What a scene does beside building: to note something, to record, to move its things on. -/

section Call

variable {R : World α → World α → Prop} [IsPreorder (World α) R]
  (hcall : ∀ c : Call α, (onDevice (Device.call c)).Moves R)

include hcall

/-- What a hook notes is a call. -/
theorem moves_witness_of (n : Nat) (hook : Hook) (counts : Bool) (dt : Option α) :
    (witness n hook counts dt).Moves R := by
  unfold witness
  exact moves_bind (moves_sceneAt n).of_eq fun _ => moves_bind moves_get fun _ => hcall _

/-- An event is only looked at by a witness, which notes it. -/
theorem moves_callEvent_of (n : Nat) : (callEvent n).Moves R := by
  unfold callEvent
  refine moves_bind (moves_sceneAt n).of_eq fun s => ?_
  split
  · exact moves_witness_of hcall n _ _ _
  · exact moves_pure _

end Call

namespace Notes

variable {n : Nat} {R : World α → World α → Prop} [IsPreorder (World α) R]

theorem sayFor (h : Notes n R) (line : String) : (World.sayFor n line).Moves R :=
  moves_bind (moves_sceneAt n).of_eq fun _ => h.liftLog _

/-- To list a button changes the script of the scene and nothing else. -/
theorem recordButton (h : Notes n R) (e : Nat) : (World.recordButton n e).Moves R :=
  moves_bind (moves_entityAt e).of_eq fun _ =>
    moves_ite (h.record (fun _ => rfl) (fun _ => rfl) (fun _ => rfl) fun _ => rfl) (moves_pure _)

/-- The stage is cleared by emptying the layers, and what was tracked is dropped. -/
theorem clearStage (h : Notes n R) (hempty : (modifyCompositor (·.clearAll)).Moves R) :
    (World.clearStage n).Moves R := by
  have hdrop : (modifyScript n (·.dropTracking)).Moves R :=
    h.script (fun _ => rfl) (fun _ => rfl) (fun c => Nat.le_succ c.activations) fun _ => .inr rfl
  unfold World.clearStage
  refine moves_bind (moves_reaches n _).of_eq fun _ => moves_ite ?_ hdrop
  exact moves_bind hempty fun _ => hdrop

end Notes

namespace Chores

variable {n : Nat} {R : World α → World α → Prop} [IsPreorder (World α) R]

/-- To put the pieces of a game in place moves three entities. -/
theorem writeGame (h : Chores n R) (g : Pong.Game α) : (World.writeGame n g).Moves R := by
  have hmove (k : Nat) (b : Pong.Block α) : (World.modifyEntity k (moveTo b)).Moves R :=
    h.modifyEntity k fun _ => .of_form rfl
  unfold World.writeGame
  refine moves_bind (moves_piecesAt n).of_eq fun p => moves_bind (hmove _ _) fun _ => ?_
  exact moves_bind (hmove _ _) fun _ => moves_bind (hmove _ _) fun _ => h.game _

theorem showScore (h : Chores n R) : (World.showScore n).Moves R := by
  unfold World.showScore
  refine moves_bind (moves_piecesAt n).of_eq fun p => ?_
  refine moves_bind (moves_readGame n).of_eq fun g => ?_
  refine h.modifyEntity _ fun e => ?_
  obtain ⟨body, form⟩ := e
  cases form with
  | text content font align lettering => exact ⟨rfl, fun h => nomatch h⟩
  | _ => exact .refl _

/-- Whoever may do all chores may do the strokes of a game. -/
theorem strokes (h : Chores n R) : Strokes n R where
  chance := h.device _
  tally _ := h.game _
  write := h.writeGame
  showScore := h.showScore

end Chores

variable [Scalar α]

namespace Strokes

variable {n : Nat} {R : World α → World α → Prop} [IsPreorder (World α) R]

theorem serve (h : Strokes n R) : (World.serve n).Moves R := by
  unfold World.serve
  refine moves_bind (moves_pongAt n).of_eq fun c => moves_bind h.chance fun _ => ?_
  refine moves_bind h.chance fun _ => moves_bind (moves_readGame n).of_eq fun _ => ?_
  exact h.write _

theorem enterPong (h : Strokes n R) : (World.enterPong n).Moves R :=
  moves_bind (h.tally fun _ => rfl) fun _ => h.serve

/-- A step of a game: looking at the keys, playing, and perhaps a serve. -/
theorem stepPong (h : Strokes n R) (dt : α) : (World.stepPong n dt).Moves R := by
  unfold World.stepPong
  refine moves_bind (moves_pongAt n).of_eq fun c => moves_bind (moves_keysAt n).of_eq fun keys => ?_
  refine moves_bind (moves_readGame n).of_eq fun g => ?_
  dsimp only
  split
  · exact h.write _
  · refine moves_bind h.chance fun _ => moves_bind h.chance fun _ => ?_
    exact moves_bind (h.write _) fun _ => h.showScore

end Strokes

/-- What is left after an animation was attached: the table of the script has it, and its entity
stands at the start. -/
theorem after_attach (n e : Nat) (spec : AnimationSpec α) (w : World α) :
    (attach n e spec).after w = match w.script? n with
      | none => w
      | some c =>
        let r := c.motions.attach e spec (canvasOf c) w.entities
        { w with entities := r.2 }.mapScript n fun s => { s with motions := r.1 } := by
  unfold attach
  cases h : w.script? n with
  | none => exact after_bind_of_error (by rw [run_scriptAt, h])
  | some c => exact after_bind_of_ok (by rw [run_scriptAt, h])

namespace Notes

variable {n : Nat} {R : World α → World α → Prop} [IsPreorder (World α) R]

/-- To record an id changes the script of the scene and nothing else. -/
theorem recordId (h : Notes n R) (fields : Fields α) (e : Nat) :
    (World.recordId n fields e).Moves R :=
  moves_ite (moves_bind (moves_ofExcept _) fun _ =>
    h.record (fun _ => rfl) (fun _ => rfl) (fun _ => rfl) fun _ => rfl) (moves_pure _)

/-- Entering rewinds the script to its first state, which is a chore. -/
theorem enterScript (h : Notes n R) : (World.enterScript n).Moves R := by
  unfold World.enterScript
  refine moves_bind (h.record (fun _ => rfl) (fun _ => rfl) (fun _ => rfl) fun _ => rfl) fun _ => ?_
  refine moves_bind (moves_scriptAt n).of_eq fun c => ?_
  split
  · exact moves_pure _
  · refine moves_bind ?_ fun _ => h.sayFor _
    exact h.record (fun _ => rfl) (fun _ => rfl) (fun _ => rfl) fun _ => rfl

end Notes

namespace Chores

variable {n : Nat} {R : World α → World α → Prop} [IsPreorder (World α) R]

theorem attach (h : Chores n R) (e : Nat) (spec : AnimationSpec α) :
    (World.attach n e spec).Moves R := by
  intro w
  rw [after_attach]
  cases w.script? n with
  | none => exact refl w
  | some c =>
    exact Trans.trans (h.entities (sameButtons_attach c.motions e spec (canvasOf c) w.entities))
      (h.animate _ _)

theorem attachDescribed (h : Chores n R) (fields : Fields α) (e : Nat) :
    (World.attachDescribed n fields e).Moves R := by
  unfold World.attachDescribed
  refine moves_ite (moves_bind (h.liftLog _) fun spec => ?_) (moves_pure _)
  split
  · exact h.attach e _
  · exact moves_pure _

/-- To let time pass moves the timer, then the animations, then their entities. -/
theorem advance (h : Chores n R) (dt : α) : (World.advance n dt).Moves R := by
  unfold World.advance
  refine moves_bind (h.record (fun _ => rfl) (fun _ => rfl) (fun _ => rfl) fun _ => rfl) fun _ => ?_
  intro w
  cases hc : w.script? n with
  | none =>
    rw [after_bind_of_error (by rw [run_scriptAt, hc])]
    exact refl w
  | some c =>
    rw [after_bind_of_ok (by rw [run_scriptAt, hc])]
    exact Trans.trans (h.entities (sameButtons_advance dt c.motions w.entities))
      (h.animate _ _)

theorem setUpPong (h : Chores n R) : (World.setUpPong n).Moves R := by
  unfold World.setUpPong
  refine moves_bind (moves_pongAt n).of_eq fun c => moves_bind (h.addEntity _) fun _ => ?_
  refine moves_bind (h.addEntity _) fun _ => moves_bind (h.addEntity _) fun _ => ?_
  refine moves_bind (h.addEntity _) fun _ => moves_bind (h.game _) fun _ => ?_
  exact h.strokes.serve

end Chores

/-! ## 6. Placing and activating

To activate a state is to empty the canvas if the state says so, and to place what it lists.  A
relation may be able to bear both without bearing that a thing is put into a layer in between, so
`Places` asks for the placing of a whole entity. -/

/-- The relation holds across what the scene `n` notes and across what a scripted scene does to the
layers: it empties them, and it places an entity. -/
structure Places (n : Nat) (R : World α → World α → Prop) : Prop extends Notes n R where
  empty : (modifyCompositor (·.clearAll)).Moves R
  place (layer : Layer) (fields : Fields α) : (placeEntity n layer fields).Moves R

theorem Places.mono {n : Nat} {R S : World α → World α → Prop} (h : Places n R)
    (hRS : ∀ w v, R w v → S w v) : Places n S where
  liftLog x := (h.liftLog x).mono hRS
  script hspec hhandles hact hmotions := (h.script hspec hhandles hact hmotions).mono hRS
  empty := h.empty.mono hRS
  place layer fields := (h.place layer fields).mono hRS

namespace Places

variable {n : Nat} {R : World α → World α → Prop} [IsPreorder (World α) R]

theorem placeLayer (h : Places n R) (state name : String) (fields : List (Fields α)) :
    (World.placeLayer n state name fields).Moves R := by
  unfold World.placeLayer
  split
  · exact moves_forM fields fun fs _ => h.place _ fs
  · exact h.sayFor _

/-- A state is placed layer by layer. -/
theorem placeState (h : Places n R) (state : StateSpec α) : (World.placeState n state).Moves R :=
  moves_forM _ fun _ _ => h.placeLayer _ _ _

/-- An activation clears the stage first, if the state says so. -/
theorem activate (h : Places n R) (state : StateSpec α) : (World.activate n state).Moves R := by
  unfold World.activate
  refine moves_bind (h.script (fun _ => rfl) (fun _ => rfl) (fun c => Nat.le_succ c.activations)
    fun _ => .inl rfl) fun _ => moves_ite ?_ (h.placeState state)
  exact moves_bind (h.clearStage h.empty) fun _ => h.placeState state

/-- To switch is to look a state up and to activate it; an unknown name is only reported. -/
theorem switchToState (h : Places n R) (name : Value α) : (World.switchToState n name).Moves R := by
  unfold World.switchToState
  refine moves_bind (moves_scriptAt n).of_eq fun s => ?_
  split
  · exact moves_bind (moves_ofExcept _) fun _ => h.sayFor _
  · refine moves_bind (moves_ofExcept _) fun _ => moves_bind (h.sayFor _) fun _ => ?_
    refine moves_bind (h.record (fun _ => rfl) (fun _ => rfl) (fun _ => rfl) fun _ => rfl)
      fun _ => ?_
    split
    · exact h.activate _
    · exact moves_pure _

/-- To populate is to activate the first state. -/
theorem populateScript (h : Places n R) : (World.populateScript n).Moves R := by
  unfold World.populateScript
  refine moves_bind (moves_scriptAt n).of_eq fun c => ?_
  split
  · exact moves_pure _
  · exact h.activate _

end Places

/-! ## 7. Scenes with all tools

With all tools an entity is placed step by step, so the lists above need not be shown apart. -/

namespace Tools

variable {n : Nat} {R : World α → World α → Prop} [IsPreorder (World α) R]

omit [Scalar α] in
theorem putInLayer (h : Tools n R) (e : Nat) (layer : Layer) :
    (World.putInLayer n e layer).Moves R :=
  moves_bind (moves_reaches n _).of_eq fun _ => moves_ite (h.layers _) (moves_pure _)

omit [Scalar α] in
theorem placeNew (h : Tools n R) (e : Entity α) (layer : Layer) :
    (World.placeNew e layer).Moves R :=
  moves_bind (h.addEntity e) fun _ => h.layers _

/-- Built, put into its layer, recorded, listed and animated, in this order: each step is a tool. -/
theorem placeEntity (h : Tools n R) (layer : Layer) (fields : Fields α) :
    (World.placeEntity n layer fields).Moves R := by
  unfold World.placeEntity
  refine moves_bind (moves_workshopOf n).of_eq fun shop => ?_
  refine moves_bind (h.liftLog _) fun built => ?_
  split
  · exact moves_pure _
  · refine moves_bind (h.addEntity _) fun e => ?_
    refine moves_bind (h.putInLayer e layer) fun _ => ?_
    refine moves_bind (h.recordId fields e) fun _ => ?_
    exact moves_bind (h.recordButton e) fun _ => h.attachDescribed fields e

/-- So a relation with all tools has what `Places` asks for. -/
theorem places (h : Tools n R) : Places n R where
  toNotes := h.toNotes
  empty := h.layers _
  place := h.placeEntity

theorem populatePong (h : Tools n R) : (World.populatePong n).Moves R := by
  unfold World.populatePong
  refine moves_bind (moves_pongAt n).of_eq fun c => ?_
  refine moves_bind (moves_requireReach n _).of_eq fun _ => ?_
  refine moves_bind (h.placeNew _ _) fun _ => moves_bind (h.placeNew _ _) fun _ => ?_
  refine moves_bind (moves_piecesAt n).of_eq fun p => moves_bind (h.layers _) fun _ => ?_
  refine moves_bind (h.layers _) fun _ => moves_bind (h.layers _) fun _ => ?_
  exact moves_bind (h.layers _) fun _ => h.showScore

end Tools

/-! ## 8. The own work of a scene

The acts of scripted scenes and games once more, now for the relation that matters most. -/

section

variable (n : Nat)

omit [Scalar α] in
theorem moves_addEntity (e : Entity α) : (addEntity e).Moves (OwnWork n) :=
  (tools_ownWork n).addEntity e

omit [Scalar α] in
theorem moves_clearStage : (clearStage n : Act (World α) Unit).Moves (OwnWork n) :=
  (tools_ownWork n).clearStage ((tools_ownWork n).layers _)

theorem moves_attach (e : Nat) (spec : AnimationSpec α) : (attach n e spec).Moves (OwnWork n) :=
  (tools_ownWork n).attach e spec

theorem moves_placeState (state : StateSpec α) : (placeState n state).Moves (OwnWork n) :=
  (tools_ownWork n).places.placeState state

theorem moves_switchToState (name : Value α) : (switchToState n name).Moves (OwnWork n) :=
  (tools_ownWork n).places.switchToState name

theorem moves_enterScript : (enterScript n : Act (World α) Unit).Moves (OwnWork n) :=
  (tools_ownWork n).enterScript

theorem moves_populateScript : (populateScript n : Act (World α) Unit).Moves (OwnWork n) :=
  (tools_ownWork n).places.populateScript

theorem moves_advance (dt : α) : (advance n dt).Moves (OwnWork n) := (tools_ownWork n).advance dt

theorem moves_stepPong (dt : α) : (stepPong n dt).Moves (OwnWork n) :=
  (tools_ownWork n).strokes.stepPong dt

/-- To load assets is a matter of the depot. -/
theorem moves_preload [Host α] : (preload n : Act (World α) Unit).Moves OffDepot := by
  unfold preload
  refine moves_bind (moves_scriptAt n).of_eq fun c => ?_
  split
  · exact moves_sayFor n _
  · refine moves_bind (moves_reaches n _).of_eq fun _ => moves_ite (moves_sayFor n _) ?_
    refine moves_bind (moves_onDepot _) fun _ => moves_bind (moves_onDepot _) fun _ => ?_
    refine moves_ite (moves_bind (moves_sayFor n _) fun _ => moves_sayFor n _) (moves_sayFor n _)

/-- To give assets back changes the depot, and marks the scene as not set up. -/
theorem moves_giveBack : (giveBack n : Act (World α) Unit).Moves (OwnWork n) := by
  unfold giveBack
  refine moves_bind (moves_scriptAt n).of_eq fun c => ?_
  split
  · exact moves_pure _
  · refine moves_bind (moves_reaches n _).of_eq fun _ => moves_ite ?_ (moves_pure _)
    refine moves_bind (moves_ofExcept _) fun ids => moves_ite ?_ (moves_pure _)
    exact moves_bind ((moves_onDepot _).ownWork n) fun _ =>
      moves_modifyScene n fun s => ⟨rfl, id, .refl _⟩

theorem moves_leaveScript : (leaveScript n : Act (World α) Unit).Moves (OwnWork n) :=
  moves_bind (moves_modifyScript n (fun _ => rfl) (fun _ => rfl)
    fun c => Nat.le_succ c.activations) fun _ => moves_giveBack n

/-- In an update the timer moves first, then the animations that run at that moment. -/
theorem run_advance (dt : α) {w : World α} {c : Script α} (h : w.script? n = some c) :
    (advance n dt).run w =
      let r := c.motions.advance dt w.entities
      (r.2.2, { w.mapScript n fun s => { s with timer := s.timer + dt } with
        entities := r.2.1 }.mapScript n fun s => { s with motions := r.1 }) := by
  unfold advance
  rw [run_bind_of_ok (run_modifyScript n w _)]
  have hc : (w.mapScript n fun s => { s with timer := s.timer + dt }).script? n =
      some { c with timer := c.timer + dt } := script?_mapScript_self h _
  rw [run_bind_of_ok (by rw [run_scriptAt, hc])]
  rfl

/-- When time passes, a script keeps its place. -/
theorem script?_advance (dt : α) {w : World α} {c : Script α} (hc : w.script? n = some c) :
    ((advance n dt).after w).script? n =
      some { c with timer := c.timer + dt, motions := (c.motions.advance dt w.entities).1 } := by
  rw [after_eq_of_run (run_advance n dt hc), script?_mapScript, if_pos rfl]
  change ((w.mapScript n _).script? n).map _ = _
  rw [script?_mapScript, if_pos rfl, hc]
  rfl

/-! ## 9. The hooks of a scene

What the director calls: to set up, to bind, to enter, to populate, to leave, to show an
event.  Each is the own work of the scene that is called; binding and leaving do not even touch
the layers. -/

/-- A scripted scene loads its assets, and a game makes its pieces. -/
theorem moves_setUp [Host α] : (setUp n : Act (World α) Unit).Moves (OwnWork n) := by
  unfold setUp
  refine moves_bind (moves_sceneAt n).of_eq fun s => ?_
  split
  · exact (moves_preload n).ownWork n
  · exact (tools_ownWork n).setUpPong
  · exact moves_pure _

theorem moves_start [Host α] : (start n : Act (World α) Unit).Moves (OwnWork n) := by
  unfold start
  refine moves_bind (moves_sceneAt n).of_eq fun s => moves_ite ?_ (moves_pure _)
  exact moves_bind (moves_setUp n) fun _ => moves_modifyScene n fun s => ⟨rfl, id, .refl _⟩

omit [Scalar α] in
/-- Binding only marks the scene as bound. -/
theorem moves_callBind : (callBind n : Act (World α) Unit).Moves (OwnWork n) := by
  unfold callBind
  have hbind : (bind n true : Act (World α) Unit).Moves (OwnWork n) :=
    moves_modifyScene n fun s => ⟨rfl, fun _ => rfl, .refl _⟩
  refine moves_bind hbind fun _ => moves_bind (moves_sceneAt n).of_eq fun s => ?_
  split
  · exact (moves_witness n _ _ _).ownWork n
  · exact moves_pure _

theorem moves_callEnter [Host α] : (callEnter n : Act (World α) Unit).Moves (OwnWork n) := by
  unfold callEnter
  refine moves_bind (moves_sceneAt n).of_eq fun s => ?_
  split
  · exact (moves_witness n _ _ _).ownWork n
  · exact moves_start n
  · exact moves_bind (moves_start n) fun _ => moves_enterScript n
  · exact moves_bind (moves_start n) fun _ => (tools_ownWork n).strokes.enterPong

theorem moves_callPopulate : (callPopulate n : Act (World α) Unit).Moves (OwnWork n) := by
  unfold callPopulate
  refine moves_bind (moves_sceneAt n).of_eq fun s => ?_
  split
  · refine moves_bind ((moves_witness n _ _ _).ownWork n) fun _ => ?_
    exact moves_bind (moves_sceneAt n).of_eq fun _ =>
      moves_ite ((tools_ownWork n).layers _) (moves_pure _)
  · exact moves_pure _
  · exact moves_populateScript n
  · exact (tools_ownWork n).populatePong

/-- A scene that leaves forgets what it tracked and gives its assets back. -/
theorem moves_callLeave : (callLeave n : Act (World α) Unit).Moves (OwnWork n) := by
  unfold callLeave
  refine moves_bind (moves_sceneAt n).of_eq fun s => ?_
  split
  · exact (moves_witness n _ _ _).ownWork n
  · exact moves_leaveScript n
  · exact moves_pure _
  · exact moves_pure _

omit [Scalar α] in
/-- An event changes nothing but the log, and that only for a witness. -/
theorem moves_callEvent : (callEvent n : Act (World α) Unit).Moves OffDepot := by
  unfold callEvent
  refine moves_bind (moves_sceneAt n).of_eq fun s => ?_
  split
  · exact moves_witness n _ _ _
  · exact moves_pure _

end

end World

end Diorama
