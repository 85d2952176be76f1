/-
# Scenes are isolated

Four containers have to agree however scenes come and go: the layers, and for every scripted
scene its ids, its buttons and its animations.  `World.Isolated` is the condition that is kept:
the current scene can reach the engine and everything it keeps track of is shown, and no other
scene keeps track of anything.

It is kept by every operation, also by one that ends with a fault halfway.  The delicate moment
is a change of scenes that the current scene asks for in the middle of its own update: what is
left of the update must not touch anything.  There the scene notices that it was replaced
(`Notices`), and a press is not offered to its other buttons.
-/
import Diorama.Proofs.World.Turns

namespace Diorama

open Act

variable {α : Type}

namespace World

/-! ## 1. The condition

The condition and the history go together through a run:  `Sound` is both, and `Acting` says in
addition which scene is at work. -/

/-- What the current scene keeps track of is shown, and no other scene keeps track of anything. -/
structure Isolated (w : World α) : Prop where
  parts : w.missing = []
  stands : ∀ n c, w.current = some n → w.script? n = some c → w.Stands n
  others : ∀ n c, w.script? n = some c → w.current ≠ some n → c.tracked = []

/-- What happens outside of the scenes and the layers isolates them as before. -/
theorem Outside.isolated {w v : World α} (hv : w.Outside v) (h : w.Isolated) : v.Isolated := by
  have hscript (n : Nat) : v.script? n = w.script? n := by
    unfold World.script?
    rw [hv.scenes]
  refine ⟨hv.missing.trans h.parts, fun n c hn hc => ?_, fun n c hc hn => ?_⟩
  · rw [hv.current] at hn
    rw [hscript] at hc
    obtain ⟨⟨hparts, s, hs, hb⟩, hshows⟩ := h.stands n c hn hc
    refine ⟨⟨hv.missing.trans hparts, s, by rw [hv.scenes, hs], hb⟩, fun d hd e he => ?_⟩
    rw [hscript] at hd
    unfold Holds
    rw [hv.compositor]
    exact hshows d hd e he
  · rw [hv.current] at hn
    rw [hscript] at hc
    exact h.others n c hc hn

/-- The current scene works. -/
theorem Isolated.ownWork {n : Nat} {w v : World α} (h : w.Isolated) (hn : w.current = some n)
    (hv : w.OwnWork n v) (hs : w.Stands n → v.Stands n) : v.Isolated := by
  have hn' : v.current = some n := hv.current.trans hn
  refine ⟨hv.missing.trans h.parts, fun m d hm hd => ?_, fun m d hd hm => ?_⟩
  · obtain rfl : n = m := Option.some.inj (hn'.symm.trans hm)
    obtain ⟨c, hc⟩ := hv.script?_back hd
    exact hs (h.stands n c hn hc)
  · have hmn : m ≠ n := fun he => hm (by rw [hn', he])
    rw [hv.script? hmn] at hd
    exact h.others m d hd fun hw => hmn (Option.some.inj (hw.symm.trans hn))

/-- Where no scene keeps track of anything, the next scene finds nothing of another. -/
theorem Vacant.isolated {w : World α} (hv : w.Vacant) (hparts : w.missing = [])
    (hnext : ∀ n c, w.current = some n → w.script? n = some c → w.Onstage n) : w.Isolated where
  parts := hparts
  stands n c hn hc := by
    refine ⟨hnext n c hn hc, fun d hd e he => ?_⟩
    rw [hv n d hd] at he
    cases he
  others n c hc _ := hv n c hc

/-- In a fresh world no script tracks anything. -/
theorem Fresh.vacant {w : World α} (h : w.Fresh) : w.Vacant := by
  intro n c hc
  rw [h.untouched n c hc]
  rfl

/-- So the scenes of a fresh world are isolated. -/
theorem Fresh.isolated {w : World α} (h : w.Fresh) : w.Isolated :=
  h.vacant.isolated h.parts fun n c hn _ => by
    rw [h.idle] at hn
    cases hn

section Sound

variable [Scalar α]

/-- The world has a history from its start, and its scenes are isolated. -/
structure Sound [Host α] (start w : World α) : Prop where
  history : Nonempty (History start w)
  isolated : w.Isolated

/-- The scene `n` is the current one in a sound world. -/
def Acting [Host α] (start : World α) (n : Nat) (w : World α) : Prop :=
  Sound start w ∧ w.current = some n

variable {start : World α}

/-- A beat adds itself to the history. -/
theorem Sound.beat [Host α] {w v : World α} (h : Sound start w) (hv : Beat w v) :
    Nonempty (History start v) := by
  obtain ⟨h⟩ := h.history
  exact ⟨h.beat hv⟩

/-- A turn adds itself, too; the world that it leads to has empty layers. -/
theorem Sound.turn [Host α] {w : World α} (h : Sound start w) (next : Option Nat) :
    Nonempty (History start (w.handedTo next)) := by
  obtain ⟨h⟩ := h.history
  exact ⟨h.turn next⟩

/-- An act outside of the scenes and the layers keeps the world sound. -/
theorem sound_of_outside [Host α] {β : Type} {x : Act (World α) β} (hx : x.Moves Outside) :
    x.Keeps (Sound start) :=
  fun w hw => ⟨hw.beat (.outside (hx w)), (hx w).isolated hw.isolated⟩

/-- An act in the depot keeps it in particular. -/
theorem sound_of_offDepot [Host α] {β : Type} {x : Act (World α) β} (hx : x.Moves OffDepot) :
    x.Keeps (Sound start) := sound_of_outside (hx.mono fun _ _ h => h.outside)

/-- An act in the depot also leaves the scene at work. -/
theorem acting_of_offDepot [Host α] {n : Nat} {β : Type} {x : Act (World α) β}
    (hx : x.Moves OffDepot) :
    x.Keeps (Acting start n) :=
  fun w hw => ⟨sound_of_offDepot hx w hw.1, (hx w).outside.current.trans hw.2⟩

/-- A work of the current scene that keeps `Stands` keeps the world sound. -/
theorem acting_of_work [Host α] {n : Nat} {β : Type} {x : Act (World α) β}
    (hx : ∀ w, Work n w (x.after w)) (hs : x.Keeps (Stands n)) : x.Keeps (Acting start n) := by
  intro w hw
  have hown : w.OwnWork n (x.after w) := (hx w).ownWork
  refine ⟨⟨hw.1.beat (.work hw.2 (hx w)), ?_⟩, hown.current.trans hw.2⟩
  exact hw.1.isolated.ownWork hw.2 hown (hs w)

/-- To go to another state is a work of the scene, and the scene is still at work after it. -/
theorem acting_switchToState [Host α] (n : Nat) (name : Value α) :
    (switchToState n name).Keeps (Acting start n) :=
  acting_of_work (fun _ => .switchState name) (stands_switchToState n name)

/-- A game tracks nothing. -/
theorem stands_stepPong (n : Nat) (dt : α) : (stepPong n dt).Keeps (Stands n) := by
  refine keeps_stands (moves_stepPong n dt) fun w hw => ?_
  cases hc : w.script? n with
  | none => exact shows_of_none ((moves_stepPong n dt w).script?_eq_none hc)
  | some c =>
    unfold stepPong
    rw [after_bind_of_error (run_pongAt_of_script hc)]
    exact hw.2

/-! ## 2. A change of scenes

The steps of a change, each with what is known after it.  Once the old scene has left nothing is
tracked by anybody; the new scene is bound before it takes over; and from there on it is at
work.  A fault in between leaves a sound world, for another reason at each step. -/

/-- The scene that comes next can reach the engine, if it has a script. -/
def Ready (next : Option Nat) (w : World α) : Prop :=
  ∀ n c, next = some n → w.script? n = some c → w.Onstage n

/-- After the old scene has left nothing is tracked.  Also where leaving ends with a fault: the
tracking was dropped before that, so the state that remains is as vacant as after a success. -/
theorem spec_dismiss [Host α] : Spec (Sound start) (dismiss : Act (World α) Unit)
    (fun _ w => Sound start w ∧ w.Vacant) (Sound start) := by
  have h (w : World α) (hw : Sound start w) :
      Sound start (dismiss.after w) ∧ (dismiss.after w).Vacant := by
    cases hn : w.current with
    | none =>
      have hafter : (dismiss : Act (World α) Unit).after w = w := by
        unfold dismiss
        rw [after_bind_of_ok (run_get w), hn]
        rfl
      rw [hafter]
      exact ⟨hw, fun m c hc => hw.isolated.others m c hc (by rw [hn]; exact nofun)⟩
    | some n =>
      obtain ⟨hown, hdropped⟩ := dismiss_current hn
      have hhistory : Nonempty (History start (dismiss.after w)) := by
        rw [after_dismiss hn]
        rcases after_ifHas n .leave (callLeave n) w with h | h
        · rw [h]
          exact hw.history
        · rw [h]
          exact hw.beat (.left n)
      -- the scene that left by what it dropped, every other one by the invariant
      have hvacant : (dismiss.after w).Vacant := by
        intro m d hd
        by_cases hm : m = n
        · subst hm
          obtain ⟨c, hc⟩ := hown.script?_back hd
          obtain ⟨d', hd', hnone, -⟩ := hdropped c hc
          obtain rfl : d = d' := Option.some.inj (hd.symm.trans hd')
          exact hnone
        · rw [hown.script? hm] at hd
          exact hw.isolated.others m d hd fun h => hm (Option.some.inj (h.symm.trans hn))
      have hparts := hown.missing.trans hw.isolated.parts
      refine ⟨⟨hhistory, hvacant.isolated hparts fun m d hm hd => ?_⟩, hvacant⟩
      obtain ⟨c, hc⟩ := hown.script?_back hd
      exact (hw.isolated.stands m c (hown.current ▸ hm) hc).1.ownWork hown
  exact (spec_of_after h).mono (fun _ h => h) (fun _ _ h => h) fun _ h => h.1

/-- Binding a scene changes nothing that is tracked or shown. -/
theorem keeps_bindHook [Host α] (n : Nat) : (ifHas n .bind (callBind n) : Act (World α) Unit).Keeps
    fun w => Sound start w ∧ w.Vacant := by
  rintro w ⟨hw, hvacant⟩
  rcases after_ifHas n .bind (callBind n) w with h | h
  · rw [h]
    exact ⟨hw, hvacant⟩
  · rw [h]
    have hown : w.OwnWork n ((callBind n).after w) := moves_callBind n w
    have hscripts : w.SameScripts ((callBind n).after w) :=
      (moves_callBind_backstage n w).scripts
    have hvacant' : ((callBind n).after w).Vacant := fun m c hc => hvacant m c (hscripts m ▸ hc)
    refine ⟨⟨hw.beat (.bound n), ?_⟩, hvacant'⟩
    refine hvacant'.isolated (hown.missing.trans hw.isolated.parts) fun m c hm hc => ?_
    exact (hw.isolated.stands m c (hown.current ▸ hm) (hscripts m ▸ hc)).1.ownWork hown

/-- The new scene is bound, so it will stand on the stage.  The call sets a flag of the scene and
touches no script, so what was vacant stays so; where it fails nothing is claimed but that the
world is sound. -/
theorem spec_bindNext [Host α] (next : Option Nat) :
    Spec (fun w => Sound start w ∧ w.Vacant) (bindNext next : Act (World α) Unit)
      (fun _ w => (Sound start w ∧ w.Vacant) ∧ w.Ready next) (Sound start) := by
  cases next with
  | none => exact spec_pure fun w hw => ⟨hw, nofun⟩
  | some n =>
    intro w hw
    have hkeeps := keeps_bindHook n w hw
    refine ⟨fun u t (ht : (ifHas n .bind (callBind n)).run w = (.ok u, t)) => ?_,
      fun e t (ht : (ifHas n .bind (callBind n)).run w = (.error e, t)) => ?_⟩
    · rw [after_eq_of_run ht] at hkeeps
      refine ⟨hkeeps, fun m c hm hc => ?_⟩
      cases hm
      have hscript : t.script? n = w.script? n := by
        rw [← after_eq_of_run ht]
        exact (moves_ifHas (moves_callBind_backstage n) n _ w).scripts n
      rw [hscript] at hc
      obtain ⟨s, hs, hrun⟩ := run_callBind hc
      have hrun' := (run_ifHas hc .bind (callBind n)).trans hrun
      rw [hrun'] at ht
      cases ht
      refine ⟨hw.1.isolated.parts, { s with bound := true }, ?_, rfl⟩
      rw [Array.getElem?_modify, if_pos rfl, hs, Option.map_some]
    · rw [after_eq_of_run ht] at hkeeps
      exact hkeeps.1

/-- The turn itself: layers emptied, current scene replaced. -/
theorem spec_handOver [Host α] (next : Option Nat) :
    Spec (fun w => (Sound start w ∧ w.Vacant) ∧ w.Ready next) (handOver next : Act (World α) Unit)
      (fun _ w => Sound start w ∧ w.current = next) (Sound start) := by
  rintro w ⟨⟨hw, hvacant⟩, hready⟩
  rw [run_handOver hw.isolated.parts]
  refine ⟨fun _ _ h => ?_, fun _ _ h => (by cases h)⟩
  cases h
  refine ⟨⟨hw.turn next, ?_⟩, rfl⟩
  have hvacant' : (w.handedTo next).Vacant := hvacant
  exact hvacant'.isolated hw.isolated.parts fun n c hn hc => hready n c hn hc

/-- To come up is work of the new scene. -/
theorem keeps_bringUp [Host α] (next : Option Nat) :
    (bringUp next : Act (World α) Unit).Keeps fun w => Sound start w ∧ w.current = next := by
  cases next with
  | none => exact keeps_pure _
  | some n =>
    have hook {x : Act (World α) Unit} (h : x.Keeps (Acting start n)) (hook : Hook) :
        (ifHas n hook x).Keeps (Acting start n) :=
      keeps_bind (acting_of_offDepot (moves_sceneAt n).of_eq) fun _ =>
        keeps_ite (fun _ => h) fun _ => keeps_pure _
    exact keeps_bind (hook (acting_of_work (fun _ => .enter) (stands_callEnter n)) _) fun _ =>
      hook (acting_of_work (fun _ => .populate) (stands_callPopulate n)) _

/-- **A change of scenes keeps the world sound, wherever it stops.** -/
theorem sound_changeScene [Host α] (next : Option Nat) :
    (changeScene next : Act (World α) Unit).Keeps (Sound start) := by
  refine Spec.keeps (spec_bind spec_dismiss fun _ => spec_bind (spec_bindNext next) fun _ => ?_)
  refine spec_bind (spec_handOver next) fun _ => ?_
  exact (keeps_bringUp next).spec.mono (fun _ h => h) (fun _ _ h => h.1) fun _ h => h.1

/-- A change by name keeps the world sound, whether or not the name is known. -/
theorem sound_switchTo [Host α] (name : Value α) : (switchTo name).Keeps (Sound start) := by
  unfold switchTo
  refine keeps_bind (sound_of_offDepot (moves_registered? name).of_eq) fun next => ?_
  split
  · exact sound_changeScene _
  · exact sound_of_offDepot (moves_bind (moves_ofExcept _) fun _ => moves_liftLog _)

/-- So does a change that a scene asks for in the middle of its own update. -/
theorem sound_switchScene [Host α] (n : Nat) (name : Value α) :
    (switchScene n name).Keeps (Sound start) := by
  unfold switchScene
  refine keeps_bind (sound_of_offDepot (moves_reaches n _).of_eq) fun _ =>
    keeps_ite (fun _ => sound_switchTo name) fun _ =>
      sound_of_offDepot (moves_bind (moves_ofExcept _) fun _ => moves_sayFor n _)

/-! ## 3. An update of the current scene

In an update the scene may be replaced at any action.  So the parts of an update are only asked to
*end* in a sound world, from one in which the scene is at work (`EndsSound`); that they can be put
together rests on each of them telling whether the scene was replaced. -/

/-- From a world in which the scene `n` is the current one, the act ends in a sound world. -/
def EndsSound [Host α] (start : World α) (n : Nat) {β : Type} (x : Act (World α) β) : Prop :=
  ∀ w, Acting start n w → Sound start (x.after w)

section Update

variable {n : Nat} {β γ : Type}

/-- What keeps the world sound ends in a sound one. -/
theorem endsSound_of_sound [Host α] {x : Act (World α) β} (h : x.Keeps (Sound start)) :
    EndsSound start n x := fun w hw => h w hw.1

/-- What leaves the scene at work ends in a sound world, too. -/
theorem endsSound_of_acting [Host α] {x : Act (World α) β} (h : x.Keeps (Acting start n)) :
    EndsSound start n x := fun w hw => (h w hw).1

/-- A part that leaves the scene at work can be followed by any other. -/
theorem endsSound_bind [Host α] {x : Act (World α) β} {f : β → Act (World α) γ}
    (hx : x.Keeps (Acting start n)) (hf : ∀ b, EndsSound start n (f b)) :
    EndsSound start n (x >>= f) := by
  intro w hw
  have hx' := hx w hw
  refine after_bind_cases hx'.1 fun b t hr => ?_
  rw [after_eq_of_run hr] at hx'
  exact hf b t hx'

/-- An action changes the scene, or sends it to a state, or happens in the depot.  The cases are
those of `perform`: only a switch of scenes can end the part of this scene, and it ends in a sound
world; the others keep it acting. -/
theorem endsSound_perform [Host α] (action : ActionSpec α) :
    EndsSound start n (perform n action) := by
  have aside {x : Act (World α) Unit} (h : x.Moves OffDepot) : EndsSound start n x :=
    endsSound_of_acting (acting_of_offDepot h)
  have state (name : Value α) : EndsSound start n (switchToState n name) :=
    endsSound_of_acting (acting_switchToState n name)
  unfold perform
  refine endsSound_bind (acting_of_offDepot (moves_sayFor n _)) fun _ => ?_
  split
  · split
    · exact endsSound_of_sound (sound_switchScene n _)
    · exact aside (moves_pure _)
  · split
    · exact state _
    · exact aside (moves_pure _)
  · refine aside (moves_ite ?_ (moves_pure _))
    refine moves_bind (moves_reaches n _).of_eq fun _ => moves_ite ?_ (moves_pure _)
    exact moves_bind (moves_onDepot _) fun _ => moves_pure _
  · refine endsSound_bind (acting_of_offDepot (moves_scriptAt n).of_eq) fun c => ?_
    split
    · refine endsSound_bind (acting_of_offDepot (moves_onDevice _)) fun _ => ?_
      split
      · exact state _
      · exact aside (moves_pure _)
    · exact aside (moves_bind (moves_ofExcept _) fun _ => moves_sayFor n _)

/-- A press that hits performs the action, and one that misses nothing. -/
theorem endsSound_click [Host α] (e : Nat) (x y : α) : EndsSound start n (click n e x y) := by
  unfold click
  refine endsSound_bind (acting_of_offDepot (moves_entityAt e).of_eq) fun entity => ?_
  refine endsSound_bind (acting_of_offDepot (moves_ofExcept _)) fun a => ?_
  split
  · exact endsSound_perform _
  · exact endsSound_of_acting (keeps_pure _)

/-- The scene `n` is the current one, and has counted so many activations. -/
def Counting [Host α] (start : World α) (n activations : Nat) (w : World α) : Prop :=
  Acting start n w ∧ ∃ c, w.script? n = some c ∧ c.activations = activations

/-- **If a press has activated nothing, its scene is still the current one.** By induction on the
entities.  What has left the scene has raised its count, so where the count is the old one the
scene has not been left. -/
theorem spec_clickAll [Host α] (x y : α) (activations : Nat) : ∀ es : List Nat,
    Spec (Counting start n activations) (clickAll n x y activations es)
      (fun b w => Sound start w ∧ (b = false → w.current = some n)) (Sound start)
  | [] => spec_pure fun w hw => ⟨hw.1.1, fun _ => hw.1.2⟩
  | e :: es => by
    rintro w ⟨hw, c, hc, hcount⟩
    have hsound := endsSound_click e x y w hw
    have hnotice := moves_click (spans_notices n).carries.toPasses n e x y w
    unfold clickAll
    cases hr : (click n e x y).run w with
    | mk r t =>
      rw [after_eq_of_run hr] at hsound hnotice
      cases r with
      | error f =>
        rw [run_bind_of_error hr]
        refine ⟨fun _ _ h => (by cases h), fun _ _ h => ?_⟩
        cases h
        exact hsound
      | ok u =>
        obtain ⟨d, hd, -, -, -⟩ := hnotice.ages.script? hc
        rw [run_bind_of_ok hr, run_bind_of_ok (by rw [run_scriptAt, hd])]
        by_cases hsame : d.activations = activations
        · rw [if_neg (by simpa using hsame)]
          have hn : t.current = some n := by
            rcases hnotice.notice hw.2 with h | h
            · exact h
            · obtain ⟨d', hd', hlt⟩ := h c hc
              obtain rfl : d = d' := Option.some.inj (hd.symm.trans hd')
              omega
          exact spec_clickAll x y activations es t ⟨⟨hsound, hn⟩, d, hd, hsame⟩
        · rw [if_pos (by simpa using hsame)]
          refine ⟨fun _ _ h => ?_, fun _ _ h => (by cases h)⟩
          cases h
          exact ⟨hsound, nofun⟩

/-- If no button has activated anything, the scene is still at work.  Without a press there is
nothing to do; with one the count that the loop compares with is read off the script first. -/
theorem spec_dispatch [Host α] : Spec (Acting start n) (dispatch n : Act (World α) Bool)
    (fun b w => Sound start w ∧ (b = false → w.current = some n)) (Sound start) := by
  intro w hw
  have hpress := moves_freshPress? (α := α) n w
  unfold dispatch
  cases hr : (freshPress? n).run w with
  | mk r t =>
    obtain rfl : w = t := hpress.trans (after_eq_of_run hr)
    cases r with
    | error f =>
      rw [run_bind_of_error hr]
      refine ⟨fun _ _ h => (by cases h), fun _ _ h => ?_⟩
      cases h
      exact hw.1
    | ok p =>
      rw [run_bind_of_ok hr]
      cases p with
      | none =>
        refine ⟨fun _ _ h => ?_, fun _ _ h => (by cases h)⟩
        cases h
        exact ⟨hw.1, fun _ => hw.2⟩
      | some p =>
        cases hc : w.script? n with
        | none =>
          rw [run_bind_of_error (by rw [run_scriptAt, hc])]
          refine ⟨fun _ _ h => (by cases h), fun _ _ h => ?_⟩
          cases h
          exact hw.1
        | some c =>
          rw [run_bind_of_ok (by rw [run_scriptAt, hc])]
          exact spec_clickAll p.x p.y c.activations c.clickables w ⟨hw, c, hc, rfl⟩

/-- The last thing in an update is the transition, so nothing has to be known after it. -/
theorem endsSound_followIfDue [Host α] (state : StateSpec α) : EndsSound start n
    (followIfDue n state) := by
  unfold followIfDue
  split
  · next t _ =>
    cases t.kind
    refine endsSound_bind (acting_of_offDepot (moves_scriptAt n).of_eq) fun c => ?_
    unfold follow
    split
    · split
      · exact endsSound_of_sound (sound_switchScene n _)
      · split
        · exact endsSound_of_acting (acting_switchToState n _)
        · exact endsSound_of_acting (keeps_pure _)
    · exact endsSound_of_acting (keeps_pure _)
  · exact endsSound_of_acting (keeps_pure _)

/-- Time passes while the scene is at work. -/
theorem acting_advance [Host α] (dt : α) : (advance n dt).Keeps (Acting start n) :=
  acting_of_work (fun _ => .advance dt) (stands_advance n dt)

/-- The update of a scripted scene: if the press has activated something, it ends there.  If the
press has activated nothing the scene is still the current one, which following the timer needs. -/
theorem endsSound_updateScript [Host α] (dt : α) : EndsSound start n (updateScript n dt) := by
  unfold updateScript
  refine endsSound_bind (acting_of_offDepot (moves_scriptAt n).of_eq) fun c => ?_
  split
  · exact endsSound_of_acting (keeps_pure _)
  · next state _ =>
    refine endsSound_bind (acting_advance dt) fun _ w hw => ?_
    obtain ⟨hok, herr⟩ := spec_dispatch w hw
    cases hr : (dispatch n).run w with
    | mk r t =>
      cases r with
      | error f =>
        rw [after_bind_of_error hr]
        exact herr f t hr
      | ok b =>
        rw [after_bind_of_ok hr]
        obtain ⟨hsound, hcur⟩ := hok b t hr
        cases b with
        | true => exact hsound
        | false => exact endsSound_followIfDue state t ⟨hsound, hcur rfl⟩

/-- The update of a game: it leaves or plays on. -/
theorem endsSound_updatePong [Host α] (dt : α) : EndsSound start n (updatePong n dt) := by
  unfold updatePong
  refine endsSound_bind (acting_of_offDepot moves_get) fun w => ?_
  refine endsSound_bind (acting_of_offDepot (moves_reaches n _).of_eq) fun _ => ?_
  split
  · refine endsSound_bind (acting_of_offDepot (moves_pongAt n).of_eq) fun p => ?_
    exact endsSound_of_sound (sound_switchScene n _)
  · exact endsSound_of_acting (acting_of_work (fun _ => .play dt) (stands_stepPong n dt))

/-- What a witness wishes for is at most a change of scenes. -/
theorem sound_grant [Host α] (wish : Wish) :
    (grant wish : Act (World α) Unit).Keeps (Sound start) := by
  cases wish with
  | stay => exact keeps_pure _
  | switchTo name => exact sound_switchTo _
  | change scene => exact sound_changeScene scene

/-- The current scene is a witness and takes its next wish. -/
theorem acting_nextWish [Host α] {w : World α} (hw : Acting start n w) {s : Scene α} {r : Witness}
    (hs : w.scenes[n]? = some s) (hr : s.role = .witness r) :
    Acting start n ((nextWish n r).after w) := by
  have hown : w.OwnWork n ((nextWish n r).after w) := ownWork_nextWish hs hr
  refine ⟨⟨hw.1.beat (.work hw.2 (.wish hs hr)), ?_⟩, hown.current.trans hw.2⟩
  refine hw.1.isolated.ownWork hw.2 hown fun hstands => ⟨hstands.1.ownWork hown, ?_⟩
  exact shows_of_none (hown.script?_eq_none (script?_of_witness hs hr))

/-- The update of a witness takes its next wish and grants it. -/
theorem sound_updateWitness [Host α] {w : World α} (hw : Acting start n w) {s : Scene α}
    {r : Witness}
    (hs : w.scenes[n]? = some s) (hr : s.role = .witness r) (dt : α) :
    Sound start ((updateWitness n r dt).after w) := by
  have hoff : w.OffDepot ((witness n .update false (some dt)).after w) := moves_witness n _ _ _ w
  have hact := acting_of_offDepot (moves_witness n .update false (some dt)) w hw
  unfold updateWitness
  refine after_bind_cases hact.1 fun _ t hrun => ?_
  rw [after_eq_of_run hrun] at hoff hact
  have hs' : t.scenes[n]? = some s := by rw [hoff.outside.scenes, hs]
  have hnext := acting_nextWish hact hs' hr
  refine after_bind_cases hnext.1 fun wish v hwish => ?_
  rw [after_eq_of_run hwish] at hnext
  exact sound_grant wish v hnext.1

/-- The hook of updating, for scenes of any role. -/
theorem endsSound_callUpdate [Host α] (dt : α) : EndsSound start n (callUpdate n dt) := by
  intro w hw
  unfold callUpdate
  cases hs : w.scenes[n]? with
  | none =>
    rw [after_bind_of_error (by rw [run_sceneAt, hs])]
    exact hw.1
  | some s =>
    rw [after_bind_of_ok (by rw [run_sceneAt, hs])]
    cases hr : s.role with
    | witness r => exact sound_updateWitness hw hs hr dt
    | plain => exact hw.1
    | scripted c => exact endsSound_updateScript dt w hw
    | pong p => exact endsSound_updatePong dt w hw

end Update

/-! ## 4. Operations

What the engine does between the hooks is outside of the scenes: input, the list of registered
scenes, lines and pictures. -/

/-- What is asked of the current scene, if there is one, keeps the world sound. -/
theorem sound_ofCurrent [Host α] {f : Nat → Act (World α) Unit} (h : ∀ n, EndsSound start n (f n)) :
    (do match (← get).current with
      | some n => f n
      | none => pure () : Act (World α) Unit).Keeps (Sound start) := by
  intro w hw
  rw [after_bind_of_ok (run_get w)]
  cases hn : w.current with
  | none => exact hw
  | some n => exact h n w ⟨hw, hn⟩

/-- A scene without the hook is passed over. -/
theorem endsSound_ifHas [Host α] {n : Nat} {x : Act (World α) Unit} (h : EndsSound start n x)
    (hook : Hook) :
    EndsSound start n (ifHas n hook x) := by
  intro w hw
  rcases after_ifHas n hook x w with he | he
  · rw [he]
    exact hw.1
  · rw [he]
    exact h w hw

/-- An update of the engine is one of the current scene, if there is one. -/
theorem sound_update [Host α] (dt : α) : (update dt).Keeps (Sound start) :=
  sound_ofCurrent fun _ => endsSound_ifHas (endsSound_callUpdate dt) _

/-- An event is handed to the current scene, which may print a line. -/
theorem sound_handleEvent [Host α] : (handleEvent : Act (World α) Unit).Keeps (Sound start) :=
  sound_ofCurrent fun n =>
    endsSound_ifHas (endsSound_of_acting (acting_of_offDepot (moves_callEvent n))) _

/-- To look for a part of the engine finds it or ends with a fault. -/
theorem sound_requirePart [Host α] (p : Part) : (requirePart p : Act (World α) Unit).Keeps
    (Sound start) :=
  sound_of_offDepot (moves_requirePart p).of_eq

/-- Changes of the input. -/
theorem sound_modifyInput [Host α] (f : Input α → Input α) :
    (modify fun w : World α => { w with input := f w.input } : Act (World α) PUnit).Keeps
      (Sound start) :=
  sound_of_outside (moves_modify fun _ => ⟨rfl, rfl, rfl, rfl, rfl⟩)

/-- By induction on the events. -/
theorem sound_handleEvents [Host α] :
    ∀ events : List (Event α), (handleEvents events).Keeps (Sound start)
  | [] => keeps_pure _
  | e :: rest => by
    unfold handleEvents
    split
    · exact keeps_pure _
    · exact keeps_pure _
    · next e' rest' _ heq =>
      cases heq
      refine keeps_bind (sound_requirePart _) fun _ => ?_
      refine keeps_bind (sound_modifyInput (·.handle e)) fun _ => ?_
      refine keeps_bind (sound_requirePart _) fun _ => keeps_bind sound_handleEvent fun _ => ?_
      exact sound_handleEvents rest

/-- A frame: the update and the end of the input's frame. -/
theorem sound_tick [Host α] (dt : α) : (tick dt).Keeps (Sound start) := by
  unfold tick
  refine keeps_bind (sound_requirePart _) fun _ => keeps_bind (sound_update _) fun _ => ?_
  exact keeps_bind (sound_requirePart _) fun _ => sound_modifyInput (·.endFrame)

/-- One operation keeps the world sound. -/
theorem sound_act [Host α] (o : Operation α) : o.act.Keeps (Sound start) := by
  cases o with
  | register name n =>
    exact sound_of_outside (moves_modify fun _ => ⟨rfl, rfl, rfl, rfl, rfl⟩)
  | switchTo name => exact sound_switchTo name
  | change next => exact sound_changeScene next
  | switchState name =>
    exact sound_ofCurrent fun n => endsSound_of_acting (acting_switchToState n name)
  | events es => exact keeps_bind (sound_handleEvents es) fun _ => keeps_pure _
  | pass dt => exact sound_tick dt

/-- A whole run keeps the world sound. -/
theorem sound_play [Host α] : ∀ (os : List (Operation α)) {w : World α}, Sound start w →
    Sound start (play os w)
  | [], _, hw => hw
  | o :: os, w, hw => sound_play os (sound_act o w hw)

/-- A fresh world is sound, with an empty history. -/
theorem Fresh.sound [Host α] (h : start.Fresh) : Sound start start := ⟨⟨.start⟩, h.isolated⟩

/-! ## 5. Isolation

By induction on the operations; and what is sound has the three properties that are asked for. -/

/-- **In every run, however its operations end, the scenes are isolated.**  The world has a
history, and in each of its histories whatever is in a layer was put there by the current scene
since it became the current one; whatever the current scene keeps track of, under its id, as a
button or in an animation, is in some layer; and a scene that is not current keeps track of
nothing. -/
theorem scenes_isolated [Host α] (hstart : start.Fresh) (os : List (Operation α)) :
    (Nonempty (History start (play os start)) ∧
      ∀ (h : History start (play os start)) (o : Occupant), (play os start).Holds o →
        ∃ n, (play os start).current = some n ∧ h.PutSince n o) ∧
    (∀ n c, (play os start).current = some n → (play os start).script? n = some c →
      (∀ id e, (id, e) ∈ c.ids → (play os start).Holds (.entity e)) ∧
      (∀ e ∈ c.clickables, (play os start).Holds (.entity e)) ∧
      (∀ e a, (e, a) ∈ c.motions.entries → (play os start).Holds (.entity e))) ∧
    (∀ n c, (play os start).script? n = some c → (play os start).current ≠ some n →
      c.ids = [] ∧ c.clickables = [] ∧ c.motions.entries = []) := by
  have hsound : Sound start (play os start) := sound_play os hstart.sound
  refine ⟨⟨hsound.history, fun h o ho => h.putSince hstart ho⟩, fun n c hn hc => ?_,
    fun n c hc hn => ?_⟩
  · have hshows := (hsound.isolated.stands n c hn hc).2 c hc
    refine ⟨fun id e he => hshows e ?_, fun e he => hshows e ?_, fun e a he => hshows e ?_⟩
    · simp only [Script.tracked, List.mem_append, List.mem_map]
      exact Or.inl (Or.inl ⟨(id, e), he, rfl⟩)
    · simp only [Script.tracked, List.mem_append]
      exact Or.inl (Or.inr he)
    · simp only [Script.tracked, List.mem_append, List.mem_map]
      exact Or.inr ⟨(e, a), he, rfl⟩
  · have hnone := hsound.isolated.others n c hc hn
    simpa [Script.tracked, and_assoc] using hnone

end Sound

/-- The door of the hall leads to the yard in the middle of an update of the hall: the door that
is shown then is that of the yard, and the hall keeps track of nothing. -/
theorem scenes_isolated_house :
    house.Fresh ∧ (play (knock ++ [.pass 1]) house).Holds (.entity 1) ∧
    (∀ h : History house (play (knock ++ [.pass 1]) house), h.PutSince 1 (.entity 1)) ∧
    (∀ c, (play (knock ++ [.pass 1]) house).script? 0 = some c →
      c.ids = [] ∧ c.clickables = [] ∧ c.motions.entries = []) := by
  obtain ⟨⟨-, hput⟩, -, hothers⟩ := scenes_isolated fresh_house (knock ++ [.pass 1])
  have hcur : (play (knock ++ [.pass 1]) house).current = some 1 := by decide +kernel
  have hholds : (play (knock ++ [.pass 1]) house).Holds (.entity 1) :=
    ⟨.buttons, by decide +kernel⟩
  refine ⟨fresh_house, hholds, fun h => ?_, fun c hc => hothers 0 c hc (by rw [hcur]; decide)⟩
  obtain ⟨n, hn, h⟩ := hput h _ hholds
  rw [hcur] at hn
  cases hn
  exact h

end World

end Diorama
