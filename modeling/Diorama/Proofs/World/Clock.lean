/-
# States by the clock

A scripted scene is a state machine with a timer.  What it does by its timer can be told from a
`Clock` alone: the number of its state, and the times that have passed since that state was
activated.  `World.GoesBy n k w` says that the scene `n` goes by the clock `k`: its state is the
first one of its name, and its timer is the sum of the times.

This module has what starts a clock anew and what leaves it alone.  Entering a scene and going to
a state start it, however the placing of entities ends, because the script is changed first.
Everything else that a scene does either changes nothing but the depot, or starts the clock, or
ends in a change of scenes (`Ends`); and only in the first case the scene counts no activation.
So a press has activated nothing exactly if the clock has not been touched (`heard_dispatch`).
-/
import Diorama.Proofs.World.Dispatch
import Diorama.Proofs.World.Reentry

namespace Diorama

open Act

variable {α : Type}

/-! ## 1. Clocks

A clock keeps what the timer of a scene adds up: the times that have passed since the state was
activated, in their order.  So nothing is assumed about the addition of scalars, and the number of
frames can be read off as well. -/

/-- The clock of a state machine: the number of its state, and the times that have passed since
this state was activated. -/
structure Clock (α : Type) where
  index : Nat
  times : List α := []

namespace Clock

/-- Some time passes. -/
def pass (k : Clock α) (dt : α) : Clock α := { k with times := k.times ++ [dt] }

variable [Scalar α]

/-- The times added up as they have passed. -/
def elapsed (k : Clock α) : α := k.times.foldl (· + ·) 0.0

/-- One more time is added at the end. -/
theorem elapsed_pass (k : Clock α) (dt : α) : (k.pass dt).elapsed = k.elapsed + dt :=
  List.foldl_append

/-- It is time for a transition. -/
def Due (k : Clock α) (t : TransitionSpec α) : Prop := Scalar.le t.duration k.elapsed = true

end Clock

namespace Script

/-- What a clock tells of a script: the document and the place in it, but nothing of what is
tracked. -/
def dial (c : Script α) : Option (SceneSpec α) × Nat × Option String × α :=
  (c.spec, c.index, c.stateName, c.timer)

/-- The number of the first state that a value names. -/
def stateOf? (c : Script α) (name : Value α) : Option Nat :=
  c.states.findIdx? fun state => name.isText state.name

/-- A script goes by a clock: it has the state of this number and its name, no earlier state has
the same name, and its timer is what has passed. -/
structure GoesBy [Scalar α] (k : Clock α) (c : Script α) : Prop where
  index : c.index = k.index
  timer : c.timer = k.elapsed
  state : ∃ state, c.states[k.index]? = some state ∧ c.stateName = some state.name ∧
    ∀ j < k.index, ∀ other, c.states[j]? = some other → other.name ≠ state.name

/-- The state that a value names has it for its name. -/
theorem exists_of_stateOf? {c : Script α} {name : Value α} {i : Nat}
    (h : c.stateOf? name = some i) : ∃ state, c.states[i]? = some state ∧
      name = .text state.name ∧
      ∀ j < i, ∀ other, c.states[j]? = some other → other.name ≠ state.name := by
  obtain ⟨hi, htext, hfirst⟩ := List.findIdx?_eq_some_iff_getElem.1 h
  have hname := Value.isText_iff.1 htext
  refine ⟨_, List.getElem?_eq_getElem hi, hname, fun j hj other hother hsame => ?_⟩
  obtain ⟨hj', rfl⟩ := List.getElem?_eq_some_iff.1 hother
  exact hfirst j hj (Value.isText_iff.2 (hname.trans (congrArg Value.text hsame.symm)))

variable [Scalar α]

/-- A script that has been sent to a state which a value names. -/
def sentTo (i : Nat) (name : Value α) (c : Script α) : Script α :=
  { c with index := i, stateName := some name.plain, timer := 0.0 }

/-- Who goes to a state starts its clock; the state is the first of its name. -/
theorem goesBy_sentTo {c : Script α} {name : Value α} {i : Nat} (h : c.stateOf? name = some i) :
    (c.sentTo i name).GoesBy ⟨i, []⟩ := by
  obtain ⟨state, hstate, rfl, hfirst⟩ := exists_of_stateOf? h
  exact ⟨rfl, rfl, state, hstate, rfl, hfirst⟩

/-- Who is entered starts the clock of the first state. -/
theorem goesBy_entered {c : Script α} {first : StateSpec α} {rest : List (StateSpec α)}
    (h : c.states = first :: rest) : (c.entered first.name).GoesBy ⟨0, []⟩ := by
  refine ⟨rfl, rfl, first, ?_, rfl, fun j hj => (Nat.not_lt_zero j hj).elim⟩
  change c.states[0]? = some first
  rw [h]
  rfl

/-- A clock is read off the document, the number, the name and the timer, and nothing else of a
script. -/
theorem GoesBy.of_dial {k : Clock α} {c d : Script α} (h : c.GoesBy k) (hd : d.dial = c.dial) :
    d.GoesBy k := by
  simp only [dial, Prod.mk.injEq] at hd
  obtain ⟨hspec, hindex, hname, htimer⟩ := hd
  have hstates : d.states = c.states := states_eq hspec
  refine ⟨hindex.trans h.index, htimer.trans h.timer, ?_⟩
  rw [hstates, hname]
  exact h.state

end Script

namespace World

/-! ## 2. What leaves a clock alone

Placing a state changes a script in many places, but none of them is on the dial.  So an
activation may end with a fault anywhere in the middle: the clock has been started before, and
stays as it is. -/

/-- The document of the scene `n`, its place in it and its timer are the same. -/
def SameClock (n : Nat) (w v : World α) : Prop :=
  (v.script? n).map Script.dial = (w.script? n).map Script.dial

/-- The scene `n` has counted no activation. -/
def SameCount (n : Nat) (w v : World α) : Prop :=
  (v.script? n).map (·.activations) = (w.script? n).map (·.activations)

instance (n : Nat) : IsPreorder (World α) (SameClock n) where
  refl _ := rfl
  trans _ _ _ h h' := Eq.trans h' h

instance (n : Nat) : IsPreorder (World α) (SameCount n) where
  refl _ := rfl
  trans _ _ _ h h' := Eq.trans h' h

theorem SameScripts.sameClock {w v : World α} (h : w.SameScripts v) (n : Nat) :
    w.SameClock n v := by
  unfold SameClock
  rw [h n]

theorem SameScripts.sameCount {w v : World α} (h : w.SameScripts v) (n : Nat) :
    w.SameCount n v := by
  unfold SameCount
  rw [h n]

theorem Outside.sameScripts {w v : World α} (h : w.Outside v) : w.SameScripts v := by
  intro n
  unfold script?
  rw [h.scenes]

theorem sameClock_of_offDepot {n : Nat} {β : Type} {x : Act (World α) β} (hx : x.Moves OffDepot) :
    x.Moves (SameClock n) := hx.mono fun _ _ h => h.sameScripts.sameClock n

section Acts

variable (n : Nat)

theorem sameClock_mapScript {f : Script α → Script α} (hf : ∀ c, (f c).dial = c.dial)
    (w : World α) : w.SameClock n (w.mapScript n f) := by
  unfold SameClock
  rw [script?_mapScript, if_pos rfl, Option.map_map]
  exact congrArg (Option.map · (w.script? n)) (funext hf)

theorem sameClock_modifyScript {f : Script α → Script α} (hf : ∀ c, (f c).dial = c.dial) :
    (modifyScript n f).Moves (SameClock n) := sameClock_mapScript n hf

theorem sameClock_addEntity (e : Entity α) : (addEntity e).Moves (SameClock n) := fun _ => rfl

theorem sameClock_putInLayer (e : Nat) (layer : Layer) :
    (putInLayer n e layer : Act (World α) Unit).Moves (SameClock n) :=
  moves_bind (moves_reaches n _).of_eq fun _ => moves_ite (moves_modify fun _ => rfl) (moves_pure _)

theorem sameClock_recordButton (e : Nat) :
    (recordButton n e : Act (World α) Unit).Moves (SameClock n) :=
  moves_bind (moves_entityAt e).of_eq fun _ =>
    moves_ite (sameClock_modifyScript n fun _ => rfl) (moves_pure _)

theorem sameClock_clearStage : (clearStage n : Act (World α) Unit).Moves (SameClock n) := by
  have hdrop : (modifyScript n (·.dropTracking) : Act (World α) Unit).Moves (SameClock n) :=
    sameClock_modifyScript n fun _ => rfl
  unfold clearStage
  refine moves_bind (moves_reaches n _).of_eq fun _ => moves_ite ?_ hdrop
  exact moves_bind (moves_modify fun _ => rfl) fun _ => hdrop

variable [Scalar α]

theorem sameClock_recordId (fields : Fields α) (e : Nat) :
    (recordId n fields e).Moves (SameClock n) :=
  moves_ite (moves_bind (moves_ofExcept _) fun _ => sameClock_modifyScript n fun _ => rfl)
    (moves_pure _)

theorem sameClock_attach (e : Nat) (spec : AnimationSpec α) :
    (attach n e spec).Moves (SameClock n) := by
  intro w
  rw [after_attach]
  cases w.script? n with
  | none => exact refl w
  | some c =>
    let motions := (c.motions.attach e spec (canvasOf c) w.entities).1
    exact sameClock_mapScript n (f := fun s => { s with motions }) (fun _ => rfl) _

theorem sameClock_attachDescribed (fields : Fields α) (e : Nat) :
    (attachDescribed n fields e).Moves (SameClock n) := by
  unfold attachDescribed
  refine moves_ite (moves_bind (sameClock_of_offDepot (moves_liftLog _)) fun spec => ?_)
    (moves_pure _)
  split
  · exact sameClock_attach n e _
  · exact moves_pure _

theorem sameClock_placeEntity (layer : Layer) (fields : Fields α) :
    (placeEntity n layer fields).Moves (SameClock n) := by
  unfold placeEntity
  refine moves_bind (moves_workshopOf n).of_eq fun shop => ?_
  refine moves_bind (sameClock_of_offDepot (moves_liftLog _)) fun built => ?_
  split
  · exact moves_pure _
  · refine moves_bind (sameClock_addEntity n _) fun e => ?_
    refine moves_bind (sameClock_putInLayer n e layer) fun _ => ?_
    refine moves_bind (sameClock_recordId n fields e) fun _ => ?_
    exact moves_bind (sameClock_recordButton n e) fun _ => sameClock_attachDescribed n fields e

/-- **Activating a state leaves the clock alone.** -/
theorem sameClock_activate (state : StateSpec α) : (activate n state).Moves (SameClock n) := by
  have hplace : (placeState n state).Moves (SameClock n) := by
    refine moves_forM _ fun entry _ => ?_
    obtain ⟨name, descriptions⟩ := entry
    change (placeLayer n state.name name descriptions).Moves _
    unfold placeLayer
    split
    · exact moves_forM _ fun fields _ => sameClock_placeEntity n _ fields
    · exact sameClock_of_offDepot (moves_sayFor n _)
  unfold activate
  refine moves_bind (sameClock_modifyScript n fun _ => rfl) fun _ => moves_ite ?_ hplace
  exact moves_bind (sameClock_clearStage n) fun _ => hplace

end Acts

/-! ## 3. Scenes by the clock

What it means for the current scene of a world to go by a clock, and which acts leave that alone,
start the clock or let it run. -/

section GoesBy

variable [Scalar α] {n : Nat} {k : Clock α} {w v : World α}

/-- The scene `n` is the current one and goes by a clock. -/
structure GoesBy (n : Nat) (k : Clock α) (w : World α) : Prop where
  current : w.current = some n
  script : ∃ c, w.script? n = some c ∧ c.GoesBy k

/-- The clock is that of the scene's own script. -/
theorem GoesBy.script_of (h : w.GoesBy n k) {c : Script α} (hc : w.script? n = some c) :
    c.GoesBy k := by
  obtain ⟨d, hd, hk⟩ := h.script
  exact Option.some.inj (hd.symm.trans hc) ▸ hk

/-- What does not touch the dial, nor the choice of the current scene, leaves the clock alone. -/
theorem GoesBy.sameClock (h : w.GoesBy n k) (hcurrent : v.current = w.current)
    (hv : w.SameClock n v) : v.GoesBy n k := by
  obtain ⟨c, hc, hk⟩ := h.script
  unfold SameClock at hv
  rw [hc, Option.map_some] at hv
  obtain ⟨d, hd, hdial⟩ := Option.map_eq_some_iff.1 hv
  exact ⟨hcurrent.trans h.current, d, hd, hk.of_dial hdial⟩

theorem GoesBy.outside (h : w.GoesBy n k) (hv : w.Outside v) : v.GoesBy n k :=
  h.sameClock hv.current (hv.sameScripts.sameClock n)

theorem GoesBy.offDepot (h : w.GoesBy n k) (hv : w.OffDepot v) : v.GoesBy n k :=
  h.outside hv.outside

/-- A state is activated after its script was set. -/
theorem goesBy_activate (h : w.GoesBy n k) (state : StateSpec α) :
    ((activate n state).after w).GoesBy n k := by
  have hown : (activate n state).Moves (OwnWork n) := (tools_ownWork n).places.activate state
  exact h.sameClock (hown w).current (sameClock_activate n state w)

/-- A scene that is sent to a state it has: the clock starts, however the activation ends, and the
scene counts it. -/
theorem goesBy_switchToState {c : Script α} {name : Value α} {i : Nat} (hn : w.current = some n)
    (hc : w.script? n = some c) (hi : c.stateOf? name = some i) :
    ((switchToState n name).after w).GoesBy n ⟨i, []⟩ ∧
      w.Counts n ((switchToState n name).after w) := by
  obtain ⟨state, hstate, -⟩ := Script.exists_of_stateOf? hi
  obtain ⟨s, hs, -⟩ := script?_eq_some.1 hc
  obtain ⟨d, hsay, -⟩ := run_sayFor hs ("Switching to state: " ++ name.plain)
  have hset : (World.mapScript n (Script.sentTo i name) { w with depot := d }).script? n =
      some (c.sentTo i name) := script?_mapScript_self (w := { w with depot := d }) hc _
  have hafter : (switchToState n name).after w = (activate n state).after
      (World.mapScript n (Script.sentTo i name) { w with depot := d }) := by
    unfold switchToState
    unfold Script.stateOf? at hi
    rw [after_bind_of_ok (by rw [run_scriptAt, hc]), hi]
    dsimp only
    rw [after_bind_of_ok (run_written_of_isText hi w), after_bind_of_ok hsay,
      after_bind_of_ok (run_modifyScript n _ _), hstate]
    rfl
  have hsent : (World.mapScript n (Script.sentTo i name) { w with depot := d }).GoesBy n ⟨i, []⟩ :=
    ⟨hn, _, hset, Script.goesBy_sentTo hi⟩
  rw [hafter]
  refine ⟨goesBy_activate hsent state, fun c' hc' => ?_⟩
  obtain rfl : c = c' := Option.some.inj (hc.symm.trans hc')
  exact counts_activate n state _ (c.sentTo i name) hset

/-- A switch to a state that there is not changes nothing, and is reported if the name has a text. -/
theorem run_switchToState_of_unknown {c : Script α} {name : Value α} (hc : w.script? n = some c)
    (hi : c.stateOf? name = none) :
    ∃ r v, (switchToState n name).run w = (r, v) ∧ w.OffDepot v ∧
      (name.writable = true → r = .ok ()) := by
  obtain ⟨s, hs, -⟩ := script?_eq_some.1 hc
  obtain ⟨d, hsay, -⟩ := run_sayFor hs ("Warning: state not found: " ++ name.plain)
  unfold switchToState
  unfold Script.stateOf? at hi
  rw [run_bind_of_ok (by rw [run_scriptAt, hc]), hi]
  dsimp only
  unfold Value.written
  cases hlong : name.writable with
  | true =>
    refine ⟨.ok (), { w with depot := d }, ?_, rfl, fun _ => rfl⟩
    rw [run_bind_of_ok (run_told hlong _ w)]
    exact hsay
  | false =>
    refine ⟨.error .notANumber, w, ?_, refl w, nofun⟩
    rw [run_bind_of_error (run_told_of_not hlong _ w)]

variable [Host α]

omit [Scalar α] [Host α] in
theorem current_of_handOver {next : Option Nat} (h : (handOver next).run w = (.ok (), v)) :
    v.current = next := by
  unfold handOver at h
  obtain ⟨_, u, -, h⟩ := run_bind_eq_ok.1 h
  obtain ⟨_, u', -, h⟩ := run_bind_eq_ok.1 h
  cases h
  rfl

/-- **A scene that has moved in is entered, and its clock starts**, however the placing
ends.  After moving in the scene is the current one; entering sets its clock to the first state,
and what is placed afterwards does not touch it. -/
theorem goesBy_changeScene {t : World α} {c : Script α} (hc : w.script? n = some c)
    (hstates : c.states ≠ []) (hmove : (moveIn n).run w = (.ok (), t)) :
    ((changeScene (some n)).after w).GoesBy n ⟨0, []⟩ := by
  obtain ⟨first, rest, hfirst⟩ := List.exists_cons_of_ne_nil hstates
  have hages : w.Ages t := after_eq_of_run hmove ▸ moves_moveIn n w
  obtain ⟨d, hd, hspec, -⟩ := hages.script? hc
  obtain ⟨s, hs, -⟩ := script?_eq_some.1 hd
  have hstates' : d.states = first :: rest := (Script.states_eq hspec).trans hfirst
  obtain ⟨depot, hrun, -⟩ := run_enter_of_cons hs hd hstates'
  have hcurrent : t.current = some n := by
    obtain ⟨_, u, htake, hstart⟩ := run_bind_eq_ok.1 hmove
    obtain ⟨_, _, -, htake⟩ := run_bind_eq_ok.1 htake
    obtain ⟨_, _, -, hhand⟩ := run_bind_eq_ok.1 htake
    have hown : u.OwnWork n t := after_eq_of_run hstart ▸ moves_start n u
    exact hown.current.trans (current_of_handOver hhand)
  have hset : (World.mapScript n (Script.entered first.name) { t with depot }).script? n =
      some (d.entered first.name) := script?_mapScript_self (w := { t with depot }) hd _
  have hentered : (World.mapScript n (Script.entered first.name) { t with depot }).GoesBy n
      ⟨0, []⟩ := ⟨hcurrent, _, hset, Script.goesBy_entered hstates'⟩
  rw [after, run_changeScene hc hmove, hrun]
  exact goesBy_activate hentered first

/-- In a change of scenes that succeeds the new scene has moved in. -/
theorem exists_moveIn {c : Script α} (hc : w.script? n = some c)
    (h : (changeScene (some n)).run w = (.ok (), v)) : ∃ t, (moveIn n).run w = (.ok (), t) := by
  rw [changeScene_eq] at h
  obtain ⟨_, u, htake, h⟩ := run_bind_eq_ok.1 h
  have hages : w.Ages u := after_eq_of_run htake ▸ moves_takeOver (some n) w
  obtain ⟨d, hd, -⟩ := hages.script? hc
  rw [run_bringUp hd] at h
  obtain ⟨_, t, hstart, -⟩ := run_bind_eq_ok.1 h
  exact ⟨t, run_bind_eq_ok.2 ⟨(), u, htake, hstart⟩⟩

end GoesBy

/-! ## 4. How what a scene does can end

Everything that a scene asks for ends in one of two ways, with or without a fault: only the depot
was touched, or something was activated and its clock has started.  `Heeds` is closed under
sequencing after acts in the depot, which is all that comes before an activation. -/

section Ends

variable [Scalar α] [Host α]

/-- A change of scenes was begun after at most the depot had changed; this is where it has ended,
with or without a fault. -/
def Leaves (w v : World α) : Prop := ∃ u next, w.OffDepot u ∧ v = (changeScene next).after u

/-- Something was activated and counted: the scene `n` is in one of its states and its clock has
started, or it was left. -/
def Restarts (n : Nat) (w v : World α) : Prop :=
  w.Counts n v ∧ ((∃ i, v.GoesBy n ⟨i, []⟩) ∨ w.Leaves v)

/-- Nothing but the depot differs, or something was activated. -/
def Ends (n : Nat) (w v : World α) : Prop := w.OffDepot v ∨ w.Restarts n v

/-- However the act ends, fault or not, it ends in one of these ways while the scene `n` is on. -/
def Heeds (n : Nat) {β : Type} (x : Act (World α) β) : Prop :=
  ∀ (w : World α) (k : Clock α), w.GoesBy n k → w.Ends n (x.after w)

variable {n : Nat}

theorem OffDepot.restarts {u w v : World α} (h : u.OffDepot w) (hv : w.Restarts n v) :
    u.Restarts n v := by
  refine ⟨(h.ownWork n).toAges.counts hv.1, hv.2.imp_right ?_⟩
  rintro ⟨t, next, ht, rfl⟩
  exact ⟨t, next, h.trans ht, rfl⟩

theorem OffDepot.ends {u w v : World α} (h : u.OffDepot w) (hv : w.Ends n v) : u.Ends n v :=
  hv.imp h.trans h.restarts

theorem heeds_of_offDepot {β : Type} {x : Act (World α) β} (hx : x.Moves OffDepot) : Heeds n x :=
  fun w _ _ => Or.inl (hx w)

theorem heeds_bind {β γ : Type} {x : Act (World α) β} {f : β → Act (World α) γ}
    (hx : x.Moves OffDepot) (hf : ∀ b, Heeds n (f b)) : Heeds n (x >>= f) := by
  intro w k hw
  refine after_bind_cases (Or.inl (hx w)) fun b t hrun => ?_
  have ht : w.OffDepot t := after_eq_of_run hrun ▸ hx w
  exact ht.ends (hf b t k (hw.offDepot ht))

theorem heeds_ite {β : Type} {c : Prop} [Decidable c] {x y : Act (World α) β} (hx : Heeds n x)
    (hy : Heeds n y) : Heeds n (if c then x else y) := by
  split
  · exact hx
  · exact hy

theorem heeds_switchToState (name : Value α) : Heeds n (switchToState n name) := by
  intro w k hw
  obtain ⟨c, hc, -⟩ := hw.script
  cases hi : c.stateOf? name with
  | none =>
    obtain ⟨_, v, hrun, hv, -⟩ := run_switchToState_of_unknown hc hi
    exact Or.inl (after_eq_of_run hrun ▸ hv)
  | some i =>
    obtain ⟨hstart, hcount⟩ := goesBy_switchToState hw.current hc hi
    exact Or.inr ⟨hcount, Or.inl ⟨i, hstart⟩⟩

theorem heeds_changeScene (next : Option Nat) : Heeds n (changeScene next : Act (World α) Unit) :=
  fun w _ hw => Or.inr ⟨counts_changeScene hw.current next, Or.inr ⟨w, next, rfl, rfl⟩⟩

theorem heeds_switchTo (name : Value α) : Heeds n (switchTo name) := by
  unfold switchTo
  refine heeds_bind (moves_registered? name).of_eq fun next => ?_
  split
  · exact heeds_changeScene _
  · exact heeds_of_offDepot (moves_bind (moves_ofExcept _) fun _ => moves_liftLog _)

theorem heeds_switchScene (name : Value α) : Heeds n (switchScene n name) := by
  unfold switchScene
  exact heeds_bind (moves_reaches n _).of_eq fun _ =>
    heeds_ite (heeds_switchTo name)
      (heeds_of_offDepot (moves_bind (moves_ofExcept _) fun _ => moves_sayFor n _))

/-- A transition goes to a state or to a scene. -/
theorem heeds_follow (t : TransitionSpec α) : Heeds n (follow n t) := by
  unfold follow
  exact heeds_ite (heeds_switchScene _) (heeds_ite (heeds_switchToState _)
    (heeds_of_offDepot (moves_pure _)))

/-- An action prints or plays, or goes to a state or a scene. -/
theorem heeds_perform (action : ActionSpec α) : Heeds n (perform n action) := by
  unfold perform
  refine heeds_bind (moves_sayFor n _) fun _ => ?_
  split
  · exact heeds_ite (heeds_switchScene _) (heeds_of_offDepot (moves_pure _))
  · exact heeds_ite (heeds_switchToState _) (heeds_of_offDepot (moves_pure _))
  · refine heeds_of_offDepot (moves_ite ?_ (moves_pure _))
    refine moves_bind (moves_reaches n _).of_eq fun _ => moves_ite ?_ (moves_pure _)
    exact moves_bind (moves_onDepot _) fun _ => moves_pure _
  · refine heeds_bind (moves_scriptAt n).of_eq fun c =>
      heeds_ite ?_ (heeds_of_offDepot (moves_bind (moves_ofExcept _) fun _ => moves_sayFor n _))
    unfold answerCustom
    refine heeds_bind (moves_onDevice _) fun _ => ?_
    split
    · exact heeds_switchToState _
    · exact heeds_of_offDepot (moves_pure _)

theorem heeds_click (e : Nat) (x y : α) : Heeds n (click n e x y) := by
  unfold click
  refine heeds_bind (moves_entityAt e).of_eq fun entity => heeds_bind (moves_ofExcept _) fun a => ?_
  split
  · exact heeds_perform _
  · exact heeds_of_offDepot (moves_pure _)

/-! ## 5. A press

A press goes through the buttons, and the loop ends when the count of activations has moved.  By
section 4 this is when the clock was started. -/

/-- What the answer to a press says: whether something was activated.  A fault does not say it. -/
def Heard (n : Nat) (w : World α) : Except Fault Bool → World α → Prop
  | .ok false, v => w.OffDepot v
  | .ok true, v => w.Restarts n v
  | .error _, v => w.Ends n v

theorem OffDepot.heard {u w v : World α} {r : Except Fault Bool} (h : u.OffDepot w)
    (hv : w.Heard n r v) : u.Heard n r v := by
  match r with
  | .ok false => exact h.trans hv
  | .ok true => exact h.restarts hv
  | .error _ => exact h.ends hv

/-- The loop stops as soon as something was activated, since that is counted.  By induction on the
entities: one that was not heard leaves the clock and the count, and the loop goes on; one that
was heard has raised the count. -/
theorem heard_clickAll {x y : α} {k : Clock α} {c : Script α} : ∀ {es : List Nat} {w : World α},
    w.GoesBy n k → w.script? n = some c →
    w.Heard n ((clickAll n x y c.activations es).run w).1
      ((clickAll n x y c.activations es).after w)
  | [], w, _, _ => rfl
  | e :: es, w, hw, hc => by
    have hclick := heeds_click e x y w k hw
    unfold clickAll after
    cases hr : (click n e x y).run w with
    | mk r u =>
      rw [after_eq_of_run hr] at hclick
      cases r with
      | error f =>
        rw [run_bind_of_error hr]
        exact hclick
      | ok _ =>
        rw [run_bind_of_ok hr]
        rcases hclick with hoff | hact
        · have hcu : u.script? n = some c := (hoff.sameScripts n).trans hc
          rw [run_bind_of_ok (by rw [run_scriptAt, hcu]), if_neg (by simp)]
          exact hoff.heard (heard_clickAll (hw.offDepot hoff) hcu)
        · obtain ⟨d, hd, hlt⟩ := hact.1 c hc
          have hne : d.activations ≠ c.activations := by omega
          rw [run_bind_of_ok (by rw [run_scriptAt, hd]), if_pos (by simpa using hne)]
          exact hact

/-- **A press that activates nothing changes nothing but the depot.** Without a press nothing is
tested at all; with one the loop over the buttons is `clickAll`. -/
theorem heard_dispatch {k : Clock α} {w : World α} (hw : w.GoesBy n k) :
    w.Heard n ((dispatch n).run w).1 ((dispatch n).after w) := by
  obtain ⟨c, hc, -⟩ := hw.script
  have hpress := moves_freshPress? (α := α) n w
  unfold dispatch after
  cases hr : (freshPress? n).run w with
  | mk r t =>
    obtain rfl : w = t := hpress.trans (after_eq_of_run hr)
    cases r with
    | error f =>
      rw [run_bind_of_error hr]
      exact Or.inl rfl
    | ok p =>
      rw [run_bind_of_ok hr]
      cases p with
      | none => exact refl w
      | some p =>
        dsimp only
        rw [run_bind_of_ok (by rw [run_scriptAt, hc])]
        exact heard_clickAll hw hc

end Ends

end World

end Diorama
