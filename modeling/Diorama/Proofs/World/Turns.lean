/-
# Scenes change

What the director does when it changes scenes, and what a scene can tell of it.  A scene that
leaves forgets everything it kept track of, and it counts that: as soon as the count of the
current scene has moved it may no longer be the current one, and as long as it has not moved
it still is (`Notices`).

Whatever else happens in a run is a scene's own work or outside of the scenes.  So a relation that
spans these three holds from the start of a run to its end (`moved_play`).  A relation that only
speaks of changes of scenes as a whole covers them (`Covers`).
-/
import Diorama.Proofs.World.History

namespace Diorama

open Act

variable {α : Type}

namespace World

/-! ## 1. Leaving

`change_scene` lets the old scene leave first.  Its `exit` drops what it tracked and adds to its
count of activations; by this count the loop over the buttons will know that it has to stop. -/

/-- No scripted scene keeps track of anything. -/
def Vacant (w : World α) : Prop := ∀ n c, w.script? n = some c → c.tracked = []

/-- The scene `n` keeps track of nothing, and has counted that. -/
def Dropped (n : Nat) (w v : World α) : Prop :=
  ∀ c, w.script? n = some c → ∃ d, v.script? n = some d ∧ d.tracked = [] ∧
    c.activations < d.activations

/-- What happens in the depot changes no script. -/
theorem OffDepot.sameScripts {w v : World α} (h : w.OffDepot v) : w.SameScripts v :=
  h.backstage.scripts

/-- A scripted scene can be bound, and then it is. -/
theorem run_callBind {n : Nat} {w : World α} {c : Script α} (hc : w.script? n = some c) :
    ∃ s, w.scenes[n]? = some s ∧ (callBind n).run w =
      (.ok (), { w with scenes := w.scenes.modify n fun s => { s with bound := true } }) := by
  obtain ⟨s, hs, hr⟩ := script?_eq_some.1 hc
  refine ⟨s, hs, ?_⟩
  have hbound : ({ w with scenes := w.scenes.modify n fun s => { s with bound := true } } :
      World α).scenes[n]? = some { s with bound := true } := by
    rw [Array.getElem?_modify, if_pos rfl, hs, Option.map_some]
  unfold callBind bind modifyScene
  rw [run_bind_of_ok (run_modify _ w), run_bind_of_ok (by rw [run_sceneAt, hbound])]
  dsimp only
  rw [hr]
  rfl

section Leave

variable [Scalar α]

/-- A scripted scene that leaves drops its records and counts that; giving its assets back
afterwards does not change the script again. -/
theorem dropped_leaveScript (n : Nat) : (leaveScript n : Act (World α) Unit).Moves (Dropped n) := by
  intro w c hc
  have hdrop : (w.mapScript n (·.dropTracking)).script? n = some c.dropTracking :=
    script?_mapScript_self hc _
  refine ⟨c.dropTracking, ?_, c.tracked_dropTracking, Nat.lt_succ_self _⟩
  unfold leaveScript
  rw [after_bind_of_ok (run_modifyScript n w _), (moves_giveBack_backstage n _).scripts n, hdrop]

/-- So does a scene that is called to leave, if it is a scripted one. -/
theorem dropped_callLeave (n : Nat) : (callLeave n : Act (World α) Unit).Moves (Dropped n) := by
  intro w c hc
  obtain ⟨s, hs, hr⟩ := script?_eq_some.1 hc
  unfold callLeave
  rw [after_bind_of_ok (by rw [run_sceneAt, hs]), hr]
  exact dropped_leaveScript n w c hc

omit [Scalar α] in
/-- A scripted scene has all hooks. -/
theorem run_ifHas {n : Nat} {w : World α} {c : Script α} (hc : w.script? n = some c) (hook : Hook)
    (x : Act (World α) Unit) : (ifHas n hook x).run w = x.run w := by
  obtain ⟨s, hs, hr⟩ := script?_eq_some.1 hc
  unfold ifHas
  rw [run_bind_of_ok (by rw [run_sceneAt, hs]), Scene.has, hr]
  rfl

omit [Scalar α] in
/-- A hook that a scene does not have is passed over, so what holds of the act holds of the call. -/
theorem moves_ifHas {R : World α → World α → Prop} [IsPreorder (World α) R] {x : Act (World α) Unit}
    (h : x.Moves R) (n : Nat) (hook : Hook) : (ifHas n hook x).Moves R :=
  moves_bind (moves_sceneAt n).of_eq fun _ => moves_ite h (moves_pure _)

omit [Scalar α] in
/-- A call of a hook is either nothing at all or the act itself. -/
theorem after_ifHas (n : Nat) (hook : Hook) (x : Act (World α) Unit) (w : World α) :
    (ifHas n hook x).after w = w ∨ (ifHas n hook x).after w = x.after w := by
  unfold ifHas
  cases hs : w.scenes[n]? with
  | none => exact Or.inl (after_bind_of_error (by rw [run_sceneAt, hs]))
  | some s =>
    rw [after_bind_of_ok (by rw [run_sceneAt, hs])]
    split
    · exact Or.inr rfl
    · exact Or.inl rfl

/-- The current scene is dismissed by its own hook. -/
theorem after_dismiss {w : World α} {n : Nat} (hn : w.current = some n) :
    dismiss.after w = (ifHas n .leave (callLeave n)).after w := by
  unfold dismiss
  rw [after_bind_of_ok (run_get w), hn]

/-- The current scene leaves; the choice of the current scene is still the same. -/
theorem dismiss_current {n : Nat} {w : World α} (hn : w.current = some n) :
    w.OwnWork n (dismiss.after w) ∧ w.Dropped n (dismiss.after w) := by
  rw [after_dismiss hn]
  refine ⟨moves_ifHas (moves_callLeave n) n _ w, fun c hc => ?_⟩
  rw [Act.after, run_ifHas hc]
  exact dropped_callLeave n w c hc

/-! ## 2. What a change of scenes keeps

The parts of a change, in order: the old scene leaves, the new one is bound, the layers are
emptied and the new scene becomes the current one (`takeOver`); only then it comes up.  The two
halves are kept apart, because a fault in the first half leaves the old scene in place. -/

section Own

variable {R : World α → World α → Prop} [IsPreorder (World α) R]
  (own : ∀ {n : Nat} {w v : World α}, w.OwnWork n v → R w v)

include own

/-- Leaving, being bound and coming up are each the own work of a scene. -/
theorem moves_dismiss_of : (dismiss : Act (World α) Unit).Moves R := by
  unfold dismiss
  refine moves_bind moves_get fun w => ?_
  split
  · exact moves_ifHas ((moves_callLeave _).mono fun _ _ => own) _ _
  · exact moves_pure _

omit [Scalar α] in
/-- The new scene is bound by its own hook, if there is a new scene and it has the hook. -/
theorem moves_bindNext_of (next : Option Nat) : (bindNext next : Act (World α) Unit).Moves R := by
  cases next with
  | none => exact moves_pure _
  | some n => exact moves_ifHas ((moves_callBind n).mono fun _ _ => own) n _

/-- It comes up by two hooks, one to enter and one to populate. -/
theorem moves_bringUp_of [Host α] (next : Option Nat) :
    (bringUp next : Act (World α) Unit).Moves R := by
  cases next with
  | none => exact moves_pure _
  | some n =>
    exact moves_bind (moves_ifHas ((moves_callEnter n).mono fun _ _ => own) n _) fun _ =>
      moves_ifHas ((moves_callPopulate n).mono fun _ _ => own) n _

end Own

/-- When the old scene leaves, no count goes back. -/
theorem moves_dismiss : (dismiss : Act (World α) Unit).Moves Ages :=
  moves_dismiss_of fun h => h.toAges

omit [Scalar α] in
/-- To bind the new scene lets no count go back. -/
theorem moves_bindNext (next : Option Nat) : (bindNext next : Act (World α) Unit).Moves Ages :=
  moves_bindNext_of (fun h => h.toAges) next

omit [Scalar α] in
/-- To hand over is to empty the layers and to make the new scene the current one, which counts
nothing. -/
theorem moves_handOver (next : Option Nat) : (handOver next : Act (World α) Unit).Moves Ages :=
  moves_bind (moves_requirePart _).of_eq fun _ =>
    moves_bind (moves_modify fun _ => .of_eq rfl rfl rfl) fun _ =>
      moves_modify fun _ => .of_eq rfl rfl rfl

/-- To bring the new scene up lets no count go back. -/
theorem moves_bringUp [Host α] (next : Option Nat) :
    (bringUp next : Act (World α) Unit).Moves Ages :=
  moves_bringUp_of (fun h => h.toAges) next

omit [Scalar α] in
/-- With layers to empty, the hand-over comes to its end. -/
theorem run_handOver_of_hasPart {w : World α} (h : w.hasPart .compositor = true)
    (next : Option Nat) : (handOver next).run w = (.ok (), w.handedTo next) := by
  unfold handOver
  rw [run_bind_of_ok (by rw [run_requirePart, if_pos h])]
  rfl

omit [Scalar α] in
/-- So it does in an engine that has all parts. -/
theorem run_handOver {w : World α} (hparts : w.missing = []) (next : Option Nat) :
    (handOver next).run w = (.ok (), w.handedTo next) :=
  run_handOver_of_hasPart (by simp [hasPart, hparts]) next

/-- The part of a change of scenes in which the canvas passes from the old scene to the next. -/
def takeOver (next : Option Nat) : Act (World α) Unit := do
  dismiss
  bindNext next
  handOver next

/-- The first half of a change, in one piece. -/
theorem moves_takeOver (next : Option Nat) : (takeOver next : Act (World α) Unit).Moves Ages :=
  moves_bind moves_dismiss fun _ => moves_bind (moves_bindNext next) fun _ => moves_handOver next

/-- A change of scenes is its two halves. -/
theorem changeScene_eq [Host α] (next : Option Nat) :
    (changeScene next : Act (World α) Unit) = takeOver next >>= fun _ => bringUp next := by
  unfold changeScene takeOver
  simp only [bind_assoc]

/-- A new scripted scene is set up by loading its assets. -/
theorem run_start_of_new [Host α] {n : Nat} {w : World α} {s : Scene α} {c : Script α}
    (hs : w.scenes[n]? = some s) (hr : s.role = .scripted c) (hnew : s.started = false) :
    (start n).run w = (do
      preload n
      modifyScene n fun s => { s with started := true } : Act (World α) Unit).run w := by
  have hsetUp : (setUp n).run w = (preload n).run w := by
    unfold setUp
    rw [run_bind_of_ok (by rw [run_sceneAt, hs]), hr]
  unfold start
  rw [run_bind_of_ok (by rw [run_sceneAt, hs]), hnew]
  rw [if_pos (by decide), run_bind, run_bind, hsetUp]

/-- A scripted scene is set up, entered, and shows its first state.  Entering a script is setting
it up and entering it, and showing it is activating its first state; between the two calls it
stays a script. -/
theorem run_bringUp [Host α] {n : Nat} {w : World α} {c : Script α} (hc : w.script? n = some c) :
    (bringUp (some n)).run w = (do start n; enterScript n; populateScript n).run w := by
  have henter : (ifHas n .enter (callEnter n)).run w = (do start n; enterScript n).run w := by
    obtain ⟨s, hs, hr⟩ := script?_eq_some.1 hc
    rw [run_ifHas hc]
    unfold callEnter
    rw [run_bind_of_ok (by rw [run_sceneAt, hs]), hr]
  have hassoc : (do start n; enterScript n; populateScript n : Act (World α) Unit) =
      (do start n; enterScript n) >>= fun _ => populateScript n := by
    rw [bind_assoc]
  rw [hassoc]
  unfold bringUp
  cases hr : (do start n; enterScript n : Act (World α) Unit).run w with
  | mk r u =>
    cases r with
    | error e => rw [run_bind_of_error (henter.trans hr), run_bind_of_error hr]
    | ok _ =>
      have hages : w.Ages u := by
        rw [← after_eq_of_run hr]
        exact (moves_bind (moves_start n) (fun _ => moves_enterScript n) w).toAges
      obtain ⟨d, hd, -⟩ := hages.script? hc
      obtain ⟨s, hs, hrole⟩ := script?_eq_some.1 hd
      rw [run_bind_of_ok (henter.trans hr), run_bind_of_ok hr, run_ifHas hd]
      unfold callPopulate
      rw [run_bind_of_ok (by rw [run_sceneAt, hs]), hrole]

/-- The scene `n` has counted an activation. -/
def Counts (n : Nat) (w v : World α) : Prop :=
  ∀ c, w.script? n = some c → ∃ d, v.script? n = some d ∧ c.activations < d.activations

omit [Scalar α] in
/-- A count that has moved is still moved later. -/
theorem Counts.ages {n : Nat} {u v w : World α} (h : u.Counts n v) (hw : v.Ages w) :
    u.Counts n w := by
  intro c hc
  obtain ⟨d, hd, hcd⟩ := h c hc
  obtain ⟨e, he, -, -, hde⟩ := hw.script? hd
  exact ⟨e, he, Nat.lt_of_lt_of_le hcd hde⟩

omit [Scalar α] in
/-- A count that has moved since some time has moved since any time before it. -/
theorem Ages.counts {n : Nat} {u v w : World α} (h : u.Ages v) (hw : v.Counts n w) :
    u.Counts n w := by
  intro c hc
  obtain ⟨d, hd, -, -, hcd⟩ := h.script? hc
  obtain ⟨e, he, hde⟩ := hw d hd
  exact ⟨e, he, Nat.lt_of_le_of_lt hcd hde⟩

/-- The scene `n` stays the current scene, or it counts an activation. -/
structure Notices (n : Nat) (w v : World α) : Prop where
  ages : w.Ages v
  notice : w.current = some n → v.current = some n ∨ w.Counts n v

instance (n : Nat) : IsPreorder (World α) (Notices n) where
  refl w := ⟨.refl w, Or.inl⟩
  trans u v w h h' := by
    refine ⟨h.ages.trans h'.ages, fun hu => ?_⟩
    rcases h.notice hu with hv | hcount
    · rcases h'.notice hv with hw | hcount
      · exact Or.inl hw
      · exact Or.inr (h.ages.counts hcount)
    · exact Or.inr (hcount.ages h'.ages)

omit [Scalar α] in
/-- A scene's own work does not change which scene is current, so there is nothing to notice. -/
theorem OwnWork.notices {n m : Nat} {w v : World α} (h : w.OwnWork m v) : w.Notices n v :=
  ⟨h.toAges, fun hw => Or.inl (h.current.trans hw)⟩

/-- **A scene cannot be replaced without counting it.** -/
theorem counts_changeScene [Host α] {n : Nat} {w : World α} (hn : w.current = some n)
    (next : Option Nat) :
    w.Counts n ((changeScene next).after w) := by
  have hrest : (do bindNext next; handOver next; bringUp next : Act (World α) Unit).Moves Ages :=
    moves_bind (moves_bindNext next) fun _ => moves_bind (moves_handOver next) fun _ =>
      moves_bringUp next
  have hcount : w.Counts n (dismiss.after w) := fun c hc => by
    obtain ⟨d, hd, -, hcd⟩ := (dismiss_current hn).2 c hc
    exact ⟨d, hd, hcd⟩
  unfold changeScene
  refine after_bind_cases hcount fun _ t hr => ?_
  rw [after_eq_of_run hr] at hcount
  exact hcount.ages (hrest t)

/-- The old scene notices the change: its count has moved.  If it is its own successor it is
current again, and the count has moved as well. -/
theorem moves_changeScene [Host α] (n : Nat) (next : Option Nat) :
    (changeScene next : Act (World α) Unit).Moves (Notices n) := by
  refine fun w => ⟨?_, fun hn => Or.inr (counts_changeScene hn next)⟩
  rw [changeScene_eq]
  exact moves_bind (moves_takeOver next) (fun _ => moves_bringUp next) w

omit [Scalar α] in
/-- A name is looked up among the registered scenes. -/
theorem run_registered?_text (key : String) (w : World α) :
    (registered? (.text key)).run w = (.ok (w.registry.lookup key), w) := rfl

/-- To go to a registered scene is to change to it. -/
theorem run_switchTo [Host α] {n : Nat} {name : Value α} {w : World α}
    (h : (registered? name).run w = (.ok (some n), w)) :
    (switchTo name).run w = (changeScene (some n)).run w := by
  unfold switchTo
  rw [run_bind_of_ok h]

end Leave

/-! ## 3. What a run is made of

The acts of a run, from the smallest to the largest, each made of those before it.  A relation has
to bear only the smallest ones; how many there are depends on the relation, hence the three
structures.  `Passes` is for what a scene does in an update, `Carries` adds the input, and
`Covers` is for relations that bear every tool of a scene. -/

section Spans

variable [Scalar α]

/-- The relation holds across what happens in an update other than a step of a game: what a script
notes and places, a call that is noted, animations that move on, a sound that is played, a wish that
a witness takes, and a change of scenes. -/
structure Passes [Host α] (R : World α → World α → Prop) : Prop where
  places (n : Nat) : Places n R
  call (c : Call α) : (onDevice (Device.call c)).Moves R
  advance (n : Nat) (dt : α) : (World.advance n dt).Moves R
  sound (key volume : Value α) : (onDepot (Depot.playSound key volume)).Moves R
  wish {n : Nat} {w : World α} {s : Scene α} {r : Witness} (hs : w.scenes[n]? = some s)
    (hr : s.role = .witness r) : R w ((nextWish n r).after w)
  change (next : Option Nat) : (changeScene next).Moves R

/-- The relation holds across what happens in an update, and across what the input takes in. -/
structure Carries [Host α] (R : World α → World α → Prop) : Prop extends Passes R where
  input (w : World α) (input : Input α) : R w { w with input }

/-- The relation holds across what the scenes do in a run: what a scene works with, a sound that is
played, a wish that a witness takes, a move of the pointer, and a change of scenes. -/
structure Covers [Host α] (R : World α → World α → Prop) : Prop where
  tools (n : Nat) : Tools n R
  sound (key volume : Value α) : (onDepot (Depot.playSound key volume)).Moves R
  wish {n : Nat} {w : World α} {s : Scene α} {r : Witness} (hs : w.scenes[n]? = some s)
    (hr : s.role = .witness r) : R w ((nextWish n r).after w)
  input (w : World α) (input : Input α) : R w { w with input }
  change (next : Option Nat) : (changeScene next).Moves R

/-- The relation holds across everything that a run is made of, so also when a scene is registered
under a name. -/
structure Spans [Host α] (R : World α → World α → Prop) : Prop extends Covers R where
  register (name : String) (n : Nat) : (register name n).Moves R

variable {R : World α → World α → Prop}

/-- It is enough to look at a scene's own work, at what happens outside of the scenes, and at a
change of scenes. -/
theorem Spans.of_own [Host α] (own : ∀ {n w v}, w.OwnWork n v → R w v)
    (outside : ∀ {w v}, w.Outside v → R w v) (change : ∀ next, (changeScene next).Moves R) :
    Spans R where
  tools n := (tools_ownWork n).mono fun _ _ => own
  sound _ _ := (moves_onDepot _).mono fun _ _ h => outside h.outside
  wish hs hr := own (ownWork_nextWish hs hr)
  input _ _ := outside ⟨rfl, rfl, rfl, rfl, rfl⟩
  register _ _ := moves_modify fun _ => outside ⟨rfl, rfl, rfl, rfl, rfl⟩
  change := change

/-- Noticing spans a run. -/
theorem spans_notices [Host α] (n : Nat) : Spans (α := α) (Notices n) :=
  .of_own (fun h => h.notices)
    (fun h => ⟨.of_eq h.missing h.scenes h.entities, fun hw => Or.inl (h.current.trans hw)⟩)
    (moves_changeScene n)

/-- So does ageing, which is a part of noticing. -/
theorem spans_ages [Host α] : Spans (α := α) Ages :=
  .of_own (fun h => h.toAges) (fun h => .of_eq h.missing h.scenes h.entities)
    fun next => (moves_changeScene 0 next).mono fun _ _ h => h.ages

variable [IsPreorder (World α) R]

/-- A relation with all tools has what the acts of a scene need. -/
theorem Covers.carries [Host α] (h : Covers R) : Carries R where
  places n := (h.tools n).places
  call _ := (h.tools 0).device _
  advance n dt := (h.tools n).advance dt
  sound := h.sound
  wish := h.wish
  input := h.input
  change := h.change

/-- A relation with all tools holds of a step of a game. -/
theorem Covers.step [Host α] (h : Covers R) (n : Nat) (dt : α) : (stepPong n dt).Moves R :=
  (h.tools n).strokes.stepPong dt

/-- A change by name is a look-up and a change, or a look-up alone. -/
theorem moves_switchTo [Host α] (h : Passes R) (name : Value α) : (switchTo name).Moves R := by
  unfold switchTo
  refine moves_bind (moves_registered? name).of_eq fun next => ?_
  split
  · exact h.change _
  · exact moves_bind (moves_ofExcept _) fun _ => (h.places 0).liftLog _

/-- A scene that asks for another one asks the engine for it. -/
theorem moves_switchScene [Host α] (h : Passes R) (n : Nat) (name : Value α) :
    (switchScene n name).Moves R := by
  unfold switchScene
  exact moves_bind (moves_reaches n _).of_eq fun _ =>
    moves_ite (moves_switchTo h name) (moves_bind (moves_ofExcept _) fun _ => (h.places n).sayFor _)

/-- An action is one of a few acts, by its kind; a kind without an act is nothing. -/
theorem moves_perform [Host α] (h : Passes R) (n : Nat) (action : ActionSpec α) :
    (perform n action).Moves R := by
  unfold perform
  refine moves_bind ((h.places n).sayFor _) fun _ => ?_
  split
  · exact moves_ite (moves_switchScene h n _) (moves_pure _)
  · exact moves_ite ((h.places n).switchToState _) (moves_pure _)
  · refine moves_ite (moves_bind (moves_reaches n _).of_eq fun _ => moves_ite ?_ (moves_pure _))
      (moves_pure _)
    exact moves_bind (h.sound _ _) fun _ => moves_pure _
  · refine moves_bind (moves_scriptAt n).of_eq fun c => moves_ite ?_
      (moves_bind (moves_ofExcept _) fun _ => (h.places n).sayFor _)
    unfold answerCustom
    refine moves_bind (h.call _) fun _ => ?_
    split
    · exact (h.places n).switchToState _
    · exact moves_pure _

/-- To offer a press to a button is to perform its action, if it has one and was hit. -/
theorem moves_click [Host α] (h : Passes R) (n e : Nat) (x y : α) : (click n e x y).Moves R := by
  unfold click
  refine moves_bind (moves_entityAt e).of_eq fun entity => moves_bind (moves_ofExcept _) fun a => ?_
  split
  · exact moves_perform h n _
  · exact moves_pure _

/-- By induction on the list of buttons. -/
theorem moves_clickAll [Host α] (h : Passes R) (n : Nat) (x y : α) (activations : Nat) :
    ∀ es : List Nat, (clickAll n x y activations es).Moves R
  | [] => moves_pure _
  | e :: es =>
    moves_bind (moves_click h n e x y) fun _ => moves_bind (moves_scriptAt n).of_eq fun _ =>
      moves_ite (moves_pure _) (moves_clickAll h n x y activations es)

/-- A transition goes to a state or to a scene, or is not yet due. -/
theorem moves_followIfDue [Host α] (h : Passes R) (n : Nat) (state : StateSpec α) :
    (followIfDue n state).Moves R := by
  unfold followIfDue
  split
  · next t _ =>
    cases t.kind
    refine moves_bind (moves_scriptAt n).of_eq fun c => moves_ite ?_ (moves_pure _)
    refine moves_ite (moves_switchScene h n _) (moves_ite ?_ (moves_pure _))
    exact (h.places n).switchToState _
  · exact moves_pure _

/-- A press is offered to the buttons if there is one. -/
theorem moves_dispatch [Host α] (h : Passes R) (n : Nat) :
    (dispatch n : Act (World α) Bool).Moves R := by
  unfold dispatch
  refine moves_bind (moves_freshPress? n).of_eq fun p => ?_
  split
  · exact moves_pure _
  · exact moves_bind (moves_scriptAt n).of_eq fun c => moves_clickAll h n _ _ _ _

/-- A scripted scene lets time pass, then answers the press, and looks whether its state is over
only if the press has activated nothing. -/
theorem moves_updateScript [Host α] (h : Passes R) (n : Nat) (dt : α) :
    (updateScript n dt).Moves R := by
  unfold updateScript
  refine moves_bind (moves_scriptAt n).of_eq fun c => ?_
  split
  · exact moves_pure _
  · refine moves_bind (h.advance n dt) fun _ => ?_
    exact moves_bind (moves_dispatch h n) fun _ =>
      moves_ite (moves_followIfDue h n _) (moves_pure _)

/-- A game looks for the way out, then plays one step. -/
theorem moves_updatePong [Host α] (h : Passes R) {n : Nat} {dt : α}
    (hstep : (stepPong n dt).Moves R) :
    (updatePong n dt).Moves R := by
  unfold updatePong
  refine moves_bind moves_get fun w => moves_bind (moves_reaches n _).of_eq fun _ => moves_ite ?_ ?_
  · exact moves_bind (moves_pongAt n).of_eq fun p => moves_switchScene h n _
  · exact hstep

/-- A wish is to stay, or a change of scenes by name or by number. -/
theorem moves_grant [Host α] (h : Passes R) (wish : Wish) :
    (grant wish : Act (World α) Unit).Moves R := by
  cases wish with
  | stay => exact moves_pure _
  | switchTo name => exact moves_switchTo h _
  | change scene => exact h.change scene

/-- A witness is still the same one when it takes its wish. -/
theorem moved_updateWitness [Host α] (h : Passes R) {n : Nat} {r : Witness} {w : World α}
    {s : Scene α}
    (hs : w.scenes[n]? = some s) (hr : s.role = .witness r) (dt : α) :
    R w ((updateWitness n r dt).after w) := by
  have hnote : R w ((witness n .update false (some dt)).after w) :=
    moves_witness_of h.call n _ _ _ w
  have hoff : w.OffDepot ((witness n .update false (some dt)).after w) := moves_witness n _ _ _ w
  unfold updateWitness
  refine after_bind_cases hnote fun _ t hrun => ?_
  rw [after_eq_of_run hrun] at hnote hoff
  have hs' : t.scenes[n]? = some s := by rw [hoff.outside.scenes, hs]
  have hnext : R w ((nextWish n r).after t) := Trans.trans hnote (h.wish hs' hr)
  refine after_bind_cases hnext fun wish v hwish => ?_
  rw [after_eq_of_run hwish] at hnext
  exact Trans.trans hnext (moves_grant h wish v)

/-- Of the updates only that of a game takes a step of it. -/
theorem moves_callUpdate [Host α] (h : Passes R) {n : Nat} {dt : α}
    (hstep : (stepPong n dt).Moves R) :
    (callUpdate n dt).Moves R := by
  intro w
  unfold callUpdate
  cases hs : w.scenes[n]? with
  | none =>
    rw [after_bind_of_error (by rw [run_sceneAt, hs])]
    exact refl w
  | some s =>
    rw [after_bind_of_ok (by rw [run_sceneAt, hs])]
    cases hr : s.role with
    | witness r => exact moved_updateWitness h hs hr dt
    | plain => exact refl w
    | scripted c => exact moves_updateScript h n dt w
    | pong p => exact moves_updatePong h hstep w

omit [Scalar α] in
/-- What is asked of the current scene, if there is one. -/
theorem moves_ofCurrent {f : Nat → Act (World α) Unit} (hf : ∀ n, (f n).Moves R) :
    (do match (← get).current with
      | some n => f n
      | none => pure () : Act (World α) Unit).Moves R := by
  refine moves_bind moves_get fun w => ?_
  split
  · exact hf _
  · exact moves_pure _

omit [IsPreorder (World α) R] in
/-- The input is changed as a whole. -/
theorem moves_modifyInput [Host α] (h : Carries R) (f : Input α → Input α) :
    (modify fun w : World α => { w with input := f w.input } : Act (World α) PUnit).Moves R :=
  moves_modify fun w => h.input w _

/-- By induction on the events; one that asks to stop ends the list. -/
theorem moves_handleEvents [Host α] (h : Carries R) :
    ∀ events : List (Event α), (handleEvents events).Moves R
  | [] => moves_pure _
  | e :: rest => by
    unfold handleEvents
    split
    · exact moves_pure _
    · exact moves_pure _
    · next e' rest' _ heq =>
      cases heq
      refine moves_bind (moves_requirePart _).of_eq fun _ => ?_
      refine moves_bind (moves_modifyInput h (·.handle e)) fun _ => ?_
      refine moves_bind (moves_requirePart _).of_eq fun _ => moves_bind ?_ fun _ => ?_
      · exact moves_ofCurrent fun n => moves_ifHas (moves_callEvent_of h.call n) n _
      · exact moves_handleEvents h rest

/-- A frame lets the current scene update, then forgets the fresh press. -/
theorem moves_tick [Host α] (h : Carries R) (hstep : ∀ n dt, (stepPong n dt).Moves R) (dt : α) :
    (tick dt).Moves R := by
  unfold tick
  refine moves_bind (moves_requirePart _).of_eq fun _ => moves_bind ?_ fun _ => ?_
  · exact moves_ofCurrent fun n => moves_ifHas (moves_callUpdate h.toPasses (hstep n _)) n _
  · exact moves_bind (moves_requirePart _).of_eq fun _ => moves_modifyInput h (·.endFrame)

/-- **Whatever holds across the works of the scenes and across their changes holds across every
operation.** -/
theorem moves_act [Host α] (h : Spans R) (o : Operation α) : o.act.Moves R := by
  cases o with
  | register name n => exact h.register name n
  | switchTo name => exact moves_switchTo h.carries.toPasses name
  | change next => exact h.change next
  | switchState name =>
    exact moves_ofCurrent fun n => (h.tools n).places.switchToState name
  | events es => exact moves_bind (moves_handleEvents h.carries es) fun _ => moves_pure _
  | pass dt => exact moves_tick h.carries h.step dt

/-- Whatever holds across every operation holds across a whole run. -/
theorem moved_play [Host α] (h : Spans R) : ∀ (os : List (Operation α)) (w : World α), R w
    (play os w)
  | [], w => refl w
  | o :: os, w => Trans.trans (moves_act h o w) (moved_play h os (o.act.after w))

/-- Through every run the scenes keep their names, documents and hooks, and the buttons stay the
same buttons. -/
theorem ages_play [Host α] (os : List (Operation α)) (w : World α) : w.Ages (play os w) :=
  moved_play spans_ages os w

end Spans

end World

end Diorama
