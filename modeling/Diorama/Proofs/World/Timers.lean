/-
# Timers

What a scripted scene does by its timer is what its clock says.  In an update the clock goes on
first, whatever else happens.  Then, unless a press has activated something, the transition of the
state is followed if the time since the activation has reached its duration, and otherwise nothing
is done (`UpdatesBy`).  Following a transition leads to the scene that it names, or if it names
none to the state, and the clock starts there; a name that is not found leads nowhere, and the
clock goes on (`Leads`).

`RunsBy` is the state machine over a whole run: the clock takes the times of the frames, and starts
anew exactly where the scene has counted an activation.  Every run is such a run, up to its end or
to a change of scenes.

With exact numbers no update ends in its animations with a fault, and what has passed is the sum of
the times (`states_by_the_clock`).
-/
import Diorama.Proofs.Animating
import Diorama.Proofs.World.Clock
import Mathlib.Algebra.Order.BigOperators.Group.List

namespace Diorama

open Act

variable {α : Type}

/-! ## 1. Transitions

A transition leads to a scene, to a state or nowhere (`Goal`), which can be told from the world
before it.  The scene comes first: a state is only looked for if no scene is named. -/

/-- Where a transition leads. -/
inductive Goal where
  | nowhere
  | state (index : Nat)
  | scene (number : Nat)

namespace World

section Transitions

variable [Scalar α] [Host α]

/-- The scene that the scene `n` finds under a name; without a director it finds none. -/
def sceneOf? (w : World α) (n : Nat) (name : Value α) : Option Nat :=
  if w.scenes[n]?.any (·.bound) && w.hasPart .director then
    match name.nameKey with
    | .ok key => key.bind fun key => w.registry.lookup key
    | .error _ => none
  else none

/-- Where a transition of the scene `n` leads: the state counts only if no scene is named. -/
def goal (w : World α) (n : Nat) (c : Script α) (t : TransitionSpec α) : Goal :=
  if t.nextScene.truthy then (w.sceneOf? n t.nextScene).elim .nowhere .scene
  else if t.nextState.truthy then (c.stateOf? t.nextState).elim .nowhere .state
  else .nowhere

/-- What it comes to when an act of the scene `n` leads to a goal: the clock starts in the state,
however its activation ends; to a scene it is a change of scenes; nowhere at most the depot
changes. -/
def Leads (n : Nat) (w : World α) (x : Act (World α) Unit) : Goal → Prop
  | .nowhere => w.OffDepot (x.after w)
  | .state i => (x.after w).GoesBy n ⟨i, []⟩ ∧ w.Counts n (x.after w)
  | .scene m => x.run w = (changeScene (some m)).run w

variable {n : Nat} {k : Clock α} {w : World α} {c : Script α}

theorem Leads.of_run {x y : Act (World α) Unit} {g : Goal} (h : w.Leads n y g)
    (hxy : x.run w = y.run w) : w.Leads n x g := by
  unfold Leads after at *
  rw [hxy]
  exact h

theorem leads_switchToState (hn : w.current = some n) (hc : w.script? n = some c)
    (name : Value α) :
    w.Leads n (switchToState n name) ((c.stateOf? name).elim .nowhere .state) := by
  cases hi : c.stateOf? name with
  | none =>
    obtain ⟨_, v, hrun, hv, -⟩ := run_switchToState_of_unknown hc hi
    change w.OffDepot _
    rw [after_eq_of_run hrun]
    exact hv
  | some i => exact goesBy_switchToState hn hc hi

/-- Where a switch to a name leads is read off the registry: to the scene that is registered under
it, or nowhere. -/
theorem leads_switchTo (name : Value α) : w.Leads n (switchTo name) ((match name.nameKey with
    | .ok key => key.bind fun key => w.registry.lookup key
    | .error _ => none).elim .nowhere .scene) := by
  have hrun := run_registered? w name
  unfold switchTo
  cases hkey : name.nameKey with
  | error e =>
    rw [hkey] at hrun
    change w.OffDepot _
    rw [after_bind_of_error hrun]
    rfl
  | ok key =>
    rw [hkey] at hrun
    dsimp only at hrun ⊢
    cases hfind : key.bind fun key => w.registry.lookup key with
    | none =>
      rw [hfind] at hrun
      change w.OffDepot _
      rw [after_bind_of_ok hrun]
      exact moves_bind (moves_ofExcept _) (fun _ => moves_liftLog _) w
    | some m =>
      rw [hfind] at hrun
      exact run_bind_of_ok hrun

theorem leads_switchScene (hc : w.script? n = some c) (name : Value α) :
    w.Leads n (switchScene n name) ((w.sceneOf? n name).elim .nowhere .scene) := by
  obtain ⟨s, hs, -⟩ := script?_eq_some.1 hc
  have hreach : (reaches n .director).run w = (.ok (s.bound && w.hasPart .director), w) := by
    rw [run_reaches, hs]
  unfold sceneOf?
  rw [hs, Option.any_some]
  split
  · next hdirector =>
    rw [hdirector] at hreach
    exact (leads_switchTo name).of_run (run_bind_of_ok hreach)
  · next hdirector =>
    rw [Bool.not_eq_true] at hdirector
    rw [hdirector] at hreach
    change w.OffDepot _
    unfold switchScene
    rw [after_bind_of_ok hreach]
    exact moves_bind (moves_ofExcept _) (fun _ => moves_sayFor n _) w

/-- **Following a transition leads where it says.** -/
theorem leads_follow (hn : w.current = some n) (hc : w.script? n = some c) (t : TransitionSpec α) :
    w.Leads n (follow n t) (w.goal n c t) := by
  unfold follow goal
  split
  · exact leads_switchScene hc _
  · split
    · exact leads_switchToState hn hc _
    · exact (rfl : w.OffDepot w)

/-! ## 2. Updates

One update of a scene that goes by a clock, in the order in which it happens: time, press,
transition. -/

/-- The transition of a state is followed if it is due by the clock. -/
theorem run_followIfDue (hw : w.GoesBy n k) (state : StateSpec α) :
    (followIfDue n state).run w = match state.transition with
      | some t => if Scalar.le t.duration k.elapsed then (follow n t).run w else (.ok (), w)
      | none => (.ok (), w) := by
  obtain ⟨c, hc, hk⟩ := hw.script
  unfold followIfDue
  cases state.transition with
  | none => rfl
  | some t =>
    obtain ⟨kind, duration, nextState, nextScene⟩ := t
    cases kind
    dsimp only
    rw [run_bind_of_ok (by rw [run_scriptAt, hc]), hk.timer]
    split <;> rfl

omit [Host α] in
/-- When time passes, the clock takes it. -/
theorem GoesBy.advance (hw : w.GoesBy n k) (dt : α) :
    ((advance n dt).after w).GoesBy n (k.pass dt) ∧
      w.SameCount n ((World.advance n dt).after w) := by
  obtain ⟨c, hc, hk⟩ := hw.script
  have hscript := script?_advance n dt hc
  refine ⟨⟨(moves_advance n dt w).current.trans hw.current, _, hscript, hk.index, ?_, hk.state⟩, ?_⟩
  · rw [Clock.elapsed_pass, ← hk.timer]
  · unfold SameCount
    rw [hscript, hc]
    rfl

/-- An update of the scene `n`, which goes by a clock in `state`. -/
structure UpdatesBy (n : Nat) (k : Clock α) (dt : α) (state : StateSpec α) (w : World α) :
    Prop where
  /-- Time passes without a fault. -/
  passes : (advance n dt).run w = (.ok (), (advance n dt).after w)
  counts : ((advance n dt).after w).GoesBy n (k.pass dt)
  /-- If a press has activated something, the update ends with it. -/
  pressed : ∀ v, (dispatch n).run ((advance n dt).after w) = (.ok true, v) →
    (updateScript n dt).run w = (.ok (), v) ∧ ((advance n dt).after w).Restarts n v
  /-- A fault in what a press asks for is one of the update. -/
  stopped : ∀ e v, (dispatch n).run ((advance n dt).after w) = (.error e, v) →
    (updateScript n dt).run w = (.error e, v) ∧ ((advance n dt).after w).Ends n v
  /-- Otherwise the clock is not touched. -/
  unpressed : ∀ v, (dispatch n).run ((advance n dt).after w) = (.ok false, v) →
    ((advance n dt).after w).OffDepot v ∧ v.GoesBy n (k.pass dt)
  /-- Before a transition is due nothing is done. -/
  waits : ∀ v, (dispatch n).run ((advance n dt).after w) = (.ok false, v) →
    (∀ t, state.transition = some t → ¬ (k.pass dt).Due t) → (updateScript n dt).run w = (.ok (), v)
  /-- A transition that is due is followed once, and that is all. -/
  fires : ∀ v t, (dispatch n).run ((advance n dt).after w) = (.ok false, v) →
    state.transition = some t → (k.pass dt).Due t → (updateScript n dt).run w = (follow n t).run v

variable {dt : α} {state : StateSpec α}

/-- After the time has passed, a press is answered, and then the timer is looked at. -/
theorem run_updateScript (hw : w.GoesBy n k) (hc : w.script? n = some c)
    (hstate : c.states[k.index]? = some state)
    (hpasses : (advance n dt).run w = (.ok (), (advance n dt).after w)) :
    (updateScript n dt).run w =
      (do if !(← dispatch n) then followIfDue n state).run ((advance n dt).after w) := by
  have hk := hw.script_of hc
  unfold updateScript
  rw [run_bind_of_ok (by rw [run_scriptAt, hc]), Script.state?, hk.index, hstate]
  dsimp only
  rw [run_bind_of_ok hpasses]

/-- An update of a scene that goes by a clock, in all its cases: the clock has passed, and the
press and the transition decide what comes next.

The field that applies is found from the answer of `dispatch`, and, where that is `false`, from
whether the timer is due. -/
theorem updatesBy (hw : w.GoesBy n k) (hc : w.script? n = some c)
    (hstate : c.states[k.index]? = some state)
    (hpasses : (advance n dt).run w = (.ok (), (advance n dt).after w)) :
    w.UpdatesBy n k dt state := by
  have hrun := run_updateScript hw hc hstate hpasses
  obtain ⟨hon, -⟩ := hw.advance dt
  have hheard {r : Except Fault Bool} {v : World α}
      (hv : (dispatch n).run ((advance n dt).after w) = (r, v)) :
      ((advance n dt).after w).Heard n r v := by
    have h := heard_dispatch hon
    rw [after_eq_of_run hv, hv] at h
    exact h
  have hidle {v : World α} (hv : (dispatch n).run ((advance n dt).after w) = (.ok false, v)) :
      v.GoesBy n (k.pass dt) ∧ (updateScript n dt).run w = (followIfDue n state).run v :=
    ⟨hon.offDepot (hheard hv), hrun.trans (run_bind_of_ok hv)⟩
  refine ⟨hpasses, hon, fun v hv => ?_, fun e v hv => ?_, fun v hv => ?_, fun v hv hnot => ?_,
    fun v t hv ht hdue => ?_⟩
  · exact ⟨hrun.trans (run_bind_of_ok hv), hheard hv⟩
  · exact ⟨hrun.trans (run_bind_of_error hv), hheard hv⟩
  · exact ⟨hheard hv, (hidle hv).1⟩
  · obtain ⟨hv', hupdate⟩ := hidle hv
    rw [hupdate, run_followIfDue hv']
    split
    · next t ht => exact if_neg (hnot t ht)
    · rfl
  · obtain ⟨hv', hupdate⟩ := hidle hv
    rw [hupdate, run_followIfDue hv', ht]
    exact if_pos hdue

/-- An update ends with the time that has passed, or with an activation.  One case for each answer
of the press; without an activation the timer decides, and following it is an activation or
nothing. -/
theorem UpdatesBy.ends (h : w.UpdatesBy n k dt state) :
    ((advance n dt).after w).Ends n ((updateScript n dt).after w) := by
  cases hr : (dispatch n).run ((advance n dt).after w) with
  | mk r v =>
    match r with
    | .error e =>
      obtain ⟨hrun, hends⟩ := h.stopped e v hr
      exact after_eq_of_run hrun ▸ hends
    | .ok true =>
      obtain ⟨hrun, hact⟩ := h.pressed v hr
      exact after_eq_of_run hrun ▸ Or.inr hact
    | .ok false =>
      obtain ⟨hoff, hv⟩ := h.unpressed v hr
      by_cases hdue : ∃ t, state.transition = some t ∧ (k.pass dt).Due t
      · obtain ⟨t, ht, hdue⟩ := hdue
        have hrun : (updateScript n dt).after w = (follow n t).after v :=
          congrArg Prod.snd (h.fires v t hr ht hdue)
        exact hrun ▸ hoff.ends (heeds_follow t v _ hv)
      · have hwaits := h.waits v hr fun t ht hd => hdue ⟨t, ht, hd⟩
        exact Or.inl (after_eq_of_run hwaits ▸ hoff)

/-! ## 3. Deeds

The same for everything that can be asked of the world while the scene is the current one. -/

/-- What a deed does in a run of the scene `n`. -/
def Deed.act (n : Nat) : Deed α → Act (World α) Unit
  | .operate o => o.act
  | .update dt => updateScript n dt

/-- The world after some deeds, whether or not they end with a fault. -/
def playDeeds (n : Nat) : List (Deed α) → World α → World α
  | [], w => w
  | d :: ds, w => playDeeds n ds ((d.act n).after w)

theorem ages_deed (n : Nat) (d : Deed α) (w : World α) : w.Ages ((d.act n).after w) := by
  cases d with
  | operate o => exact moves_act spans_ages o w
  | update dt => exact moves_updateScript spans_ages.carries.toPasses n dt w

theorem hasPart_deed (n : Nat) (d : Deed α) (w : World α) (p : Part) :
    ((d.act n).after w).hasPart p = w.hasPart p := by
  unfold hasPart
  rw [(ages_deed n d w).missing]

omit [Scalar α] [Host α] in
/-- Frames are passed on by a part of the engine; an update of the scene alone needs none. -/
def Directed (w : World α) (ds : List (Deed α)) : Prop :=
  ∀ dt, .operate (.pass dt) ∈ ds → w.hasPart .director = true

theorem Directed.tail {d : Deed α} {ds : List (Deed α)} (h : w.Directed (d :: ds)) :
    ((d.act n).after w).Directed ds := fun dt hdt =>
  (hasPart_deed n d w .director).trans (h dt (List.mem_cons_of_mem d hdt))

/-- A frame is an update with the time that counts, and then the end of the frame. -/
theorem outside_tick (hw : w.GoesBy n k) (hdirector : w.hasPart .director = true) (dt : α) :
    ((updateScript n (Scalar.min dt longestFrame)).after w).Outside ((tick dt).after w) := by
  obtain ⟨c, hc, -⟩ := hw.script
  obtain ⟨s, hs, hr⟩ := script?_eq_some.1 hc
  have hupdate : (update (Scalar.min dt longestFrame)).run w =
      (updateScript n (Scalar.min dt longestFrame)).run w := by
    unfold update
    rw [run_bind_of_ok (run_get w), hw.current]
    dsimp only
    rw [run_ifHas hc]
    unfold callUpdate
    rw [run_bind_of_ok (by rw [run_sceneAt, hs]), hr]
  unfold tick
  rw [after_bind_of_ok (by rw [run_requirePart, if_pos hdirector]), after, ← hupdate]
  refine after_bind_cases (refl _) fun _ t ht => ?_
  rw [ht]
  exact moves_bind (moves_requirePart _).of_eq
    (fun _ => moves_modify fun _ => ⟨rfl, rfl, rfl, rfl, rfl⟩) t

/-- What takes time is an update with the time that counts. -/
theorem outside_deed (hw : w.GoesBy n k) {d : Deed α} {ds : List (Deed α)}
    (hdirected : w.Directed (d :: ds)) (hd : d.time? = some dt) :
    ((updateScript n dt).after w).Outside ((d.act n).after w) := by
  match d with
  | .operate (.pass dt') =>
    obtain rfl := Option.some.inj hd
    exact outside_tick hw (hdirected dt' List.mem_cons_self) dt'
  | .update dt' =>
    obtain rfl := Option.some.inj hd
    exact refl _

omit [Host α] in
/-- Only witnesses look at events, and what they note is in the depot. -/
theorem moves_handleEvents_outside :
    ∀ events : List (Event α), (handleEvents events).Moves Outside
  | [] => moves_pure _
  | e :: rest => by
    unfold handleEvents
    split
    · exact moves_pure _
    · exact moves_pure _
    · next e' rest' _ heq =>
      cases heq
      refine moves_bind (moves_requirePart _).of_eq fun _ => ?_
      refine moves_bind (moves_modify fun _ => ⟨rfl, rfl, rfl, rfl, rfl⟩) fun _ => ?_
      refine moves_bind (moves_requirePart _).of_eq fun _ => moves_bind ?_ fun _ => ?_
      · exact moves_ofCurrent fun n =>
          moves_ifHas ((moves_callEvent n).mono fun _ _ h => h.outside) n _
      · exact moves_handleEvents_outside rest

/-- What takes no time leaves the scene alone, or activates something. -/
theorem outside_or_restarts (hw : w.GoesBy n k) {d : Deed α} (hd : d.time? = none) :
    w.Outside ((d.act n).after w) ∨ w.Restarts n ((d.act n).after w) := by
  have hends {x : Act (World α) Unit} (hx : Heeds n x) :
      w.Outside (x.after w) ∨ w.Restarts n (x.after w) := (hx w k hw).imp_left fun h => h.outside
  match d with
  | .operate (.register name m) => exact Or.inl ⟨rfl, rfl, rfl, rfl, rfl⟩
  | .operate (.switchTo name) => exact hends (heeds_switchTo name)
  | .operate (.change next) => exact hends (heeds_changeScene next)
  | .operate (.switchState name) =>
    have hact : ((Deed.operate (.switchState name)).act n).after w =
        (switchToState n name).after w := by
      unfold Deed.act Operation.act
      rw [after_bind_of_ok (run_get w), hw.current]
    rw [hact]
    exact hends (heeds_switchToState name)
  | .operate (.events es) =>
    exact Or.inl (moves_bind (moves_handleEvents_outside es) (fun _ => moves_pure _) w)

/-! ## 4. Runs

By induction on the deeds: as long as the scene is not left there is a clock that it goes by, and
each deed is a tick of it. -/

/-- What the clock of the scene `n` takes of a deed: its time, unless something was activated, which
the scene has counted. -/
inductive Ticks (n : Nat) (w v : World α) (k : Clock α) (d : Deed α) : Clock α → Prop where
  | passed {dt : α} (hd : d.time? = some dt) (h : w.SameCount n v) : Ticks n w v k d (k.pass dt)
  | kept (hd : d.time? = none) (h : w.SameCount n v) : Ticks n w v k d k
  | restarted (i : Nat) (h : w.Counts n v) : Ticks n w v k d ⟨i, []⟩

/-- The scene `n` goes by its clock through a whole run, from one reading to another. -/
def RunsBy (n : Nat) : List (Deed α) → World α → Clock α → Clock α → Prop
  | [], w, k, k' => w.GoesBy n k ∧ k' = k
  | d :: ds, w, k, k' => w.GoesBy n k ∧
      ∃ k₁, Ticks n w ((d.act n).after w) k d k₁ ∧ RunsBy n ds ((d.act n).after w) k₁ k'

/-- A deed leads to a change of scenes. -/
def LeavesBy (n : Nat) (w : World α) (d : Deed α) : Prop :=
  match d.time? with
  | some dt => ∃ v, ((advance n dt).after w).Leaves v ∧ v.Outside ((d.act n).after w)
  | none => w.Leaves ((d.act n).after w)

omit [Scalar α] [Host α] in
theorem SameCount.counts {u v w : World α} (h : u.SameCount n v) (hw : v.Counts n w) :
    u.Counts n w := by
  intro c hc
  unfold SameCount at h
  rw [hc, Option.map_some] at h
  obtain ⟨d, hd, hdc⟩ := Option.map_eq_some_iff.1 h
  obtain ⟨e, he, hlt⟩ := hw d hd
  exact ⟨e, he, hdc ▸ hlt⟩

omit [Scalar α] [Host α] in
theorem Counts.outside {u v w : World α} (h : u.Counts n v) (hw : v.Outside w) : u.Counts n w :=
  h.ages (.of_eq hw.missing hw.scenes hw.entities)

/-- The animations of the scene `n` never end with a fault. -/
def CanPass (n : Nat) : Prop := ∀ (w : World α) (c : Script α) (dt : α), w.script? n = some c →
  (advance n dt).run w = (.ok (), (advance n dt).after w)

/-- **One deed is one step of the clock**, or a change of scenes.  A deed without time keeps the
clock or starts a new state; one with time passes first, and then the same may happen. -/
theorem ticks_deed (hpasses : CanPass (α := α) n) (hw : w.GoesBy n k)
    {d : Deed α} {ds : List (Deed α)} (hdirected : w.Directed (d :: ds)) :
    w.LeavesBy n d ∨ ∃ k₁, ((d.act n).after w).GoesBy n k₁ ∧
      Ticks n w ((d.act n).after w) k d k₁ := by
  unfold LeavesBy
  cases hd : d.time? with
  | none =>
    rcases outside_or_restarts hw hd with hout | ⟨hcount, ⟨i, hi⟩ | hleaves⟩
    · exact Or.inr ⟨k, hw.outside hout, .kept hd (hout.sameScripts.sameCount n)⟩
    · exact Or.inr ⟨_, hi, .restarted i hcount⟩
    · exact Or.inl hleaves
  | some dt =>
    obtain ⟨c, hc, hk⟩ := hw.script
    obtain ⟨state, hstate, -⟩ := hk.state
    have hout := outside_deed hw hdirected hd
    obtain ⟨hon, hsame⟩ := hw.advance dt
    rcases (updatesBy hw hc hstate (hpasses w c dt hc)).ends with
      hoff | ⟨hcount, ⟨i, hi⟩ | hleaves⟩
    · have hrest := Trans.trans hoff.outside hout
      exact Or.inr ⟨_, hon.outside hrest,
        .passed hd (Trans.trans hsame (hrest.sameScripts.sameCount n))⟩
    · exact Or.inr ⟨_, hi.outside hout, .restarted i (hsame.counts (hcount.outside hout))⟩
    · exact Or.inl ⟨_, hleaves, hout⟩

/-- **Every run is a run of the clock**, up to its end or to a change of scenes. -/
theorem exists_runs (hpasses : CanPass (α := α) n) : ∀ (ds : List (Deed α)) {w : World α}
    {k : Clock α}, w.GoesBy n k → w.Directed ds →
    (∃ k', (playDeeds n ds w).GoesBy n k' ∧ w.RunsBy n ds k k') ∨
    ∃ before d rest k', ds = before ++ d :: rest ∧ (playDeeds n before w).GoesBy n k' ∧
      w.RunsBy n before k k' ∧ (playDeeds n before w).LeavesBy n d
  | [], _, k, hw, _ => Or.inl ⟨k, hw, hw, rfl⟩
  | d :: ds, w, k, hw, hdirected => by
    rcases ticks_deed hpasses hw hdirected with hleaves | ⟨k₁, hk₁, htick⟩
    · exact Or.inr ⟨[], d, ds, k, rfl, hw, ⟨hw, rfl⟩, hleaves⟩
    · rcases exists_runs hpasses ds hk₁ hdirected.tail with
        ⟨k', hk', hruns⟩ | ⟨before, d', rest, k', rfl, hk', hruns, hleaves⟩
      · exact Or.inl ⟨k', hk', hw, k₁, htick, hruns⟩
      · exact Or.inr ⟨d :: before, d', rest, k', rfl, hk', ⟨hw, k₁, htick, hruns⟩, hleaves⟩

/-! ## 5. How long a state lasts

The number of frames that a state lasts is told from the times alone, if nothing but its timer
ends it. -/

/-- The times that count of a run. -/
def timesOf (ds : List (Deed α)) : List α := ds.filterMap Deed.time?

/-- In a deed nothing is activated, unless by a timer. -/
def Undisturbed (n : Nat) (w : World α) (d : Deed α) : Prop :=
  match d.time? with
  | some dt => ∃ v, (dispatch n).run ((advance n dt).after w) = (.ok false, v)
  | none => w.SameCount n ((d.act n).after w)

/-- In a whole run nothing is activated, unless by a timer. -/
def LeftAlone (n : Nat) : List (Deed α) → World α → Prop
  | [], _ => True
  | d :: ds, w => w.Undisturbed n d ∧ LeftAlone n ds ((d.act n).after w)

/-- Before the transition is due the clock goes on. -/
theorem goesBy_of_waits (hw : w.GoesBy n k) {d : Deed α} {ds : List (Deed α)}
    (hdirected : w.Directed (d :: ds)) (hd : d.time? = some dt)
    (hupdate : w.UpdatesBy n k dt state) (halone : w.Undisturbed n d)
    (hnot : ∀ t, state.transition = some t → ¬ (k.pass dt).Due t) :
    ((d.act n).after w).GoesBy n (k.pass dt) := by
  unfold Undisturbed at halone
  rw [hd] at halone
  obtain ⟨v, hv⟩ := halone
  have hout := outside_deed hw hdirected hd
  rw [after_eq_of_run (hupdate.waits v hv hnot)] at hout
  exact (hupdate.unpressed v hv).2.outside hout

/-- What takes no time and activates nothing leaves the clock alone. -/
theorem goesBy_of_time?_eq_none (hw : w.GoesBy n k) {d : Deed α} (hd : d.time? = none)
    (halone : w.Undisturbed n d) : ((d.act n).after w).GoesBy n k := by
  unfold Undisturbed at halone
  rw [hd] at halone
  rcases outside_or_restarts hw hd with hout | ⟨hcount, -⟩
  · exact hw.outside hout
  · obtain ⟨c, hc, -⟩ := hw.script
    obtain ⟨d, hd, hlt⟩ := hcount c hc
    unfold SameCount at halone
    rw [hc, hd] at halone
    exact absurd (Option.some.inj halone) (Nat.ne_of_gt hlt)

end Transitions

/-! ## 6. Exact numbers

With exact numbers the sum of the times does not depend on their order, and every animation can be
shown at every time; so the condition that time passes without a fault is met. -/

section Exact

variable [Host Rat] (sine : Rat → Rat) (radian : Rat)

omit [Host Rat] in
theorem elapsed_exact (k : Clock Rat) : letI := Scalar.exact sine radian
    k.elapsed = k.times.sum := by
  have hzero : (0.0 : Rat) = 0 := by norm_num
  change k.times.foldl (· + ·) (0.0 : Rat) = _
  rw [hzero, List.sum_eq_foldl]

omit [Host Rat] in
theorem due_exact (k : Clock Rat) (t : TransitionSpec Rat) : letI := Scalar.exact sine radian
    k.Due t ↔ t.duration ≤ k.times.sum := by
  rw [← elapsed_exact sine radian]
  exact decide_eq_true_iff

omit [Host Rat] in
theorem time?_pass_exact (dt : Rat) : letI := Scalar.exact sine radian
    (Deed.operate (.pass dt)).time? = some (min dt (1 / 10)) :=
  congrArg some (min_longestFrame_exact sine radian dt)

omit [Host Rat] in
theorem canPass_exact (n : Nat) : letI := Scalar.exact sine radian
    CanPass (α := Rat) n := by
  let _ := Scalar.exact sine radian
  intro w c dt hc
  refine Prod.ext ?_ rfl
  rw [run_advance n dt hc]
  exact Motions.stepAll_ok (fun m => m.exists_step sine radian dt) _ _

variable {sine radian}

omit [Host Rat] in
/-- No frame counts for more than a tenth of a second. -/
theorem sum_timesOf_le {ds : List (Deed Rat)} : letI := Scalar.exact sine radian
    (∀ dt, .update dt ∉ ds) → (timesOf ds).sum ≤ (timesOf ds).length / 10 := by
  let _ := Scalar.exact sine radian
  intro h
  have hle : ∀ t ∈ timesOf ds, t ≤ 1 / 10 := by
    intro t ht
    obtain ⟨d, hd, hdt⟩ := List.mem_filterMap.1 ht
    match d with
    | .update dt => exact (h dt hd).elim
    | .operate (.pass dt) =>
      rw [time?_pass_exact] at hdt
      obtain rfl := Option.some.inj hdt
      exact min_le_right _ _
  have hsum := List.sum_le_card_nsmul _ _ hle
  rw [nsmul_eq_mul] at hsum
  linarith

/-- Left alone, a state lasts as long as the times have not reached the duration of its timer.  By
induction on the deeds.  A deed without time leaves the clock alone, one with time passes it, and
the times that are still to come are not negative, so the timer is not due before the end. -/
theorem goesBy_playDeeds {n : Nat} : letI := Scalar.exact sine radian
    ∀ (ds : List (Deed Rat)) {k : Clock Rat} {w : World Rat} {c : Script Rat}
      {state : StateSpec Rat}, w.GoesBy n k → w.Directed ds →
      w.script? n = some c → c.states[k.index]? = some state → w.LeftAlone n ds →
      (∀ t ∈ timesOf ds, 0 ≤ t) →
      (∀ t, state.transition = some t → (k.times ++ timesOf ds).sum < t.duration) →
      (playDeeds n ds w).GoesBy n ⟨k.index, k.times ++ timesOf ds⟩ := by
  let _ := Scalar.exact sine radian
  intro ds
  induction ds with
  | nil =>
    intro k w c state hw _ _ _ _ _ _
    change w.GoesBy n ⟨k.index, k.times ++ []⟩
    rw [List.append_nil]
    exact hw
  | cons d ds ih =>
    intro k w c state hw hdirected hc hstate halone hpos hbefore
    obtain ⟨c', hc', hspec, -⟩ := (ages_deed n d w).script? hc
    have hdirected' := hdirected.tail (n := n)
    have hstate' : c'.states[k.index]? = some state := Script.states_eq hspec ▸ hstate
    cases hd : d.time? with
    | none =>
      have htimes : timesOf (d :: ds) = timesOf ds := List.filterMap_cons_none hd
      rw [htimes] at hpos hbefore ⊢
      exact ih (goesBy_of_time?_eq_none hw hd halone.1) hdirected' hc' hstate' halone.2 hpos hbefore
    | some dt =>
      have htimes : timesOf (d :: ds) = dt :: timesOf ds := List.filterMap_cons_some hd
      have happend : k.times ++ dt :: timesOf ds = (k.pass dt).times ++ timesOf ds :=
        List.append_cons _ _ _
      rw [htimes] at hpos
      rw [htimes, happend] at hbefore ⊢
      have hrest : 0 ≤ (timesOf ds).sum :=
        List.sum_nonneg fun t ht => hpos t (List.mem_cons_of_mem _ ht)
      have hnot (t : TransitionSpec Rat) (ht : state.transition = some t) :
          ¬ (k.pass dt).Due t := by
        have hlt := hbefore t ht
        rw [List.sum_append] at hlt
        rw [due_exact]
        linarith
      have hupdate := updatesBy hw hc hstate (canPass_exact sine radian n w c dt hc)
      exact ih (goesBy_of_waits hw hdirected hd hupdate halone.1 hnot) hdirected' hc' hstate'
        halone.2 (fun t ht => hpos t (List.mem_cons_of_mem _ ht)) hbefore

end Exact

/-- **A scripted scene is the state machine with a timer that its document describes.**  The numbers
are exact: what has passed is the sum of the times, and a frame counts for a tenth of a second at
most.  A scene with states that has moved in goes by a clock that starts in the first state.

Whenever a scene goes by a clock, it is in the state of the clock.  A switch to a name that it has
starts the clock in the first state of the name, and any other switch changes nothing but the depot,
and ends well unless its name is a number of too many digits to be reported.
An update does what the clock says, and a transition leads where it says.  Every run is a run of the
clock, up to a change of scenes; and a state that is left alone lasts as long as the times have not
reached the duration of its timer, so at least as many frames as there are tenths of a second in
it. -/
theorem states_by_the_clock [Host Rat] (sine : Rat → Rat) (radian : Rat) :
    letI := Scalar.exact sine radian
    (∀ (k : Clock Rat) (t : TransitionSpec Rat), k.elapsed = k.times.sum ∧
      (k.Due t ↔ t.duration ≤ k.times.sum)) ∧
    (∀ dt : Rat, (Deed.operate (.pass dt)).time? = some (min dt (1 / 10))) ∧
    (∀ {n : Nat} {w : World Rat} {c : Script Rat}, w.script? n = some c → c.states ≠ [] →
      (∀ t, (moveIn n).run w = (.ok (), t) →
        ((changeScene (some n)).after w).GoesBy n ⟨0, []⟩) ∧
      ∀ v, (changeScene (some n)).run w = (.ok (), v) → v.GoesBy n ⟨0, []⟩) ∧
    ∀ {n : Nat} {k : Clock Rat} {w : World Rat} {c : Script Rat}, w.GoesBy n k →
      w.script? n = some c →
      (∀ name,
        (∀ i, c.stateOf? name = some i → ((switchToState n name).after w).GoesBy n ⟨i, []⟩) ∧
        (c.stateOf? name = none → ∃ r v, (switchToState n name).run w = (r, v) ∧ w.OffDepot v ∧
          (name.writable = true → r = .ok ()))) ∧
      (∀ t, w.Leads n (follow n t) (w.goal n c t)) ∧
      ∃ state, c.states[k.index]? = some state ∧ (∀ dt, w.UpdatesBy n k dt state) ∧
        ∀ ds : List (Deed Rat), w.Directed ds →
          ((∃ k', (playDeeds n ds w).GoesBy n k' ∧ w.RunsBy n ds k k') ∨
            ∃ before d rest k', ds = before ++ d :: rest ∧
              (playDeeds n before w).GoesBy n k' ∧ w.RunsBy n before k k' ∧
              (playDeeds n before w).LeavesBy n d) ∧
          (w.LeftAlone n ds → (∀ t ∈ timesOf ds, 0 ≤ t) →
            (∀ t, state.transition = some t → (k.times ++ timesOf ds).sum < t.duration ∨
              (k.times = [] ∧ (∀ dt, .update dt ∉ ds) ∧
                (timesOf ds).length / 10 < t.duration)) →
            (playDeeds n ds w).GoesBy n ⟨k.index, k.times ++ timesOf ds⟩) := by
  let _ := Scalar.exact sine radian
  refine ⟨fun k t => ⟨elapsed_exact sine radian k, due_exact sine radian k t⟩,
    time?_pass_exact sine radian, fun {n w c} hc hstates => ⟨fun t => goesBy_changeScene hc hstates,
      fun v hv => ?_⟩, fun {n k w c} hw hc => ?_⟩
  · obtain ⟨t, hmove⟩ := exists_moveIn hc hv
    rw [← after_eq_of_run hv]
    exact goesBy_changeScene hc hstates hmove
  have hpasses := canPass_exact sine radian n
  obtain ⟨state, hstate, -⟩ := (hw.script_of hc).state
  refine ⟨fun name => ⟨fun i hi => (goesBy_switchToState hw.current hc hi).1,
      run_switchToState_of_unknown hc⟩, leads_follow hw.current hc, state, hstate,
    fun dt => updatesBy hw hc hstate (hpasses w c dt hc),
    fun ds hdirected => ⟨exists_runs hpasses ds hw hdirected, fun halone hpos hbefore => ?_⟩⟩
  refine goesBy_playDeeds ds hw hdirected hc hstate halone hpos fun t ht => ?_
  rcases hbefore t ht with hlt | ⟨hstart, hframes, hlt⟩
  · exact hlt
  · rw [hstart, List.nil_append]
    exact lt_of_le_of_lt (sum_timesOf_le hframes) hlt

/-! A signal is red for a quarter of a second.  Of its two green states only the first is found. -/

/-- A timer of a quarter of a second. -/
def quarter : TransitionSpec Rat where
  kind := .timer
  duration := 1 / 4
  nextState := .text "green"

def signal : SceneSpec Rat where
  name := "signal"
  states := [
    { name := "red", clears := true, transition := some quarter },
    { name := "green", layers := [("SHAPES", [[(.text "type", .text "shape")]])] },
    { name := "green", clears := true }]

/-- The signal has been entered. -/
def redSignal : World Rat := (changeScene (some 0)).after (playing signal)

/-- Two frames of a second. -/
def stalled : List (Deed Rat) := [.operate (.pass 1), .operate (.pass 1)]

/-- The document of a world with one scene stays the same. -/
theorem states_of_ages {spec : SceneSpec Rat} {w : World Rat} {c : Script Rat}
    (hw : (playing spec).Ages w) (hc : w.script? 0 = some c) : c.states = spec.states := by
  obtain ⟨d, hd, hspec, -⟩ := hw.script? (n := 0) rfl
  obtain rfl : c = d := Option.some.inj (hc.symm.trans hd)
  exact Script.states_eq hspec

/-- Two frames of a second are too short for the timer, and with a tenth of a second more it is
followed. -/
theorem states_by_the_clock_signal :
    redSignal.GoesBy 0 ⟨0, []⟩ ∧ (playDeeds 0 stalled redSignal).GoesBy 0 ⟨0, [1 / 10, 1 / 10]⟩ ∧
      ((updateScript 0 (1 / 10)).after (playDeeds 0 stalled redSignal)).GoesBy 0 ⟨1, []⟩ := by
  obtain ⟨htimes, -, henter, hclock⟩ := states_by_the_clock (fun x => x) 57
  have hmove := run_of_toOption (b := ()) (x := moveIn 0) (s := playing signal) (by decide +kernel)
  have hred : redSignal.GoesBy 0 ⟨0, []⟩ :=
    (henter (w := playing signal) (n := 0) rfl (List.cons_ne_nil _ _)).1 _ hmove
  have hages : (playing signal).Ages redSignal := (moves_changeScene 0 (some 0) _).ages
  obtain ⟨c, hc, -⟩ := hred.script
  obtain ⟨-, -, state, hstate, -, hrun⟩ := hclock hred hc
  rw [states_of_ages hages hc] at hstate
  cases hstate
  have hstalled := (hrun stalled fun _ _ => by decide +kernel).2
    ⟨⟨_, run_of_toOption (by decide +kernel)⟩, ⟨_, run_of_toOption (by decide +kernel)⟩, trivial⟩
    (by decide +kernel) fun t ht => by
      cases ht
      exact Or.inr ⟨rfl, by simp [stalled], by decide +kernel⟩
  have htimesOf : timesOf stalled = [1 / 10, 1 / 10] := by decide +kernel
  rw [htimesOf] at hstalled
  refine ⟨hred, hstalled, ?_⟩
  -- the update that fills the quarter
  generalize hw : playDeeds 0 stalled redSignal = w at *
  have hages : (playing signal).Ages w :=
    hw ▸ (hages.trans (ages_deed 0 _ _)).trans (ages_deed 0 _ _)
  obtain ⟨u, hidle⟩ : ∃ u, (dispatch 0).run ((advance 0 (1 / 10)).after w) = (.ok false, u) :=
    hw ▸ ⟨_, run_of_toOption (by decide +kernel)⟩
  obtain ⟨c, hc, -⟩ := hstalled.script
  obtain ⟨-, -, state, hstate, hupdate, -⟩ := hclock hstalled hc
  rw [states_of_ages hages hc] at hstate
  cases hstate
  have hfires := (hupdate (1 / 10)).fires u quarter hidle rfl ((htimes _ _).2.2 (by decide +kernel))
  obtain ⟨-, hdue⟩ := (hupdate (1 / 10)).unpressed u hidle
  -- the transition leads to the first green state
  have hages : (playing signal).Ages u := by
    rw [← after_eq_of_run hidle]
    exact (hages.trans (moves_advance 0 _ _).toAges).trans
      (moves_dispatch spans_ages.carries.toPasses 0 _)
  obtain ⟨c, hc, -⟩ := hdue.script
  have hgoal : u.goal 0 c quarter = .state 1 := by
    unfold goal Script.stateOf?
    rw [states_of_ages hages hc]
    rfl
  have hleads := (hclock hdue hc).2.1 quarter
  rw [hgoal] at hleads
  have hafter : (updateScript 0 (1 / 10)).after w = (follow 0 quarter).after u :=
    congrArg Prod.snd hfires
  rw [hafter]
  exact hleads.1

end World

end Diorama
