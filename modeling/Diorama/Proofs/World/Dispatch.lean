/-
# One activation in an update

In an update a fresh press is offered to the buttons in the order of their making.  Most actions
change nothing but the depot: they print, play a sound, or name a target that does not exist.
The first action that activates something, by sending its scene to an existing state or by
changing to a registered scene, is the last: the other buttons are gone or belong to what was
left, and so is the state whose timer might be due.

The loop does not look at what an action did.  It compares the count of activations of the scene
before and after.  That this is the same thing is `perform_cases`.
-/
import Diorama.Proofs.World.Buttons
import Diorama.Proofs.World.Isolation

namespace Diorama

open Act

variable {α : Type} [Scalar α]

/-! ## 1. Answers

`answer?` is what an entity would do if it was pressed at a point, without any fault: a press that
would raise counts as no answer.  A run that came to its end never met such a press, so nothing is
lost by that. -/

/-- What a press at a point asks of an entity: the action of a visible button with a handler whose
bounds contain the point. -/
def Entity.answer? (f : Entity α) (x y : α) : Option (ActionSpec α) :=
  match f.form, f.bounds with
  | .button _ _ _ _ (some action) true _, .ok area =>
    if f.visible && area.contains x y then some action else none
  | _, _ => none

/-- Where the test of a button ends with a result, the answer is this result.  The test asks for the
visibility before the bounds, so a hidden button answers nothing even where its bounds cannot be
computed. -/
theorem Entity.answer?_of_clicked? {f : Entity α} {x y : α} {a : Option (ActionSpec α)}
    (h : f.clicked? x y = .ok a) : f.answer? x y = a := by
  unfold clicked? at h
  unfold answer?
  split at h
  · next action owner hform =>
    unfold containsPoint at h
    rw [hform]
    cases hv : f.visible with
    | false =>
      rw [hv] at h
      cases h
      cases f.bounds <;> rfl
    | true =>
      cases hb : f.bounds with
      | error e =>
        rw [hv, hb] at h
        cases h
      | ok area =>
        rw [hv, hb] at h
        change (if area.contains x y = true then Except.ok (some action)
          else Except.ok none) = Except.ok a at h
        dsimp only
        rw [Bool.true_and]
        split at h
        · next hc =>
          rw [if_pos hc]
          exact Except.ok.inj h
        · next hc =>
          rw [if_neg hc]
          exact Except.ok.inj h
  · next hform =>
    cases h
    split
    · next hform' _ => exact (hform _ _ _ _ _ _ hform').elim
    · rfl

/-- A press has no answer only if the rectangle of something that can be seen is missing.  What is
hidden is not asked for its rectangle, and what is no button is not asked at all. -/
theorem Entity.bounds_of_clicked? {f : Entity α} {x y : α} {e : Fault}
    (h : f.clicked? x y = .error e) : f.visible = true ∧ f.bounds = .error e := by
  unfold clicked? at h
  split at h
  · cases hv : f.visible with
    | false =>
      rw [hv] at h
      cases h
    | true =>
      unfold containsPoint at h
      cases hb : f.bounds with
      | error e' =>
        rw [hv, hb] at h
        cases h
        exact ⟨rfl, rfl⟩
      | ok area =>
        rw [hv, hb] at h
        change (if area.contains x y = true then Except.ok _ else Except.ok none) = _ at h
        split at h <;> cases h
  · cases h

/-- A button answers with its own action. -/
theorem Entity.action?_of_answer? {f : Entity α} {x y : α} {a : ActionSpec α}
    (h : f.answer? x y = some a) : f.action? = some a := by
  unfold answer? at h
  unfold action?
  split at h
  · next hform _ =>
    rw [hform]
    split at h
    · exact h
    · cases h
  · cases h

namespace World

/-- What a press at a point asks of the entity of a number. -/
def answer? (w : World α) (x y : α) (e : Nat) : Option (ActionSpec α) :=
  w.entities[e]?.bind fun f => f.answer? x y

/-- Performing the action sends the scene `n` to an existing state or changes to a registered
scene. -/
def Activates (n : Nat) (a : ActionSpec α) (w : World α) : Prop :=
  a.target.truthy = true ∧
    match a.kind with
    | .switchState => ∃ c state, w.script? n = some c ∧ state ∈ c.states ∧
        a.target = .text state.name
    | .switchScene => ∃ name m, a.target = .text name ∧ w.registry.lookup name = some m
    | _ => False

/-- Apart from the depot, one switch of states or one change of scenes has happened. -/
def Activated [Host α] (n : Nat) (w v : World α) : Prop :=
  ∃ u, w.OffDepot u ∧ ((∃ name, (switchToState n name).run u = (.ok (), v)) ∨
    ∃ m, (changeScene (some m)).run u = (.ok (), v))

/-- Whether an action activates something does not depend on the depot. -/
theorem OffDepot.activates {n : Nat} {a : ActionSpec α} {w v : World α} (h : w.OffDepot v) :
    v.Activates n a ↔ w.Activates n a := by
  rw [h]
  exact Iff.rfl

/-- The answer of a button to a press does not depend on it either. -/
theorem OffDepot.answer? {w v : World α} (h : w.OffDepot v) (x y : α) (e : Nat) :
    v.answer? x y e = w.answer? x y e := by
  rw [h]
  rfl

/-- What happens in the depot can come before an activation and be counted as a part of it. -/
theorem OffDepot.activated [Host α] {n : Nat} {u w v : World α} (h : u.OffDepot w)
    (hv : w.Activated n v) : u.Activated n v := by
  obtain ⟨t, ht, hcase⟩ := hv
  exact ⟨t, h.trans ht, hcase⟩

/-! ## 2. One action

Performing an action ends in one of two ways: nothing but the depot was touched, or something was
activated, and then the count of the scene has moved.  So the count is a faithful sign. -/

/-- To activate a state moves the count. -/
theorem counts_activate (n : Nat) (state : StateSpec α) : (activate n state).Moves (Counts n) := by
  have hrest : (do if state.clears then clearStage n
                   placeState n state : Act (World α) Unit).Moves Ages :=
    moves_ite (moves_bind ((moves_clearStage n).mono fun _ _ h => h.toAges) fun _ =>
      (moves_placeState n state).mono fun _ _ h => h.toAges)
      ((moves_placeState n state).mono fun _ _ h => h.toAges)
  intro w
  unfold activate
  rw [after_bind_of_ok (run_modifyScript n w _)]
  refine Counts.ages (fun c hc => ?_) (hrest _)
  exact ⟨{ c with activations := c.activations + 1 }, script?_mapScript_self hc _,
    Nat.lt_succ_self _⟩

/-- A switch of states either finds no state and says so, or is an activation.  The name is looked
for among the states in their order, and only a text can be found; the line about it is printed
before the state is set. -/
theorem switchToState_cases {n : Nat} {name : Value α} {w v : World α} {c : Script α}
    (hc : w.script? n = some c) (hrun : (switchToState n name).run w = (.ok (), v)) :
    ((¬ ∃ state ∈ c.states, name = .text state.name) ∧ w.OffDepot v) ∨
    ((∃ state ∈ c.states, name = .text state.name) ∧ w.Counts n v) := by
  unfold switchToState at hrun
  rw [run_bind_of_ok (by rw [run_scriptAt, hc])] at hrun
  cases hfind : c.states.findIdx? fun state => name.isText state.name with
  | none =>
    rw [hfind] at hrun
    refine Or.inl ⟨?_, ?_⟩
    · rintro ⟨state, hstate, hname⟩
      have := List.findIdx?_eq_none_iff.1 hfind state hstate
      rw [Value.isText_iff.2 hname] at this
      cases this
    · rw [← after_eq_of_run hrun]
      exact moves_bind (moves_ofExcept _) (fun _ => moves_sayFor n _) w
  | some index =>
    rw [hfind] at hrun
    obtain ⟨hlt, htext, -⟩ := List.findIdx?_eq_some_iff_getElem.1 hfind
    dsimp only at hrun
    rw [Value.isText_iff.1 htext, Value.written_text, run_bind_of_ok (run_ofExcept _ _)] at hrun
    refine Or.inr ⟨⟨c.states[index], List.getElem_mem hlt, Value.isText_iff.1 htext⟩, ?_⟩
    obtain ⟨_, u, hu, hrun⟩ := run_bind_eq_ok.1 hrun
    have hwu : w.OffDepot u := by
      rw [← after_eq_of_run hu]
      exact moves_sayFor n _ w
    rw [run_bind_of_ok (run_modifyScript n u _), List.getElem?_eq_getElem hlt] at hrun
    rw [← after_eq_of_run hrun]
    refine Ages.counts ?_ (counts_activate n _ _)
    have hset : u.OwnWork n (u.mapScript n fun s =>
        { s with index, stateName := some c.states[index].name, timer := 0.0 }) :=
      OwnWork.mapScript (fun _ => rfl) (fun _ => rfl) fun _ => Nat.le_refl _
    exact (hwu.ownWork n).toAges.trans hset.toAges

/-- A request for a scene either finds none and says so, or changes to it.  A value that cannot be
a key at all has ended the run before, so in both cases the name is one. -/
theorem switchTo_cases [Host α] {name : Value α} {w v : World α}
    (hrun : (switchTo name).run w = (.ok (), v)) :
    ((¬ ∃ key m, name = .text key ∧ w.registry.lookup key = some m) ∧ w.OffDepot v) ∨
    ∃ key m, name = .text key ∧ w.registry.lookup key = some m ∧
      (changeScene (some m)).run w = (.ok (), v) := by
  unfold switchTo at hrun
  cases hkey : name.nameKey with
  | error e =>
    rw [run_bind_of_error (by rw [run_registered?, hkey])] at hrun
    cases hrun
  | ok key =>
    rw [run_bind_of_ok (by rw [run_registered?, hkey])] at hrun
    cases hfind : key.bind fun key => w.registry.lookup key with
    | none =>
      rw [hfind] at hrun
      refine Or.inl ⟨?_, ?_⟩
      · rintro ⟨key', m, hname, hm⟩
        rw [Value.nameKey_iff.2 hname] at hkey
        cases hkey
        rw [Option.bind_some, hm] at hfind
        cases hfind
      · rw [← after_eq_of_run hrun]
        exact moves_bind (moves_ofExcept _) (fun _ => moves_liftLog _) w
    | some m =>
      rw [hfind] at hrun
      obtain ⟨key', rfl, hm⟩ := Option.bind_eq_some_iff.1 hfind
      exact Or.inr ⟨key', m, Value.nameKey_iff.1 hkey, hm, hrun⟩

/-- A scene on the stage that asks for another one either finds none, or the change is counted. -/
theorem switchScene_cases [Host α] {n : Nat} {name : Value α} {w v : World α}
    (hn : w.current = some n)
    (hstage : w.Onstage n) (hrun : (switchScene n name).run w = (.ok (), v)) :
    ((¬ ∃ key m, name = .text key ∧ w.registry.lookup key = some m) ∧ w.OffDepot v) ∨
    ∃ key m, name = .text key ∧ w.registry.lookup key = some m ∧
      (changeScene (some m)).run w = (.ok (), v) ∧ w.Counts n v := by
  unfold switchScene at hrun
  rw [run_bind_of_ok (hstage.run_reaches .director), if_pos rfl] at hrun
  refine (switchTo_cases hrun).imp id ?_
  rintro ⟨key, m, hname, hm, hchange⟩
  exact ⟨key, m, hname, hm, hchange, after_eq_of_run hchange ▸ counts_changeScene hn _⟩

/-- **An action either changes nothing but the depot, or activates something and is counted.** One
case for each kind of action.  The two switches may activate; a sound and a custom action never
do, the latter because the hypothesis leaves it no state to go to. -/
theorem perform_cases [Host α] {n : Nat} {a : ActionSpec α} {w v : World α} {c : Script α}
    (hn : w.current = some n) (hstage : w.Onstage n) (hc : w.script? n = some c)
    (hquiet : a.kind = .custom → c.handlesCustom = true → Fields.lookup a.params "goto" = none)
    (hrun : (perform n a).run w = (.ok (), v)) :
    (¬ w.Activates n a ∧ w.OffDepot v) ∨ (w.Activates n a ∧ w.Activated n v ∧ w.Counts n v) := by
  unfold perform at hrun
  obtain ⟨_, u, hu, hrun⟩ := run_bind_eq_ok.1 hrun
  have hwu : w.OffDepot u := by
    rw [← after_eq_of_run hu]
    exact moves_sayFor n _ w
  have hcu : u.script? n = some c := (hwu.sameScripts n).trans hc
  have hages : w.Ages u := (hwu.ownWork n).toAges
  have hstageu : u.Onstage n := hstage.ownWork (hwu.ownWork n)
  unfold Activates
  cases hkind : a.kind with
  | switchScene =>
    rw [hkind] at hrun
    change (if a.target.truthy then switchScene n a.target else pure ()).run u = _ at hrun
    split at hrun
    · next htruthy =>
      have hreg : u.registry = w.registry := by rw [hwu]
      have hcur : u.current = some n := hwu.outside.current.trans hn
      rcases switchScene_cases hcur hstageu hrun with
        ⟨hnone, huv⟩ | ⟨key, m, hname, hm, hchange, hcount⟩
      · refine Or.inl ⟨fun h => hnone ?_, hwu.trans huv⟩
        rw [hreg]
        exact h.2
      · exact Or.inr ⟨⟨htruthy, key, m, hname, hreg ▸ hm⟩, ⟨u, hwu, Or.inr ⟨m, hchange⟩⟩,
          hages.counts hcount⟩
    · next hfalse =>
      cases hrun
      exact Or.inl ⟨fun h => hfalse h.1, hwu⟩
  | switchState =>
    rw [hkind] at hrun
    change (if a.target.truthy then switchToState n a.target else pure ()).run u = _ at hrun
    split at hrun
    · next htruthy =>
      rcases switchToState_cases hcu hrun with ⟨hnone, huv⟩ | ⟨⟨state, hstate, hname⟩, hcount⟩
      · refine Or.inl ⟨fun h => hnone ?_, hwu.trans huv⟩
        obtain ⟨-, c', state, hc', hstate, hname⟩ := h
        obtain rfl : c = c' := Option.some.inj (hc.symm.trans hc')
        exact ⟨state, hstate, hname⟩
      · exact Or.inr ⟨⟨htruthy, c, state, hc, hstate, hname⟩, ⟨u, hwu, Or.inl ⟨_, hrun⟩⟩,
          hages.counts hcount⟩
    · next hfalse =>
      cases hrun
      exact Or.inl ⟨fun h => hfalse h.1, hwu⟩
  | playSound =>
    rw [hkind] at hrun
    refine Or.inl ⟨fun h => h.2, hwu.trans ?_⟩
    rw [← after_eq_of_run hrun]
    refine moves_ite (moves_bind (moves_reaches n _).of_eq fun _ => moves_ite ?_ (moves_pure _))
      (moves_pure _) u
    exact moves_bind (moves_onDepot _) fun _ => moves_pure _
  | custom =>
    rw [hkind] at hrun
    refine Or.inl ⟨fun h => h.2, hwu.trans ?_⟩
    rw [← after_eq_of_run hrun]
    change u.OffDepot ((do
      if (← scriptAt n).handlesCustom then answerCustom n a.params
      else sayFor n ("Custom action: " ++ (← Act.ofExcept (Value.map a.params).shown)) :
        Act (World α) Unit).after u)
    rw [after_bind_of_ok (by rw [run_scriptAt, hcu])]
    split
    · next hhandles =>
      unfold answerCustom
      rw [hquiet hkind hhandles]
      exact moves_bind (moves_onDevice _) (fun _ => moves_pure _) u
    · exact moves_bind (moves_ofExcept _) (fun _ => moves_sayFor n _) u

/-! ## 3. One press

A press goes through the list of buttons.  `Passed` is what is known as long as nothing was
activated, and `Stopped` that some button has activated something; the loop ends in one or the
other. -/

/-- The actions that a press at a point asks for among some entities, in their order. -/
def answers (w : World α) (x y : α) (es : List Nat) : List (ActionSpec α) :=
  es.filterMap (w.answer? x y)

/-- The answers of all buttons stay what they were while something happens in the depot. -/
theorem OffDepot.answers {w v : World α} (h : w.OffDepot v) (x y : α) (es : List Nat) :
    v.answers x y es = w.answers x y es := by
  unfold World.answers
  rw [funext (h.answer? x y)]

/-- A press was offered to all of some entities, and nothing was activated. -/
structure Passed [Host α] (n : Nat) (x y : α) (es : List Nat) (w v : World α) : Prop where
  inert : ∀ a ∈ w.answers x y es, ¬ w.Activates n a
  performed : ((w.answers x y es).forM (perform n)).run w = (.ok (), v)
  offDepot : w.OffDepot v

/-- Before the first button nothing has happened. -/
theorem passed_nil [Host α] (n : Nat) (x y : α) (w : World α) : Passed n x y [] w w :=
  ⟨nofun, rfl, rfl⟩

/-- An entity that asks for nothing can be left out. -/
theorem Passed.cons_none [Host α] {n : Nat} {x y : α} {e : Nat} {es : List Nat} {w v : World α}
    (he : w.answer? x y e = none) (h : Passed n x y es w v) : Passed n x y (e :: es) w v := by
  have hsame : w.answers x y (e :: es) = w.answers x y es := List.filterMap_cons_none he
  exact ⟨hsame ▸ h.inert, hsame ▸ h.performed, h.offDepot⟩

/-- A button whose action activates nothing lets the press pass on. -/
theorem Passed.cons_some [Host α] {n : Nat} {x y : α} {e : Nat} {es : List Nat} {u v w : World α}
    {a : ActionSpec α} (he : u.answer? x y e = some a) (hinert : ¬ u.Activates n a)
    (hrun : (perform n a).run u = (.ok (), w)) (hoff : u.OffDepot w) (h : Passed n x y es w v) :
    Passed n x y (e :: es) u v := by
  have hcons : u.answers x y (e :: es) = a :: w.answers x y es := by
    rw [hoff.answers]
    exact List.filterMap_cons_some he
  refine ⟨fun b hb => ?_, ?_, hoff.trans h.offDepot⟩
  · rw [hcons] at hb
    rcases List.mem_cons.1 hb with rfl | hb
    · exact hinert
    · exact fun hact => h.inert b hb (hoff.activates.2 hact)
  · rw [hcons]
    change (perform n a >>= fun _ => (w.answers x y es).forM (perform n)).run u = _
    rw [run_bind_of_ok hrun]
    exact h.performed

/-- The first entities of a list were passed, and the next one has activated something. -/
def Stopped [Host α] (n : Nat) (x y : α) (es : List Nat) (w v : World α) : Prop :=
  ∃ before e rest a u, es = before ++ e :: rest ∧ Passed n x y before w u ∧
    w.answer? x y e = some a ∧ w.Activates n a ∧ (perform n a).run u = (.ok (), v) ∧
    u.Activated n v

/-- If a later button stops the press, those before it were passed. -/
theorem Stopped.cons [Host α] {n : Nat} {x y : α} {e : Nat} {es : List Nat} {u w v : World α}
    (hpass : ∀ {before t}, Passed n x y before w t → Passed n x y (e :: before) u t)
    (hoff : u.OffDepot w) (h : Stopped n x y es w v) : Stopped n x y (e :: es) u v := by
  obtain ⟨before, e', rest, a, t, rfl, hbefore, he', hact, hrun, hv⟩ := h
  exact ⟨e :: before, e', rest, a, t, rfl, hpass hbefore, (hoff.answer? x y e').symm.trans he',
    hoff.activates.1 hact, hrun, hv⟩

/-- One button is passed or stops the press: either nothing but the depot differs, or something was
activated and counted. -/
theorem click_cases [Host α] {n e : Nat} {x y : α} {w u : World α} {c : Script α}
    (hn : w.current = some n)
    (hstage : w.Onstage n) (hc : w.script? n = some c)
    (hquiet : ∀ a, w.answer? x y e = some a → a.kind = .custom → c.handlesCustom = true →
      Fields.lookup a.params "goto" = none)
    (hclick : (click n e x y).run w = (.ok (), u)) :
    (w.OffDepot u ∧ ∀ {before t}, Passed n x y before u t → Passed n x y (e :: before) w t) ∨
      (w.Counts n u ∧ ∀ rest, Stopped n x y (e :: rest) w u) := by
  unfold click at hclick
  cases hf : w.entities[e]? with
  | none =>
    rw [run_bind_of_error (by rw [run_entityAt, hf])] at hclick
    cases hclick
  | some f =>
    rw [run_bind_of_ok (by rw [run_entityAt, hf])] at hclick
    cases ha : f.clicked? x y with
    | error g =>
      rw [ha] at hclick
      cases hclick
    | ok a =>
      rw [ha, run_bind_of_ok (run_ofExcept _ w)] at hclick
      have hanswer : w.answer? x y e = a := by
        unfold answer?
        rw [hf]
        exact Entity.answer?_of_clicked? ha
      cases a with
      | none =>
        cases hclick
        exact Or.inl ⟨rfl, Passed.cons_none hanswer⟩
      | some a =>
        rcases perform_cases hn hstage hc (hquiet a hanswer) hclick with
          ⟨hinert, hoff⟩ | ⟨hact, hactivated, hcount⟩
        · exact Or.inl ⟨hoff, Passed.cons_some hanswer hinert hclick hoff⟩
        · refine Or.inr ⟨hcount, fun rest => ?_⟩
          exact ⟨[], e, rest, a, w, rfl, passed_nil n x y w, hanswer, hact, hclick, hactivated⟩

/-- **The loop stops at the first action that activates something, and only there.** By induction
on the entities that are still to be tested.  The count of activations tells the loop whether the
click has led anywhere, and `perform_cases` says that it tells the truth. -/
theorem clickAll_cases [Host α] {n : Nat} {x y : α} {c : Script α} : ∀ {es : List Nat}
    {w v : World α}
    {b : Bool}, w.current = some n → w.Onstage n → w.script? n = some c →
    (∀ e ∈ es, ∀ a, w.answer? x y e = some a → a.kind = .custom → c.handlesCustom = true →
      Fields.lookup a.params "goto" = none) →
    (clickAll n x y c.activations es).run w = (.ok b, v) →
    (b = false ∧ Passed n x y es w v) ∨ (b = true ∧ Stopped n x y es w v)
  | [], w, v, b, _, _, _, _, hrun => by
    cases hrun
    exact Or.inl ⟨rfl, passed_nil n x y w⟩
  | e :: es, w, v, b, hn, hstage, hc, hquiet, hrun => by
    unfold clickAll at hrun
    obtain ⟨_, u, hclick, hrun⟩ := run_bind_eq_ok.1 hrun
    -- the first entity did not stop the loop, so the rest is tested in a world that differs in its
    -- depot
    rcases click_cases hn hstage hc (hquiet e List.mem_cons_self) hclick with
      ⟨hoff, hpass⟩ | ⟨hcount, hstop⟩
    · have hcu : u.script? n = some c := (hoff.sameScripts n).trans hc
      rw [run_bind_of_ok (by rw [run_scriptAt, hcu]), if_neg (by simp)] at hrun
      have hnu : u.current = some n := hoff.outside.current.trans hn
      have hquietu : ∀ e ∈ es, ∀ a, u.answer? x y e = some a → a.kind = .custom →
          c.handlesCustom = true → Fields.lookup a.params "goto" = none := fun e he a ha =>
        hquiet e (List.mem_cons_of_mem _ he) a ((hoff.answer? x y e).symm.trans ha)
      rcases clickAll_cases hnu (hstage.ownWork (hoff.ownWork n)) hcu hquietu hrun with
        ⟨rfl, h⟩ | ⟨rfl, h⟩
      · exact Or.inl ⟨rfl, hpass h⟩
      · exact Or.inr ⟨rfl, h.cons hpass hoff⟩
    · obtain ⟨d, hd, hlt⟩ := hcount c hc
      have hne : d.activations ≠ c.activations := by omega
      rw [run_bind_of_ok (by rw [run_scriptAt, hd]), if_pos (by simpa using hne)] at hrun
      cases hrun
      exact Or.inr ⟨rfl, hstop es⟩

/-! ## 4. One update

After the press the update ends if something was activated; otherwise the state may end by its
timer.  In both cases there is at most one activation. -/

/-- How an update of the scene `n`, which was in `state`, answers a press: from `w` on, when time
has passed, the first `k` buttons are tested, which leads to `u`, and the update ends in `v`. -/
structure Answered [Host α] (n : Nat) (x y : α) (state : StateSpec α) (es : List Nat) (k : Nat)
    (w u v : World α) : Prop where
  bound : k ≤ es.length
  /-- What is done is what the tested buttons ask for. -/
  performed : ((w.answers x y (es.take k)).forM (perform n)).run w = (.ok (), u)
  /-- Only the last action may activate something. -/
  inert : ∀ a ∈ (w.answers x y (es.take k)).dropLast, ¬ w.Activates n a
  /-- If there are buttons that are not tested, then the last that is has activated something. -/
  stopped : k < es.length → ∃ e a, (es.take k).getLast? = some e ∧
    w.answer? x y e = some a ∧ w.Activates n a
  /-- After an activation nothing else happens. -/
  activated : (∃ a ∈ w.answers x y (es.take k), w.Activates n a) → v = u
  /-- Without one, all buttons are tested, and then the timer of the state is looked at. -/
  idle : (∀ a ∈ w.answers x y (es.take k), ¬ w.Activates n a) →
    k = es.length ∧ (followIfDue n state).run u = (.ok (), v)
  /-- There is at most one activation in all. -/
  once : w.OffDepot v ∨ w.Activated n v

/-- A transition that is due activates a state or a scene; otherwise nothing has happened but in
the depot. -/
theorem followIfDue_cases [Host α] {n : Nat} {state : StateSpec α} {w v : World α}
    (hstage : w.Onstage n)
    (hrun : (followIfDue n state).run w = (.ok (), v)) : w.OffDepot v ∨ w.Activated n v := by
  unfold followIfDue at hrun
  split at hrun
  · next t _ =>
    obtain ⟨kind, duration, nextState, nextScene⟩ := t
    cases kind
    obtain ⟨c, u, hu, hrun⟩ := run_bind_eq_ok.1 hrun
    obtain rfl : w = u := (moves_scriptAt n w).trans (after_eq_of_run hu)
    split at hrun
    · unfold follow at hrun
      split at hrun
      · unfold switchScene at hrun
        rw [run_bind_of_ok (hstage.run_reaches .director), if_pos rfl] at hrun
        rcases switchTo_cases hrun with ⟨-, hoff⟩ | ⟨_, m, -, -, hchange⟩
        · exact Or.inl hoff
        · exact Or.inr ⟨w, rfl, Or.inr ⟨m, hchange⟩⟩
      · split at hrun
        · exact Or.inr ⟨w, rfl, Or.inl ⟨_, hrun⟩⟩
        · cases hrun
          exact Or.inl rfl
    · cases hrun
      exact Or.inl rfl
  · cases hrun
    exact Or.inl rfl

/-- All buttons were tested. -/
theorem Passed.answered [Host α] {n : Nat} {x y : α} {state : StateSpec α} {es : List Nat}
    {w u v : World α}
    (h : Passed n x y es w u) (hstage : u.Onstage n)
    (hrun : (followIfDue n state).run u = (.ok (), v)) :
    Answered n x y state es es.length w u v := by
  have hall : es.take es.length = es := List.take_length
  refine ⟨Nat.le_refl _, ?_, ?_, fun hlt => absurd hlt (Nat.lt_irrefl _), ?_, ?_, ?_⟩
  · rw [hall]
    exact h.performed
  · rw [hall]
    exact fun a ha => h.inert a (List.dropLast_subset _ ha)
  · rw [hall]
    rintro ⟨a, ha, hact⟩
    exact (h.inert a ha hact).elim
  · exact fun _ => ⟨rfl, hrun⟩
  · rcases followIfDue_cases hstage hrun with hoff | hact
    · exact Or.inl (h.offDepot.trans hoff)
    · exact Or.inr (h.offDepot.activated hact)

/-- The button after those that were passed was the last one.  The entities that were tested are
those passed and the one that stopped the loop; what comes after it was not looked at. -/
theorem Stopped.answered [Host α] {n : Nat} {x y : α} {es : List Nat} {w v : World α}
    (h : Stopped n x y es w v) (state : StateSpec α) : ∃ k, Answered n x y state es k w v v := by
  obtain ⟨before, e, rest, a, u, rfl, hpassed, he, hact, hrun, hactivated⟩ := h
  have htake : (before ++ e :: rest).take (before.length + 1) = before ++ [e] := by
    rw [List.take_append, List.take_of_length_le (by omega)]
    simp
  have hanswers : w.answers x y (before ++ [e]) = w.answers x y before ++ [a] := by
    unfold answers
    rw [List.filterMap_append, List.filterMap_cons_some he, List.filterMap_nil]
  -- the answers of those passed are performed first, then the one that activated
  have hperformed : ((w.answers x y before ++ [a]).forM (perform n)).run w = (.ok (), v) := by
    have hsplit : (w.answers x y before ++ [a]).forM (perform n) =
        ((w.answers x y before).forM (perform n) >>= fun _ => [a].forM (perform n)) :=
      List.forM_append
    rw [hsplit, run_bind_of_ok hpassed.performed]
    change (perform n a >>= fun _ => pure ()).run u = _
    rw [run_bind_of_ok hrun]
    rfl
  refine ⟨before.length + 1, by simp, ?_, ?_, fun _ => ⟨e, a, ?_, he, hact⟩, fun _ => rfl, ?_, ?_⟩
  · rw [htake, hanswers]
    exact hperformed
  · rw [htake, hanswers, List.dropLast_concat]
    exact hpassed.inert
  · rw [htake, List.getLast?_concat]
  · rw [htake, hanswers]
    exact fun hnone => (hnone a (by simp) hact).elim
  · exact Or.inr (hpassed.offDepot.activated hactivated)

end World

/-- No custom action of the document leads back into the scene when it is answered. -/
def Script.Quiet (c : Script α) : Prop :=
  c.handlesCustom = true → ∀ fields ∈ c.descriptions, ∀ (a : ActionSpec α) (log log' : Log),
    (Workshop.readClick fields).run log = (.ok (some a), log') → a.kind = .custom →
      Fields.lookup a.params "goto" = none

namespace World

/-- What a listed button asks for was read from its own description. -/
theorem InOrder.own {n : Nat} {spec : Option (SceneSpec α)} {w : World α} {c : Script α}
    (h : w.InOrder n spec) (hc : w.script? n = some c) {x y : α} {e : Nat}
    (he : e ∈ c.clickables) {a : ActionSpec α}
    (ha : w.answer? x y e = some a) : ∃ fields ∈ c.descriptions,
      (∃ f, w.entities[e]? = some f ∧ f.BuiltFrom fields) ∧
      ∀ log, ∃ log', (Workshop.readClick fields).run log = (.ok (some a), log') := by
  obtain ⟨f, hf, hbutton, fields, hfields, hbuilt⟩ := (h c hc).made e he
  refine ⟨fields, hfields, ⟨f, hf, hbuilt⟩, fun log => ?_⟩
  unfold answer? at ha
  rw [hf] at ha
  rw [← Entity.action?_of_answer? ha]
  exact hbuilt.action hbutton log

/-- In an update without a fault every animation has a pose. -/
theorem run_advance_of_updateScript [Host α] {n : Nat} {w v : World α} {c : Script α}
    {state : StateSpec α}
    {dt : α} (hc : w.script? n = some c) (hstate : c.state? = some state)
    (hrun : (updateScript n dt).run w = (.ok (), v)) :
    (advance n dt).run w = (.ok (), (advance n dt).after w) := by
  unfold updateScript at hrun
  rw [run_bind_of_ok (by rw [run_scriptAt, hc]), hstate] at hrun
  dsimp only at hrun
  obtain ⟨⟨⟩, t, hadvance, -⟩ := run_bind_eq_ok.1 hrun
  rw [after_eq_of_run hadvance]
  exact hadvance

omit [Scalar α] in
/-- From the stage a fresh press is seen. -/
theorem run_freshPress? {n : Nat} {w : World α} (hstage : w.Onstage n)
    (hpress : w.input.pointer.pressed = true) :
    (freshPress? n).run w = (.ok (some w.input.pointer), w) := by
  unfold freshPress?
  rw [run_bind_of_ok (run_get w), run_bind_of_ok (hstage.run_reaches .input), if_pos rfl,
    if_pos hpress]
  rfl

/-- A document that has buttons has a current state. -/
theorem InOrder.clickables_eq_nil {n : Nat} {w : World α} {c : Script α} (h : w.InOrder n c.spec)
    (hc : w.script? n = some c) (hstate : c.state? = none) : c.clickables = [] := by
  obtain ⟨-, hindex, -, -, hmade⟩ := h c hc
  cases hlist : c.clickables with
  | nil => rfl
  | cons e es =>
    obtain ⟨f, -, -, fields, hfields, -⟩ := hmade e (by rw [hlist]; exact List.mem_cons_self)
    obtain ⟨state, hmem, -⟩ := List.mem_flatMap.1 hfields
    have hlt := hindex (List.ne_nil_of_mem hmem)
    rw [Script.state?, List.getElem?_eq_getElem hlt] at hstate
    cases hstate

/-- An update of a current scene that is in order, with a fresh press.  The world is that after
the clock has advanced: animations and the timer run before the press is looked at. -/
theorem exists_answered [Host α] {n : Nat} {w v : World α} {c : Script α} {state : StateSpec α}
    {dt : α}
    (hn : w.current = some n) (hstage : w.Onstage n) (hc : w.script? n = some c)
    (horder : w.InOrder n c.spec) (hquiet : c.Quiet) (hpress : w.input.pointer.pressed = true)
    (hstate : c.state? = some state) (hrun : (updateScript n dt).run w = (.ok (), v)) :
    ∃ k u, Answered n w.input.pointer.x w.input.pointer.y state c.clickables k
      ((advance n dt).after w) u v := by
  have hown : w.OwnWork n ((advance n dt).after w) := moves_advance n dt w
  have hplace : w.SamePlace n ((advance n dt).after w) := samePlace_advance dt w
  have hscript := script?_advance n dt hc
  have hadvance := run_advance_of_updateScript hc hstate hrun
  have hinput : ((advance n dt).after w).input = w.input := by
    rw [after_eq_of_run (run_advance n dt hc)]
    rfl
  unfold updateScript at hrun
  rw [run_bind_of_ok (by rw [run_scriptAt, hc]), hstate] at hrun
  dsimp only at hrun
  rw [run_bind_of_ok hadvance] at hrun
  -- from here on only that the scene is the same and in order counts, not how far the clock is
  generalize (advance n dt).after w = t at *
  have hn' : t.current = some n := hown.current.trans hn
  have hstage' : t.Onstage n := hstage.ownWork hown
  obtain ⟨b, u, hdispatch, hrun⟩ := run_bind_eq_ok.1 hrun
  unfold dispatch at hdispatch
  rw [run_bind_of_ok (run_freshPress? hstage' (hinput ▸ hpress))] at hdispatch
  dsimp only at hdispatch
  rw [run_bind_of_ok (by rw [run_scriptAt, hscript]), hinput] at hdispatch
  have horder' : t.InOrder n c.spec := hplace.inOrder horder
  have hquiet' : ∀ e ∈ c.clickables, ∀ a,
      t.answer? w.input.pointer.x w.input.pointer.y e = some a → a.kind = .custom →
      c.handlesCustom = true → Fields.lookup a.params "goto" = none := by
    intro e he a ha hkind hhandles
    obtain ⟨fields, hfields, -, hread⟩ := InOrder.own horder' hscript he ha
    obtain ⟨log, hread⟩ := hread #[]
    exact hquiet hhandles fields hfields a _ _ hread hkind
  -- no button activated a state and the timer decides, or one did and the update ends there
  rcases clickAll_cases hn' hstage' hscript hquiet' hdispatch with ⟨rfl, h⟩ | ⟨rfl, h⟩
  · exact ⟨_, _, h.answered (hstage'.ownWork (h.offDepot.ownWork n)) hrun⟩
  · obtain ⟨k, h⟩ := h.answered state
    cases hrun
    exact ⟨k, _, h⟩

/-- **In an update without a fault at most one thing is activated.**  A scene is current in a run
and its custom actions do not lead back into it; the pointer is freshly pressed.  Then the buttons,
which are listed in the order of their making, are tested one after the other, each with the action
of its own description, until one of them activates something; only if none does the timer is
looked at. -/
theorem one_activation_per_update [Host α] {start : World α} (hstart : start.Fresh)
    (os : List (Operation α)) {n : Nat} {c : Script α} (hn : (play os start).current = some n)
    (hc : (play os start).script? n = some c) (hquiet : c.Quiet)
    (hpress : (play os start).input.pointer.pressed = true) {dt : α} {v : World α}
    (hrun : (updateScript n dt).run (play os start) = (.ok (), v)) :
    c.clickables.Pairwise (· < ·) ∧
    (c.state? = none → c.clickables = [] ∧ v = play os start) ∧
    ∀ state, c.state? = some state → ∃ w, (advance n dt).run (play os start) = (.ok (), w) ∧
      (∀ e ∈ c.clickables, ∀ a,
        w.answer? (play os start).input.pointer.x (play os start).input.pointer.y e = some a →
        ∃ fields ∈ c.descriptions, (∃ f, w.entities[e]? = some f ∧ f.BuiltFrom fields) ∧
          ∀ log, ∃ log', (Workshop.readClick fields).run log = (.ok (some a), log')) ∧
      ∃ k u, Answered n (play os start).input.pointer.x (play os start).input.pointer.y state
        c.clickables k w u v := by
  have hsound : Sound start (play os start) := sound_play os hstart.sound
  have hstage : (play os start).Onstage n := (hsound.isolated.stands n c hn hc).1
  have horder : (play os start).InOrder n c.spec := by
    obtain ⟨spec, hspec⟩ := hstart.exists_inOrder n
    obtain ⟨h⟩ := hsound.history
    have horder := h.inOrder hspec
    rw [(horder c hc).spec]
    exact horder
  refine ⟨(horder c hc).ordered, fun hnone => ⟨horder.clickables_eq_nil hc hnone, ?_⟩, ?_⟩
  · unfold updateScript at hrun
    rw [run_bind_of_ok (by rw [run_scriptAt, hc]), hnone] at hrun
    cases hrun
    rfl
  · intro state hstate
    refine ⟨(advance n dt).after (play os start), ?_, fun e he a ha => ?_, ?_⟩
    · exact run_advance_of_updateScript hc hstate hrun
    · exact InOrder.own ((samePlace_advance dt _).inOrder horder) (script?_advance n dt hc) he ha
    · exact exists_answered hn hstage hc horder hquiet hpress hstate hrun

/-- The door of the hall is pressed, and an update follows.  The hypotheses are computed on the
run; the answer itself is the theorem. -/
theorem one_activation_per_update_house :
    ∃ (c : Script Rat) (state : StateSpec Rat) (v : World Rat),
    house.Fresh ∧ (play knock house).current = some 0 ∧ (play knock house).script? 0 = some c ∧
    c.Quiet ∧ (play knock house).input.pointer.pressed = true ∧
    (updateScript 0 1).run (play knock house) = (.ok (), v) ∧ c.state? = some state ∧
    ∃ w k u, Answered 0 10 10 state c.clickables k w u v := by
  obtain ⟨c, hc⟩ : ∃ c, (play knock house).script? 0 = some c :=
    Option.isSome_iff_exists.1 (by decide +kernel)
  obtain ⟨state, hstate⟩ : ∃ state, c.state? = some state := by
    have h : ((play knock house).script? 0).any (·.state?.isSome) = true := by decide +kernel
    rw [hc] at h
    exact Option.isSome_iff_exists.1 h
  have hquiet : c.Quiet := by
    have h : ((play knock house).script? 0).any (!·.handlesCustom) = true := by decide +kernel
    rw [hc, Option.any_some, Bool.not_eq_true'] at h
    intro hcustom
    rw [h] at hcustom
    cases hcustom
  have hv := run_of_toOption (b := ()) (x := updateScript 0 1) (s := play knock house)
    (by decide +kernel)
  have hn : (play knock house).current = some 0 := by decide +kernel
  have hpress : (play knock house).input.pointer.pressed = true := by decide +kernel
  obtain ⟨-, -, h⟩ := one_activation_per_update fresh_house knock hn hc hquiet hpress hv
  obtain ⟨w, -, -, k, u, h⟩ := h state hstate
  have hx : (play knock house).input.pointer.x = 10 := by decide +kernel
  have hy : (play knock house).input.pointer.y = 10 := by decide +kernel
  rw [hx, hy] at h
  exact ⟨c, state, _, fresh_house, hn, hc, hquiet, hpress, hv, hstate, w, k, u, h⟩

end World

end Diorama
