/-
# Where buttons come from

A scripted scene lists its buttons in the order of their making, and each of them was built from a
description in the scene's own document.  So the action of a button is the one that is read from
the `onClick` of that description (`Entity.BuiltFrom.action`).

The list is part of what is true of a script in every run (`Script.InOrder`), together with the
number of its current state, which the document has unless it has no states at all.
-/
import Diorama.Proofs.Reports
import Diorama.Proofs.World.Turns

namespace Diorama

open Act

variable {α : Type}

/-! ## 1. Buttons and their descriptions

`action?` is what a button would do, and `BuiltFrom` says from which description it came.  Later
changes of the entity, by animations or otherwise, leave both alone (`SameButton`). -/

/-- The descriptions of all entities of a document. -/
def Script.descriptions (c : Script α) : List (Fields α) :=
  c.states.flatMap fun state => state.layers.flatMap (·.2)

/-- The descriptions of a scene are told from its document. -/
theorem Script.descriptions_eq {c d : Script α} (h : d.spec = c.spec) :
    d.descriptions = c.descriptions := by
  unfold Script.descriptions
  rw [Script.states_eq h]

/-- The action of a button. -/
def Entity.action? (f : Entity α) : Option (ActionSpec α) :=
  match f.form with
  | .button _ _ _ _ action _ _ => action
  | _ => none

section Built

variable [Scalar α]

/-- The entity was built from a description; if it is a button, it is still the same button. -/
def Entity.BuiltFrom (fields : Fields α) (f : Entity α) : Prop :=
  ∃ (shop : Workshop) (log log' : Log) (e : Entity α),
    (shop.build fields).run log = (.ok (some e), log') ∧ e.SameButton f

/-- What has become of a button was built from the description that the button was built from. -/
theorem Entity.BuiltFrom.trans {fields : Fields α} {f g : Entity α} (h : f.BuiltFrom fields)
    (hg : f.SameButton g) : g.BuiltFrom fields := by
  obtain ⟨shop, log, log', e, hbuild, hef⟩ := h
  exact ⟨shop, log, log', e, hbuild, hef.trans hg⟩

section Plain

variable (fields : Fields α)

/-- What `create_sprite` returns is no button. -/
theorem Workshop.plain_buildSprite (shop : Workshop) :
    (shop.buildSprite fields).ResultsIn fun e => e.isButton = false := by
  unfold buildSprite
  exact resultsIn_bind fun _ => resultsIn_bind fun _ => resultsIn_bind fun _ => resultsIn_pure rfl

/-- What `create_text` returns is no button. -/
theorem Workshop.plain_buildText (shop : Workshop) :
    (shop.buildText fields).ResultsIn fun e => e.isButton = false := by
  unfold buildText
  refine resultsIn_bind fun _ => resultsIn_bind fun _ => resultsIn_bind fun _ => ?_
  exact resultsIn_bind fun _ => resultsIn_bind fun _ => resultsIn_pure rfl

/-- What `create_shape` returns is no button. -/
theorem Workshop.plain_buildShape :
    (buildShape fields).ResultsIn fun e : Entity α => e.isButton = false := by
  unfold buildShape
  refine resultsIn_bind fun _ => resultsIn_bind fun _ => resultsIn_bind fun _ => ?_
  exact resultsIn_bind fun _ => resultsIn_bind fun _ => resultsIn_bind fun _ => resultsIn_pure rfl

end Plain

/-- What is built is a button only if it was built as one, and then its action was read.  The
other three builders make something plain, so a button can only come from its own one. -/
theorem Workshop.readClick_of_build {shop : Workshop} {fields : Fields α} {e : Entity α}
    {log log' : Log} (h : (shop.build fields).run log = (.ok (some e), log'))
    (he : e.isButton = true) :
    ∃ log₁ log₂, (readClick fields).run log₁ = (.ok e.action?, log₂) := by
  unfold build at h
  obtain ⟨kind, log₁, -, h⟩ := run_bind_eq_ok.1 h
  split at h
  · split at h
    · obtain ⟨_, _, -, h⟩ := run_bind_eq_ok.1 h
      cases h
    · cases h
  · obtain ⟨f, _, hf, h⟩ := run_bind_eq_ok.1 h
    cases h
    cases (plain_buildSprite fields shop _ _ _ hf).symm.trans he
  · obtain ⟨f, _, hf, h⟩ := run_bind_eq_ok.1 h
    cases h
    unfold buildButton at hf
    obtain ⟨place, _, -, hf⟩ := run_bind_eq_ok.1 hf
    obtain ⟨text, _, -, hf⟩ := run_bind_eq_ok.1 hf
    obtain ⟨font, _, -, hf⟩ := run_bind_eq_ok.1 hf
    obtain ⟨look, _, -, hf⟩ := run_bind_eq_ok.1 hf
    obtain ⟨action, log₂, hclick, hf⟩ := run_bind_eq_ok.1 hf
    cases hf
    exact ⟨_, _, hclick⟩
  · obtain ⟨f, _, hf, h⟩ := run_bind_eq_ok.1 h
    cases h
    cases (plain_buildText fields shop _ _ _ hf).symm.trans he
  · obtain ⟨f, _, hf, h⟩ := run_bind_eq_ok.1 h
    cases h
    cases (plain_buildShape fields _ _ _ hf).symm.trans he

/-- **The action of a button is the one that its own description asks for.** -/
theorem Entity.BuiltFrom.action {fields : Fields α} {f : Entity α} (h : f.BuiltFrom fields)
    (hf : f.isButton = true) (log : Log) :
    ∃ log', (Workshop.readClick fields).run log = (.ok f.action?, log') := by
  obtain ⟨shop, log₁, log₂, e, hbuild, hef⟩ := h
  have he : e.isButton = true := hef.isButton.symm.trans hf
  obtain ⟨log₃, log₄, hclick⟩ := Workshop.readClick_of_build hbuild he
  have haction : f.action? = e.action? := by
    unfold action?
    rw [hef.form he]
  rw [haction]
  exact Workshop.reports_readClick.run hclick log

end Built

/-! ## 2. Scripts in order

`InOrder` says what is true of the script of one scene in every run.  Most acts do not come near
it: they leave the fields of the script that it speaks of alone, and the entities with their
buttons (`SamePlace`). -/

section InOrder

variable [Scalar α]

/-- What is true of the script of a scene with a document, in every run. -/
structure Script.InOrder (spec : Option (SceneSpec α)) (es : Array (Entity α)) (c : Script α) :
    Prop where
  spec : c.spec = spec
  index : c.states ≠ [] → c.index < c.states.length
  nameless : c.states = [] → c.stateName = none
  ordered : c.clickables.Pairwise (· < ·)
  made : ∀ e ∈ c.clickables, ∃ f, es[e]? = some f ∧ f.isButton = true ∧
    ∃ fields ∈ c.descriptions, f.BuiltFrom fields

namespace World

/-- The script of the scene `n`, if it has one, is in order. -/
def InOrder (n : Nat) (spec : Option (SceneSpec α)) (w : World α) : Prop :=
  ∀ c, w.script? n = some c → c.InOrder spec w.entities

end World

end InOrder

namespace World

/-- The scene `n` is in the same state of its document and lists the same buttons. -/
structure SamePlace (n : Nat) (w v : World α) : Prop where
  entities : SameButtons w.entities v.entities
  back : ∀ d, v.script? n = some d → ∃ c, w.script? n = some c ∧ d.spec = c.spec ∧
    d.index = c.index ∧ d.stateName = c.stateName ∧ d.clickables = c.clickables

instance (n : Nat) : IsPreorder (World α) (SamePlace n) where
  refl w := ⟨.refl _, fun d hd => ⟨d, hd, rfl, rfl, rfl, rfl⟩⟩
  trans u v w h h' := by
    refine ⟨h.entities.trans h'.entities, fun e he => ?_⟩
    obtain ⟨d, hd, hspec', hindex', hname', hlist'⟩ := h'.back e he
    obtain ⟨c, hc, hspec, hindex, hname, hlist⟩ := h.back d hd
    exact ⟨c, hc, hspec'.trans hspec, hindex'.trans hindex, hname'.trans hname, hlist'.trans hlist⟩

/-- It is enough that the scripts are the same and that every button stays what it is. -/
theorem SameScripts.samePlace {n : Nat} {w v : World α} (h : w.SameScripts v)
    (he : SameButtons w.entities v.entities) : w.SamePlace n v :=
  ⟨he, fun d hd => ⟨d, (h n).symm.trans hd, rfl, rfl, rfl, rfl⟩⟩

/-- What happens in the depot changes neither scripts nor buttons. -/
theorem OffDepot.samePlace {n : Nat} {w v : World α} (h : w.OffDepot v) : w.SamePlace n v :=
  h.sameScripts.samePlace (h.ownWork n).entities

/-- A script may be changed in any other field than these four. -/
theorem samePlace_mapScript {n : Nat} {w : World α} {f : Script α → Script α}
    (hspec : ∀ c, (f c).spec = c.spec) (hindex : ∀ c, (f c).index = c.index)
    (hname : ∀ c, (f c).stateName = c.stateName) (hlist : ∀ c, (f c).clickables = c.clickables) :
    w.SamePlace n (w.mapScript n f) := by
  refine ⟨.refl _, fun d hd => ?_⟩
  obtain ⟨c, hc, rfl⟩ := exists_of_mapScript hd
  exact ⟨c, hc, hspec c, hindex c, hname c, hlist c⟩

section Acts

variable [Scalar α] {n : Nat} {spec : Option (SceneSpec α)}

/-- With the same place the script is in order as before. -/
theorem SamePlace.inOrder {w v : World α} (h : w.SamePlace n v) (hw : w.InOrder n spec) :
    v.InOrder n spec := by
  intro d hd
  obtain ⟨c, hc, hspec, hindex, hname, hlist⟩ := h.back d hd
  have hstates : d.states = c.states := Script.states_eq hspec
  obtain ⟨hcspec, hcindex, hnameless, hordered, hmade⟩ := hw c hc
  refine ⟨hspec.trans hcspec, by rw [hstates, hindex]; exact hcindex,
    by rw [hstates, hname]; exact hnameless, hlist ▸ hordered, ?_⟩
  intro e he
  rw [hlist] at he
  obtain ⟨f, hf, hbutton, fields, hfields, hbuilt⟩ := hmade e he
  obtain ⟨g, hg, hfg⟩ := h.entities e f hf
  exact ⟨g, hg, hfg.isButton.trans hbutton, fields, Script.descriptions_eq hspec ▸ hfields,
    hbuilt.trans hfg⟩

/-- An act that keeps the place keeps the order. -/
theorem inOrder_of_samePlace {β : Type} {x : Act (World α) β} (hx : x.Moves (SamePlace n)) :
    x.Keeps (InOrder n spec) := fun w hw => (hx w).inOrder hw

/-- An act in the depot keeps it in particular. -/
theorem inOrder_of_offDepot {β : Type} {x : Act (World α) β} (hx : x.Moves OffDepot) :
    x.Keeps (InOrder n spec) := inOrder_of_samePlace (hx.mono fun _ _ h => h.samePlace)

/-- Where there is no script there is nothing to be in order. -/
theorem inOrder_of_none {w : World α} (h : w.script? n = none) : w.InOrder n spec := by
  intro c hc
  rw [h] at hc
  cases hc

/-- The work of another scene. -/
theorem OwnWork.inOrder {m : Nat} {w v : World α} (h : w.OwnWork m v) (hm : m ≠ n)
    (hw : w.InOrder n spec) : v.InOrder n spec := by
  refine SamePlace.inOrder ⟨h.entities, fun d hd => ⟨d, ?_, rfl, rfl, rfl, rfl⟩⟩ hw
  rw [← hd, h.script? (Ne.symm hm)]

/-! ## 3. Placing an entity

The one act that lists a button is `placeEntity`.  `Placed` is what is true between its steps: the
new entity is younger than every listed button, so listing it at the end keeps the list in the
order of making. -/

/-- An entity that is younger than every listed button was built from a description. -/
structure Placed (n : Nat) (spec : Option (SceneSpec α)) (fields : Fields α) (e : Nat)
    (w : World α) : Prop where
  inOrder : w.InOrder n spec
  youngest : ∀ c, w.script? n = some c → ∀ k ∈ c.clickables, k < e
  built : ∃ f, w.entities[e]? = some f ∧ f.BuiltFrom fields

/-- The steps of placing that list nothing leave the new entity as it was placed. -/
theorem SamePlace.placed {fields : Fields α} {e : Nat} {w v : World α} (h : w.SamePlace n v)
    (hw : w.Placed n spec fields e) : v.Placed n spec fields e := by
  refine ⟨h.inOrder hw.inOrder, fun d hd k hk => ?_, ?_⟩
  · obtain ⟨c, hc, -, -, -, hlist⟩ := h.back d hd
    exact hw.youngest c hc k (hlist ▸ hk)
  · obtain ⟨f, hf, hbuilt⟩ := hw.built
    obtain ⟨g, hg, hfg⟩ := h.entities e f hf
    exact ⟨g, hg, hbuilt.trans hfg⟩

/-- An entity is placed as soon as it is made: it has the largest number so far, and no script
lists it. -/
theorem placed_addEntity {fields : Fields α} {entity : Entity α} {w : World α}
    (hw : w.InOrder n spec) (hbuilt : entity.BuiltFrom fields) :
    ({ w with entities := w.entities.push entity } : World α).Placed n spec fields
      w.entities.size := by
  have hsame : w.SamePlace n { w with entities := w.entities.push entity } :=
    SameScripts.samePlace (fun _ => rfl) (moves_addEntity n entity w).entities
  refine ⟨hsame.inOrder hw, fun c hc k hk => ?_, entity, ?_, hbuilt⟩
  · obtain ⟨f, hf, -⟩ := (hw c hc).made k hk
    exact (Array.getElem?_eq_some_iff.1 hf).1
  · exact Array.getElem?_push_size

omit [Scalar α] in
/-- The first step after the making puts the entity into a layer. -/
theorem samePlace_putInLayer (e : Nat) (layer : Layer) :
    (putInLayer n e layer : Act (World α) Unit).Moves (SamePlace n) := by
  refine moves_bind (moves_reaches n _).of_eq fun _ => moves_ite ?_ (moves_pure _)
  exact moves_modify fun _ => SameScripts.samePlace (fun _ => rfl) (.refl _)

/-- Recording an id concerns no button. -/
theorem samePlace_recordId (fields : Fields α) (e : Nat) :
    (recordId n fields e).Moves (SamePlace n) := by
  refine moves_ite (moves_bind (moves_ofExcept _) fun name => fun _ => ?_) (moves_pure _)
  exact samePlace_mapScript (fun _ => rfl) (fun _ => rfl) (fun _ => rfl) fun _ => rfl

/-- An animation that is attached may change how a button looks, but not what it is. -/
theorem samePlace_attachDescribed (fields : Fields α) (e : Nat) :
    (attachDescribed n fields e).Moves (SamePlace n) := by
  have hattach (spec : AnimationSpec α) : (attach n e spec).Moves (SamePlace n) := by
    intro w
    have hown := (moves_attach n e spec w).entities
    rw [after_attach] at hown ⊢
    cases hc : w.script? n with
    | none => exact refl w
    | some c =>
      rw [hc] at hown
      refine ⟨hown, fun d hd => ?_⟩
      obtain ⟨c', hc', rfl⟩ := exists_of_mapScript hd
      exact ⟨c', hc', rfl, rfl, rfl, rfl⟩
  unfold attachDescribed
  refine moves_ite (moves_bind ((moves_liftLog _).mono fun _ _ h => h.samePlace) fun spec => ?_)
    (moves_pure _)
  split
  · exact hattach _
  · exact moves_pure _

/-- A new button is listed last, as the youngest.  The number of the new entity is larger than all
that are listed, so the list stays sorted with it at the end. -/
theorem inOrder_recordButton {fields : Fields α} {e : Nat} {w : World α}
    (hw : w.Placed n spec fields e)
    (hfields : ∀ c, w.script? n = some c → fields ∈ c.descriptions) :
    ((recordButton n e).after w).InOrder n spec := by
  obtain ⟨f, hf, hbuilt⟩ := hw.built
  unfold recordButton
  rw [after_bind_of_ok (by rw [run_entityAt, hf])]
  split
  · next hbutton =>
    intro d hd
    obtain ⟨c, hc, rfl⟩ := exists_of_mapScript hd
    obtain ⟨hspec, hindex, hnameless, hordered, hmade⟩ := hw.inOrder c hc
    refine ⟨hspec, hindex, hnameless, ?_, fun k hk => ?_⟩
    · rw [List.pairwise_append]
      refine ⟨hordered, List.pairwise_singleton _ _, fun k hk j hj => ?_⟩
      rw [List.mem_singleton.1 hj]
      exact hw.youngest c hc k hk
    · rcases List.mem_append.1 hk with hk | hk
      · exact hmade k hk
      · rw [List.mem_singleton.1 hk]
        exact ⟨f, hf, hbutton, fields, hfields c hc, hbuilt⟩
  · exact hw.inOrder

/-- What is recorded of a placed entity leaves the script in order. -/
theorem inOrder_record {fields : Fields α} {e : Nat} (layer : Layer)
    (hfields : ∀ c : Script α, c.spec = spec → fields ∈ c.descriptions) :
    Spec (Placed n spec fields e) (do
      putInLayer n e layer
      recordId n fields e
      recordButton n e
      attachDescribed n fields e) (fun _ => InOrder n spec) (InOrder n spec) := by
  have hkeep {x : Act (World α) Unit} (hx : x.Moves (SamePlace n)) :
      Spec (Placed n spec fields e) x (fun _ => Placed n spec fields e) (InOrder n spec) :=
    Spec.mono (spec_of_after fun w hw => (hx w).placed hw) (fun _ h => h) (fun _ _ h => h)
      fun _ h => h.inOrder
  refine spec_bind (hkeep (samePlace_putInLayer e layer)) fun _ => ?_
  refine spec_bind (hkeep (samePlace_recordId fields e)) fun _ => ?_
  refine spec_bind (spec_of_after fun w hw => ?_) fun _ => ?_
  · exact inOrder_recordButton hw fun c hc => hfields c (hw.inOrder c hc).spec
  · exact (inOrder_of_samePlace (samePlace_attachDescribed fields e)).spec

/-- An entity that is built from one of the descriptions of the scene is placed in order, whatever
fails on the way. -/
theorem inOrder_placeEntity (layer : Layer) {fields : Fields α}
    (hfields : ∀ c : Script α, c.spec = spec → fields ∈ c.descriptions) :
    (placeEntity n layer fields).Keeps (InOrder n spec) := by
  unfold placeEntity
  refine keeps_bind (inOrder_of_offDepot (moves_workshopOf n).of_eq) fun shop w hw => ?_
  have ht := inOrder_of_offDepot (moves_liftLog (shop.build fields)) w hw
  refine after_bind_cases ht fun built t hbuild => ?_
  rw [after_eq_of_run hbuild] at ht
  cases built with
  | none => exact ht
  | some entity =>
    have hbuilt : entity.BuiltFrom fields :=
      ⟨shop, w.depot.device.log, _, entity, run_of_liftLog hbuild, .refl _⟩
    dsimp only
    rw [after_bind_of_ok (run_addEntity t entity)]
    exact (inOrder_record layer hfields).after (placed_addEntity ht hbuilt)

/-- So are all that a state lists, one layer after the other. -/
theorem inOrder_placeState {state : StateSpec α}
    (hstate : ∀ c : Script α, c.spec = spec → state ∈ c.states) :
    (placeState n state).Keeps (InOrder n spec) := by
  refine keeps_forM _ fun entry hentry => ?_
  obtain ⟨name, descriptions⟩ := entry
  change (placeLayer n state.name name descriptions).Keeps _
  unfold placeLayer
  split
  · refine keeps_forM _ fun fields hfields => inOrder_placeEntity _ fun c hc => ?_
    exact List.mem_flatMap.2 ⟨state, hstate c hc, List.mem_flatMap.2 ⟨_, hentry, hfields⟩⟩
  · exact inOrder_of_offDepot (moves_sayFor n _)

/-- A script without buttons has them in order. -/
theorem inOrder_dropTracking :
    (modifyScript n (·.dropTracking) : Act (World α) Unit).Keeps (InOrder n spec) := by
  intro w hw d hd
  obtain ⟨c, hc, rfl⟩ := exists_of_mapScript hd
  exact ⟨(hw c hc).spec, (hw c hc).index, (hw c hc).nameless, List.Pairwise.nil, nofun⟩

/-- To empty the layers lists nothing. -/
theorem inOrder_clearStage : (clearStage n : Act (World α) Unit).Keeps (InOrder n spec) := by
  unfold clearStage
  refine keeps_bind (inOrder_of_offDepot (moves_reaches n _).of_eq) fun _ =>
    keeps_ite (fun _ => ?_) fun _ => inOrder_dropTracking
  refine keeps_bind (inOrder_of_samePlace ?_) fun _ => inOrder_dropTracking
  exact moves_modify fun _ => SameScripts.samePlace (fun _ => rfl) (.refl _)

/-- An activation drops the records if the state clears, and then places the state. -/
theorem inOrder_activate {state : StateSpec α}
    (hstate : ∀ c : Script α, c.spec = spec → state ∈ c.states) :
    (activate n state).Keeps (InOrder n spec) := by
  unfold activate
  refine keeps_bind (inOrder_of_samePlace fun w => ?_) fun _ => ?_
  · exact samePlace_mapScript (fun _ => rfl) (fun _ => rfl) (fun _ => rfl) fun _ => rfl
  refine keeps_ite (fun _ => ?_) fun _ => inOrder_placeState hstate
  exact keeps_bind inOrder_clearStage fun _ => inOrder_placeState hstate

/-! ## 4. The works of a scene

The works of a scene, once more, each with its own reason to keep the order. -/

/-- A change of the script that leaves its list of buttons and goes to an existing state. -/
theorem inOrder_modifyScript {f : Script α → Script α} (hspec : ∀ c, (f c).spec = c.spec)
    (hindex : ∀ c : Script α, c.spec = spec → c.states ≠ [] → c.index < c.states.length →
      (f c).index < c.states.length)
    (hname : ∀ c : Script α, c.spec = spec → c.states = [] → (f c).stateName = c.stateName)
    (hlist : ∀ c, (f c).clickables = c.clickables) :
    (modifyScript n f).Keeps (InOrder n spec) := by
  intro w hw d hd
  obtain ⟨c, hc, rfl⟩ := exists_of_mapScript hd
  obtain ⟨hcspec, hcindex, hnameless, hordered, hmade⟩ := hw c hc
  have hstates : (f c).states = c.states := Script.states_eq (hspec c)
  refine ⟨(hspec c).trans hcspec, ?_, ?_, (hlist c).symm ▸ hordered, fun e he => ?_⟩
  · rw [hstates]
    exact fun hne => hindex c hcspec hne (hcindex hne)
  · rw [hstates]
    exact fun hnone => (hname c hcspec hnone).trans (hnameless hnone)
  · rw [Script.descriptions_eq (hspec c)]
    exact hmade e (hlist c ▸ he)

/-- A state that is switched to is one of the document, and its number is in range.  The number is
that of the state that was found, so it is in range; activating the state places entities of the
document only. -/
theorem inOrder_switchToState (name : Value α) :
    (switchToState n name).Keeps (InOrder n spec) := by
  intro w hw
  unfold switchToState
  cases hc : w.script? n with
  | none =>
    rw [after_bind_of_error (by rw [run_scriptAt, hc])]
    exact hw
  | some c =>
    have hstates (d : Script α) (hd : d.spec = spec) : d.states = c.states :=
      Script.states_eq (hd.trans (hw c hc).spec.symm)
    rw [after_bind_of_ok (by rw [run_scriptAt, hc])]
    split
    · exact inOrder_of_offDepot (moves_bind (moves_ofExcept _) fun _ => moves_sayFor n _) w hw
    · next index hindex =>
      obtain ⟨hlt, -⟩ := List.findIdx?_eq_some_iff_getElem.1 hindex
      refine keeps_bind (keeps_ofExcept _) (fun stateName => ?_) w hw
      refine keeps_bind (inOrder_of_offDepot (moves_sayFor n _)) fun _ => ?_
      refine keeps_bind (inOrder_modifyScript (fun _ => rfl) (fun d hd _ _ => ?_)
        (fun d hd hnone => ?_) fun _ => rfl) fun _ => ?_
      · rw [hstates d hd]
        exact hlt
      · rw [← hstates d hd, hnone] at hlt
        cases hlt
      · split
        · next state hstate =>
          refine inOrder_activate fun d hd => ?_
          rw [hstates d hd]
          exact List.mem_of_getElem? hstate
        · exact keeps_pure _

/-- A scene that enters goes back to its first state, if there is one.  Going back sets the number
to zero, which is in range if there is any state at all. -/
theorem inOrder_enterScript : (enterScript n : Act (World α) Unit).Keeps (InOrder n spec) := by
  unfold enterScript
  refine keeps_bind (inOrder_modifyScript (fun _ => rfl) (fun c _ hne _ => ?_) (fun _ _ _ => rfl)
    fun _ => rfl) fun _ w hw => ?_
  · exact List.length_pos_iff.2 hne
  · cases hc : w.script? n with
    | none =>
      rw [after_bind_of_error (by rw [run_scriptAt, hc])]
      exact hw
    | some c =>
      rw [after_bind_of_ok (by rw [run_scriptAt, hc])]
      split
      · exact hw
      · next first rest hstates =>
        have hsame (d : Script α) (hd : d.spec = spec) : d.states = first :: rest :=
          (Script.states_eq (hd.trans (hw c hc).spec.symm)).trans hstates
        have hset : (modifyScript n fun s => { s with stateName := some first.name }).Keeps
            (InOrder n spec) := by
          refine inOrder_modifyScript (fun _ => rfl) (fun _ _ _ hlt => hlt) (fun d hd hnone => ?_)
            fun _ => rfl
          rw [hsame d hd] at hnone
          cases hnone
        exact keeps_bind hset (fun _ => inOrder_of_offDepot (moves_sayFor n _)) w hw

/-- To populate is to activate the first state. -/
theorem inOrder_populateScript :
    (populateScript n : Act (World α) Unit).Keeps (InOrder n spec) := by
  intro w hw
  unfold populateScript
  cases hc : w.script? n with
  | none =>
    rw [after_bind_of_error (by rw [run_scriptAt, hc])]
    exact hw
  | some c =>
    rw [after_bind_of_ok (by rw [run_scriptAt, hc])]
    split
    · exact hw
    · next first rest hstates =>
      refine inOrder_activate (fun d hd => ?_) w hw
      rw [Script.states_eq (hd.trans (hw c hc).spec.symm), hstates]
      exact List.mem_cons_self

/-- As time passes the timer and the animations move, and no button is made. -/
theorem samePlace_advance (dt : α) : (advance n dt).Moves (SamePlace n) := by
  intro w
  have hown := (moves_advance n dt w).entities
  cases hc : w.script? n with
  | none =>
    refine ⟨hown, fun d hd => ?_⟩
    obtain ⟨c, hc'⟩ := (moves_advance n dt w).script?_back hd
    rw [hc] at hc'
    cases hc'
  | some c =>
    rw [after_eq_of_run (run_advance n dt hc)] at hown ⊢
    refine ⟨hown, fun d hd => ?_⟩
    obtain ⟨c', hc', rfl⟩ := exists_of_mapScript hd
    change (w.mapScript n _).script? n = some c' at hc'
    obtain ⟨c'', hc'', rfl⟩ := exists_of_mapScript hc'
    exact ⟨c'', hc'', rfl, rfl, rfl, rfl⟩

/-- A work has to be looked at only where the scene is a scripted one; elsewhere it leaves the
scripts as they are. -/
theorem inOrder_of_script {x : Act (World α) Unit} (hx : x.Moves (OwnWork n))
    (h : ∀ w s c, w.scenes[n]? = some s → s.role = .scripted c → w.InOrder n spec →
      (x.after w).InOrder n spec) : x.Keeps (InOrder n spec) :=
  after_of_script n (fun _ => inOrder_of_none) hx h

/-- Setting up loads assets, which lists no button. -/
theorem inOrder_start [Host α] : (start n : Act (World α) Unit).Keeps (InOrder n spec) := by
  have hsetUp : (setUp n : Act (World α) Unit).Keeps (InOrder n spec) := by
    refine inOrder_of_script (moves_setUp n) fun w s c hs hr hw => ?_
    unfold setUp
    rw [after_bind_of_ok (by rw [run_sceneAt, hs]), hr]
    exact inOrder_of_offDepot (moves_preload n) w hw
  unfold start
  refine keeps_bind (inOrder_of_offDepot (moves_sceneAt n).of_eq) fun s =>
    keeps_ite (fun _ => ?_) fun _ => keeps_pure _
  refine keeps_bind hsetUp fun _ => inOrder_of_samePlace fun w => ?_
  exact SameScripts.samePlace (fun m => script?_modifyScene w n m fun _ => rfl) (.refl _)

/-- The hook of entering, for scenes of any role. -/
theorem inOrder_callEnter [Host α] : (callEnter n : Act (World α) Unit).Keeps (InOrder n spec) := by
  refine inOrder_of_script (moves_callEnter n) fun w s c hs hr hw => ?_
  unfold callEnter
  rw [after_bind_of_ok (by rw [run_sceneAt, hs]), hr]
  exact keeps_bind inOrder_start (fun _ => inOrder_enterScript) w hw

/-- The hook of populating. -/
theorem inOrder_callPopulate : (callPopulate n : Act (World α) Unit).Keeps (InOrder n spec) := by
  refine inOrder_of_script (moves_callPopulate n) fun w s c hs hr hw => ?_
  unfold callPopulate
  rw [after_bind_of_ok (by rw [run_sceneAt, hs]), hr]
  exact inOrder_populateScript w hw

/-- A scene that leaves lists nothing any more. -/
theorem inOrder_callLeave : (callLeave n : Act (World α) Unit).Keeps (InOrder n spec) := by
  refine inOrder_of_script (moves_callLeave n) fun w s c hs hr hw => ?_
  unfold callLeave
  rw [after_bind_of_ok (by rw [run_sceneAt, hs]), hr]
  refine keeps_bind inOrder_dropTracking (fun _ => inOrder_of_samePlace fun v => ?_) w hw
  exact (moves_giveBack_backstage n v).scripts.samePlace (moves_giveBack n v).entities

/-- A game is no script, and leaves all scripts alone. -/
theorem inOrder_stepPong (dt : α) : (stepPong n dt).Keeps (InOrder n spec) := by
  refine inOrder_of_script (moves_stepPong n dt) fun w s c hs hr hw => ?_
  unfold stepPong
  rw [after_bind_of_error (run_pongAt_of_script (script?_eq_some.2 ⟨s, hs, hr⟩))]
  exact hw

/-- One case for each work; for a scene of another number the script is not touched. -/
theorem Work.inOrder [Host α] {m : Nat} {w v : World α} (h : Work m w v) (hw : w.InOrder n spec) :
    v.InOrder n spec := by
  by_cases hm : m = n
  · subst hm
    cases h with
    | enter => exact inOrder_callEnter w hw
    | populate => exact inOrder_callPopulate w hw
    | switchState name => exact inOrder_switchToState name w hw
    | advance dt => exact (samePlace_advance dt w).inOrder hw
    | play dt => exact inOrder_stepPong dt w hw
    | wish hs hr =>
      exact inOrder_of_none ((ownWork_nextWish hs hr).script?_eq_none (script?_of_witness hs hr))
  · exact h.ownWork.inOrder hm hw

/-- A beat is a work, or it leaves the place of every script alone. -/
theorem Beat.inOrder [Host α] {w v : World α} (h : Beat w v) (hw : w.InOrder n spec) :
    v.InOrder n spec := by
  cases h with
  | outside h =>
    refine SamePlace.inOrder (SameScripts.samePlace (fun m => ?_) ?_) hw
    · unfold script?
      rw [h.scenes]
    · rw [h.entities]
      exact .refl _
  | work _ h => exact h.inOrder hw
  | bound m =>
    exact ((moves_callBind_backstage m w).scripts.samePlace (moves_callBind m w).entities).inOrder hw
  | left m =>
    by_cases hm : m = n
    · subst hm
      exact inOrder_callLeave w hw
    · exact (moves_callLeave m w).inOrder hm hw

/-! ## 5. Runs

By induction on the history, for the document that the scene has at the start. -/

/-- In a fresh world every script is in order: it has no buttons and is at its first state. -/
theorem Fresh.exists_inOrder {start : World α} (h : start.Fresh) (n : Nat) :
    ∃ spec, start.InOrder n spec := by
  cases hc : start.script? n with
  | none => exact ⟨none, inOrder_of_none hc⟩
  | some c =>
    refine ⟨c.spec, fun d hd => ?_⟩
    obtain rfl : c = d := Option.some.inj (hc.symm.trans hd)
    rw [h.untouched n c hc]
    exact ⟨rfl, List.length_pos_iff.2, fun _ => rfl, List.Pairwise.nil, nofun⟩

/-- **In every history the script of a scene stays in order.** -/
theorem History.inOrder [Host α] {start : World α} (hstart : start.InOrder n spec) :
    ∀ {w : World α}, History start w → w.InOrder n spec
  | _, .start => hstart
  | _, .beat h hv => hv.inOrder (h.inOrder hstart)
  | _, .turn h _ => h.inOrder hstart

end Acts

end World

end Diorama
