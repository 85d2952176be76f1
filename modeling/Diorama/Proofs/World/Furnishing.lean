/-
# What is shown is there

In a playhouse every scene plays a document, and a scene that plays a document puts nothing into a
layer but entities.  An entity is made before it is placed, and none ever disappears.  So in every
history of a playhouse whatever is in a layer is an entity that exists (`History.furnished`).

It is enough to look at the moment at which an entity is placed (`places_furnishes`): nothing else
adds anything to a layer.
-/
import Diorama.Proofs.World.Stock

namespace Diorama

open Act

variable {α : Type}

namespace World

/-! ## 1. Furnished worlds

Something is in a layer if it was put there, so the condition is about the past; but it can be
checked at each moment, because entities last. -/

/-- The thing is an entity, and the entity is there. -/
def IsThere (o : Occupant) (w : World α) : Prop := ∃ k e, o = .entity k ∧ w.entities[k]? = some e

/-- Everything in a layer is there. -/
def Furnished (w : World α) : Prop := ∀ o, w.Holds o → w.IsThere o

/-- The entities last, and what has come into a layer is one of them. -/
structure Furnishes (w v : World α) : Prop where
  entities : SameButtons w.entities v.entities
  placed : ∀ o, v.Holds o → w.Holds o ∨ v.IsThere o

theorem IsThere.mono {o : Occupant} {w v : World α} (h : SameButtons w.entities v.entities)
    (hw : w.IsThere o) : v.IsThere o := by
  obtain ⟨k, e, ho, he⟩ := hw
  obtain ⟨f, hf, -⟩ := h k e he
  exact ⟨k, f, ho, hf⟩

instance : IsPreorder (World α) Furnishes where
  refl _ := ⟨.refl _, fun _ => Or.inl⟩
  trans u v w h h' := by
    refine ⟨h.entities.trans h'.entities, fun o ho => ?_⟩
    rcases h'.placed o ho with hv | hw
    · exact (h.placed o hv).imp id (·.mono h'.entities)
    · exact Or.inr hw

theorem Furnishes.furnished {w v : World α} (h : w.Furnishes v) (hw : w.Furnished) :
    v.Furnished := by
  intro o ho
  rcases h.placed o ho with hold | hnew
  · exact (hw o hold).mono h.entities
  · exact hnew

/-- The layers are left alone. -/
theorem SameLayers.furnishes {w v : World α} (h : w.SameLayers v)
    (he : SameButtons w.entities v.entities) : w.Furnishes v := by
  refine ⟨he, fun o ho => Or.inl ?_⟩
  unfold Holds at ho
  rw [h] at ho
  exact ho

theorem OffDepot.furnishes {w v : World α} (h : w.OffDepot v) : w.Furnishes v :=
  h.sameLayers.furnishes (h.ownWork 0).entities

/-! ## 2. Placing

Between the making of an entity and its placing nothing is put into a layer, and then it is this
entity that is placed. -/

section Works

variable {n : Nat}

theorem chores_furnishes : Chores (α := α) n Furnishes where
  liftLog x := (moves_liftLog x).mono fun _ _ h => h.furnishes
  device x := (moves_onDevice x).mono fun _ _ h => h.furnishes
  script _ _ _ _ := moves_modify fun _ => SameLayers.furnishes rfl (.refl _)
  animate _ := moves_modify fun _ => SameLayers.furnishes rfl (.refl _)
  game _ := moves_modify fun _ => SameLayers.furnishes rfl (.refl _)
  entities h := SameLayers.furnishes rfl h

/-- An entity that is there is put into a layer. -/
theorem furnishes_putInLayer {e : Nat} {layer : Layer} {w : World α} {f : Entity α}
    (he : w.entities[e]? = some f) : w.Furnishes ((putInLayer n e layer).after w) := by
  unfold putInLayer
  refine after_bind_cases ?_ fun b t hr => ?_
  · rw [← moves_reaches n .compositor w]
    exact refl w
  · obtain rfl : w = t := (moves_reaches n .compositor w).trans (after_eq_of_run hr)
    split
    · refine ⟨.refl _, fun o ho => ?_⟩
      obtain ⟨l, hl⟩ := ho
      rcases (Compositor.mem_items_add _ _ _ _ _).1 hl with hold | ⟨-, rfl⟩
      · exact Or.inl ⟨l, hold⟩
      · exact Or.inr ⟨e, f, rfl, he⟩
    · exact refl w

variable [Scalar α]

/-- Placing an entity adds to the layers nothing but this entity: it is in the table before its
number is put into a layer. -/
theorem furnishes_placeEntity (layer : Layer) (fields : Fields α) :
    (placeEntity n layer fields).Moves Furnishes := by
  unfold placeEntity
  refine moves_bind (moves_workshopOf n).of_eq fun shop => ?_
  refine moves_bind (chores_furnishes.liftLog (n := n) _) fun built => ?_
  split
  · exact moves_pure _
  · next entity =>
    intro w
    rw [after_bind_of_ok (run_addEntity w entity)]
    have hadd : w.Furnishes { w with entities := w.entities.push entity } :=
      (chores_furnishes (n := n)).addEntity entity w
    have hput : w.Furnishes
        ((putInLayer n w.entities.size layer).after
          { w with entities := w.entities.push entity }) :=
      Trans.trans hadd (furnishes_putInLayer (f := entity) Array.getElem?_push_size)
    refine after_bind_cases hput fun _ t hr => ?_
    rw [after_eq_of_run hr] at hput
    refine Trans.trans hput (moves_bind (chores_furnishes.recordId fields _) (fun _ => ?_) t)
    exact moves_bind (chores_furnishes.recordButton _) fun _ =>
      chores_furnishes.attachDescribed fields _

theorem places_furnishes : Places (α := α) n Furnishes where
  toNotes := chores_furnishes.toNotes
  empty := moves_modify fun _ => ⟨.refl _, fun o ho => (not_holds_empty rfl o ho).elim⟩
  place := furnishes_placeEntity

theorem furnishes_start [Host α] {w : World α} {s : Scene α} {c : Script α}
    (hs : w.scenes[n]? = some s)
    (hr : s.role = .scripted c) : w.Furnishes ((start n).after w) := by
  cases hnew : s.started with
  | true =>
    unfold start
    rw [after_bind_of_ok (by rw [run_sceneAt, hs]), hnew]
    exact refl w
  | false =>
    rw [Act.after, run_start_of_new hs hr hnew]
    refine moves_bind ((moves_preload n).mono fun _ _ h => h.furnishes) (fun _ => ?_) w
    exact moves_modify fun _ => SameLayers.furnishes rfl (.refl _)

/-! ## 3. Histories

By induction on the history; a turn empties the layers, and what is in no layer need not be there. -/

omit [Scalar α] in
/-- In a playhouse it is enough to look at the scenes that play a document. -/
theorem furnishes_ofScene {w : World α} (hw : w.Playhouse) {f : Scene α → Act (World α) Unit}
    (h : ∀ s c, w.scenes[n]? = some s → s.role = .scripted c → w.Furnishes ((f s).after w)) :
    w.Furnishes ((sceneAt n >>= f).after w) := by
  cases hs : w.scenes[n]? with
  | none =>
    rw [after_bind_of_error (by rw [run_sceneAt, hs])]
    exact refl w
  | some s =>
    rw [after_bind_of_ok (by rw [run_sceneAt, hs])]
    obtain ⟨c, hr⟩ := hw.scripted n s hs
    exact h s c hs hr

/-- A scene that plays a document adds nothing to the layers but entities.  A scene that plays a
document has no wishes, so that work cannot be its own. -/
theorem Work.furnishes [Host α] {w v : World α} (hw : w.Playhouse) (h : Work n w v) :
    w.Furnishes v := by
  cases h with
  | enter =>
    refine furnishes_ofScene hw fun s c hs hr => ?_
    rw [hr]
    refine after_bind_cases (furnishes_start hs hr) fun _ t ht => ?_
    have hstart := furnishes_start hs hr
    rw [after_eq_of_run ht] at hstart
    exact Trans.trans hstart (chores_furnishes.enterScript t)
  | populate =>
    refine furnishes_ofScene hw fun s c hs hr => ?_
    rw [hr]
    exact places_furnishes.populateScript w
  | switchState name => exact places_furnishes.switchToState name w
  | advance dt => exact chores_furnishes.advance dt w
  | play dt => exact chores_furnishes.strokes.stepPong dt w
  | wish hs hr =>
    obtain ⟨c, hc⟩ := hw.scripted n _ hs
    cases hc.symm.trans hr

end Works

section Histories

variable [Scalar α]

theorem Beat.furnishes [Host α] {w v : World α} (hw : w.Playhouse) (h : Beat w v) :
    w.Furnishes v := by
  cases h with
  | outside h =>
    refine SameLayers.furnishes h.compositor ?_
    rw [h.entities]
    exact .refl _
  | work _ h => exact h.furnishes hw
  | bound n => exact (moves_callBind_backstage n w).layers.furnishes (moves_callBind n w).entities
  | left n => exact (moves_callLeave_sameLayers n w).furnishes (moves_callLeave n w).entities

/-- **In every history of a playhouse whatever is shown is there.** -/
theorem History.furnished [Host α] {start : World α} (hstart : start.Fresh)
    (hhouse : start.Playhouse) :
    ∀ {w : World α}, History start w → w.Playhouse ∧ w.Furnished
  | _, .start => ⟨hhouse, fun o ho => (not_holds_empty hstart.blank o ho).elim⟩
  | _, .turn h _ => by
    obtain ⟨hw, -⟩ := h.furnished hstart hhouse
    exact ⟨⟨hw.parts, hw.scripted⟩, fun o ho => (not_holds_empty rfl o ho).elim⟩
  | _, .beat h hv => by
    obtain ⟨hw, hfurnished⟩ := h.furnished hstart hhouse
    exact ⟨hv.ages.playhouse hw, (hv.furnishes hw).furnished hfurnished⟩

end Histories

end World

end Diorama
