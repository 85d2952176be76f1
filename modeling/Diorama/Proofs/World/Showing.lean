/-
# What is tracked is shown

A script keeps track of entities in three places: under their ids, as buttons, and as things that
an animation moves.  `World.Shows n` says that each of them is in some layer.

Every act of a scripted scene that can reach the engine keeps this, at every moment at which it
can stop: an entity is put into its layer before it is recorded anywhere, and the layers are
emptied only together with the records.
-/
import Diorama.Proofs.World.OwnWork

namespace Diorama

open Act

variable {α : Type}

/-! ## 1. Tracking

What is in a table after something was put there, for each of the tables that a script keeps:
nothing but what was there and the new entry. -/

namespace Script

/-- The entities that a script keeps track of. -/
def tracked (c : Script α) : List Nat :=
  c.ids.map (·.2) ++ c.clickables ++ c.motions.entries.map (·.1)

/-- After its records are dropped a script tracks nothing. -/
theorem tracked_dropTracking (c : Script α) : c.dropTracking.tracked = [] := rfl

end Script

/-- A table has gained at most the entry that was put there. -/
theorem Table.mem_put {β : Type} {t : Table β} {name : String} {v : β} {p : String × β}
    (h : p ∈ t.put name v) : p ∈ t ∨ p = (name, v) := by
  unfold Table.put at h
  split at h
  · obtain ⟨q, hq, hp⟩ := List.mem_map.1 h
    split at hp
    · exact Or.inr hp.symm
    · exact Or.inl (hp ▸ hq)
  · simpa using h

/-- A table of animations has gained at most the one that was put there. -/
theorem Motions.mem_put {a : Motions α} {i : Nat} {m : Animation α} {p : Nat × Animation α}
    (h : p ∈ (a.put i m).entries) : p ∈ a.entries ∨ p = (i, m) := by
  unfold Motions.put at h
  split at h
  · obtain ⟨q, hq, hp⟩ := List.mem_map.1 h
    split at hp
    · exact Or.inr hp.symm
    · exact Or.inl (hp ▸ hq)
  · simpa using h

section Motions

variable [Scalar α]

/-- To attach an animation adds one for the entity it is attached to, if it adds one at all. -/
theorem Motions.mem_attach {ε : Type} [Posed ε α] {a : Motions α} {i : Nat}
    {spec : AnimationSpec α} {canvas : α × α} {es : Array ε} {p : Nat × Animation α}
    (h : p ∈ (a.attach i spec canvas es).1.entries) : p ∈ a.entries ∨ p.1 = i := by
  unfold Motions.attach at h
  split at h
  · exact Or.inl h
  · rcases Motions.mem_put h with h | h
    · exact Or.inl h
    · exact Or.inr (by rw [h])

/-- Time moves the things that are animated and no other. -/
theorem Motions.keys_stepAll {ε : Type} [Posed ε α] (dt : α) :
    ∀ (ms : List (Nat × Animation α)) (things : Array ε),
      (Motions.stepAll dt ms things).1.map (·.1) = ms.map (·.1)
  | [], _ => rfl
  | (i, m) :: rest, things => by
    unfold Motions.stepAll
    split
    · simp only [List.map_cons, Motions.keys_stepAll dt rest things]
    · split
      · rfl
      · simp only [List.map_cons, Motions.keys_stepAll dt rest _]

end Motions

/-- A layer has gained the occupant if it was put there, and nothing else. -/
theorem Compositor.mem_items_add (c : Compositor Occupant) (o i : Occupant) (l m : Layer) :
    o ∈ (c.add i l).items m ↔ o ∈ c.items m ∨ l = m ∧ o = i := by
  unfold Compositor.add
  split
  · next hi =>
    constructor
    · exact Or.inl
    · rintro (h | ⟨rfl, rfl⟩)
      · exact h
      · exact hi
  · rw [items_setItems]
    split
    · next hlm =>
      subst hlm
      simp
    · next hlm =>
      simp [hlm]

namespace World

/-! ## 2. Shown entities

`Shows` speaks of one scene and the layers.  It needs the scene to reach the layers (`Onstage`):
an entity that is recorded but could not be put into a layer would be a counterexample. -/

/-- A thing is in some layer. -/
def Holds (w : World α) (o : Occupant) : Prop := ∃ l, o ∈ w.compositor.items l

/-- Everything that a scene keeps track of is in some layer; a scene without a script keeps track
of nothing. -/
def Shows (n : Nat) (w : World α) : Prop :=
  ∀ c, w.script? n = some c → ∀ e ∈ c.tracked, w.Holds (.entity e)

/-- A scene is there, and it can reach every part of the engine. -/
def Onstage (n : Nat) (w : World α) : Prop :=
  w.missing = [] ∧ ∃ s, w.scenes[n]? = some s ∧ s.bound = true

/-- No work takes a scene off the stage. -/
theorem Onstage.ownWork {n m : Nat} {w v : World α} (h : w.Onstage n) (hv : w.OwnWork m v) :
    v.Onstage n := by
  obtain ⟨hparts, s, hs, hb⟩ := h
  obtain ⟨t, ht, hst⟩ := hv.scenes n s hs
  exact ⟨hv.missing.trans hparts, t, ht, hst.bound hb⟩

/-- From the stage every part of the engine is in reach. -/
theorem Onstage.run_reaches {n : Nat} {w : World α} (h : w.Onstage n) (p : Part) :
    (reaches n p).run w = (.ok true, w) := by
  obtain ⟨hparts, s, hs, hb⟩ := h
  rw [World.run_reaches, hs]
  simp [hb, hasPart, hparts]

/-- A scene without a script does not get one. -/
theorem Ages.script?_eq_none {w v : World α} (h : w.Ages v) {n : Nat} (hn : w.script? n = none) :
    v.script? n = none := by
  cases hd : v.script? n with
  | none => rfl
  | some d =>
    obtain ⟨t, ht, hr⟩ := script?_eq_some.1 hd
    have hlt : n < w.scenes.size := h.size ▸ (Array.getElem?_eq_some_iff.1 ht).1
    obtain ⟨t', ht', hst⟩ := h.scenes n w.scenes[n] (Array.getElem?_eq_getElem hlt)
    rw [ht] at ht'
    cases ht'
    have hrole : w.scenes[n].role.Lasts (.scripted d) := hr ▸ hst.role
    generalize hs : w.scenes[n].role = r at hrole
    cases hrole with
    | scripted _ _ _ =>
      rw [script?_eq_some.2 ⟨_, Array.getElem?_eq_getElem hlt, hs⟩] at hn
      cases hn

/-- A script that is there now was there before. -/
theorem Ages.script?_back {w v : World α} (h : w.Ages v) {n : Nat} {d : Script α}
    (hd : v.script? n = some d) : ∃ c, w.script? n = some c := by
  cases hc : w.script? n with
  | some c => exact ⟨c, rfl⟩
  | none =>
    rw [h.script?_eq_none hc] at hd
    cases hd

/-- A scene without a script has nothing to show. -/
theorem shows_of_none {w : World α} {n : Nat} (hn : w.script? n = none) : w.Shows n := by
  intro c hc
  rw [hn] at hc
  cases hc

/-- What happens in the depot hides nothing. -/
theorem Shows.offDepot {n : Nat} {w v : World α} (h : w.Shows n) (hv : w.OffDepot v) :
    v.Shows n := by
  rw [hv]
  exact h

/-- A script may come to track what is shown. -/
theorem Shows.mapScript {n : Nat} {w : World α} (h : w.Shows n) {f : Script α → Script α}
    (hf : ∀ c, ∀ e ∈ (f c).tracked, e ∈ c.tracked ∨ w.Holds (.entity e)) :
    (w.mapScript n f).Shows n := by
  intro c hc e he
  obtain ⟨d, hd, rfl⟩ := exists_of_mapScript hc
  rcases hf d e he with hd' | hw
  · exact h d hd e hd'
  · exact hw

/-- The condition that a scripted scene's own work keeps. -/
def Stands (n : Nat) (w : World α) : Prop := w.Onstage n ∧ w.Shows n

/-- An act keeps `Stands` if it is the scene's own work and keeps `Shows`. -/
theorem keeps_stands {n : Nat} {β : Type} {x : Act (World α) β} (hx : x.Moves (OwnWork n))
    (h : ∀ w, w.Stands n → (x.after w).Shows n) : x.Keeps (Stands n) :=
  fun w hw => ⟨hw.1.ownWork (hx w), h w hw⟩

/-- An act in the depot keeps the scene standing. -/
theorem stands_of_offDepot {n : Nat} {β : Type} {x : Act (World α) β} (hx : x.Moves OffDepot) :
    x.Keeps (Stands n) :=
  keeps_stands (hx.ownWork n) fun w hw => hw.2.offDepot (hx w)

/-- An act that changes nothing keeps it in particular. -/
theorem stands_of_eq {n : Nat} {β : Type} {x : Act (World α) β} (hx : x.Moves Eq) :
    x.Keeps (Stands n) := stands_of_offDepot hx.of_eq

/-- A script may be changed in any way by which it does not track anything new. -/
theorem stands_modifyScript {n : Nat} {f : Script α → Script α} (hspec : ∀ c, (f c).spec = c.spec)
    (hhandles : ∀ c, (f c).handlesCustom = c.handlesCustom)
    (hact : ∀ c, c.activations ≤ (f c).activations) (hf : ∀ c, ∀ e ∈ (f c).tracked, e ∈ c.tracked) :
    (modifyScript n f).Keeps (Stands n) :=
  keeps_stands (moves_modifyScript n hspec hhandles hact) fun _ hw =>
    hw.2.mapScript fun c e he => Or.inl (hf c e he)

/-! ## 3. Placing shows what it records

While an entity is placed, `StandsWith` adds that it is in its layer already.  That makes it safe
to record it under its id, as a button and with its animation, in any order and with a fault after
any of them. -/

/-- The scene stands, and one more entity is in some layer. -/
def StandsWith (n e : Nat) (w : World α) : Prop := w.Stands n ∧ w.Holds (.entity e)

/-- After the first step the entity is in its layer. -/
theorem spec_putInLayer (n e : Nat) (layer : Layer) :
    Spec (Stands (α := α) n) (putInLayer n e layer) (fun _ => StandsWith n e) (Stands n) := by
  intro w hw
  have hrun : (putInLayer n e layer).run w =
      (.ok (), { w with compositor := w.compositor.add (.entity e) layer }) := by
    unfold putInLayer
    rw [run_bind_of_ok (hw.1.run_reaches .compositor)]
    rfl
  have hold (k : Nat) (hk : w.Holds (.entity k)) :
      { w with compositor := w.compositor.add (.entity e) layer }.Holds (.entity k) := by
    obtain ⟨l, hl⟩ := hk
    exact ⟨l, (Compositor.mem_items_add _ _ _ _ _).2 (Or.inl hl)⟩
  rw [hrun]
  refine ⟨fun b t h => ?_, fun f t h => (by cases h)⟩
  cases h
  refine ⟨⟨hw.1.ownWork (OwnWork.setCompositor (n := n) w _), fun c hc k hk => ?_⟩, ?_⟩
  · exact hold k (hw.2 c hc k hk)
  · exact ⟨layer, (Compositor.mem_items_add _ _ _ _ _).2 (Or.inr ⟨rfl, rfl⟩)⟩

section Record

variable (n e : Nat)

/-- The entity stays in its layer while something happens in the depot. -/
theorem keeps_standsWith_of_offDepot {β : Type} {x : Act (World α) β} (hx : x.Moves OffDepot) :
    x.Keeps (StandsWith n e) := by
  intro w hw
  have h : w.OffDepot (x.after w) := hx w
  refine ⟨stands_of_offDepot hx w hw.1, ?_⟩
  rw [h]
  exact hw.2

/-- With the entity in its layer, the script may begin to track it. -/
theorem keeps_standsWith_modifyScript {f : Script α → Script α} (hspec : ∀ c, (f c).spec = c.spec)
    (hhandles : ∀ c, (f c).handlesCustom = c.handlesCustom)
    (hact : ∀ c, c.activations ≤ (f c).activations)
    (hf : ∀ c, ∀ k ∈ (f c).tracked, k ∈ c.tracked ∨ k = e) :
    (modifyScript n f).Keeps (StandsWith n e) := by
  intro w hw
  refine ⟨⟨hw.1.1.ownWork (OwnWork.mapScript (n := n) hspec hhandles hact), ?_⟩, hw.2⟩
  refine hw.1.2.mapScript fun c k hk => ?_
  rcases hf c k hk with h | rfl
  · exact Or.inl h
  · exact Or.inr hw.2

/-- First record: a button is put on the list of buttons. -/
theorem keeps_recordButton :
    (recordButton n e : Act (World α) Unit).Keeps (StandsWith n e) := by
  refine keeps_bind (keeps_standsWith_of_offDepot n e (moves_entityAt e).of_eq) fun _ => ?_
  refine keeps_ite (fun _ => ?_) fun _ => keeps_pure _
  refine keeps_standsWith_modifyScript n e (fun _ => rfl) (fun _ => rfl) (fun _ => Nat.le_refl _)
    fun c k hk => ?_
  simp only [Script.tracked, List.mem_append, List.mem_singleton] at hk ⊢
  rcases hk with (hk | hk | rfl) | hk
  · exact Or.inl (Or.inl (Or.inl hk))
  · exact Or.inl (Or.inl (Or.inr hk))
  · exact Or.inr rfl
  · exact Or.inl (Or.inr hk)

variable [Scalar α]

/-- Second record: an entity with an id is put into the table of ids. -/
theorem keeps_recordId (fields : Fields α) : (recordId n fields e).Keeps (StandsWith n e) := by
  refine keeps_ite (fun _ => keeps_bind (keeps_ofExcept _) fun id => ?_) fun _ => keeps_pure _
  refine keeps_standsWith_modifyScript n e (fun _ => rfl) (fun _ => rfl) (fun _ => Nat.le_refl _)
    fun c k hk => ?_
  simp only [Script.tracked, List.mem_append, List.mem_map] at hk ⊢
  rcases hk with (⟨p, hp, rfl⟩ | hk) | hk
  · rcases Table.mem_put hp with hp | rfl
    · exact Or.inl (Or.inl (Or.inl ⟨p, hp, rfl⟩))
    · exact Or.inr rfl
  · exact Or.inl (Or.inl (Or.inr hk))
  · exact Or.inl (Or.inr hk)

/-- Third record: an entity is put into the table of animations. -/
theorem keeps_attach (spec : AnimationSpec α) : (attach n e spec).Keeps (StandsWith n e) := by
  intro w hw
  have hown : w.OwnWork n ((attach n e spec).after w) := moves_attach n e spec w
  rw [after_attach] at hown ⊢
  cases hc : w.script? n with
  | none => exact hw
  | some c =>
    rw [hc] at hown
    refine ⟨⟨hw.1.1.ownWork hown, ?_⟩, hw.2⟩
    intro d hd k hk
    obtain ⟨c', hc', rfl⟩ := exists_of_mapScript hd
    obtain rfl : c' = c := Option.some.inj (hc'.symm.trans hc)
    simp only [Script.tracked, List.mem_append, List.mem_map] at hk
    rcases hk with hk | ⟨p, hp, rfl⟩
    · exact hw.1.2 c' hc k (by simp [Script.tracked]; grind)
    · rcases Motions.mem_attach hp with hp | rfl
      · exact hw.1.2 c' hc p.1 (by simp [Script.tracked]; grind)
      · exact hw.2

/-- The animation is the one of the description, if it has one. -/
theorem keeps_attachDescribed (fields : Fields α) :
    (attachDescribed n fields e).Keeps (StandsWith n e) := by
  unfold attachDescribed
  refine keeps_ite (fun _ => ?_) fun _ => keeps_pure _
  refine keeps_bind (keeps_standsWith_of_offDepot n e (moves_liftLog _)) fun spec => ?_
  split
  · exact keeps_attach n e _
  · exact keeps_pure _

end Record

section Activate

variable (n : Nat)

/-- After the records are dropped there is nothing to show. -/
theorem shows_dropTracking (w : World α) : (w.mapScript n (·.dropTracking)).Shows n := by
  intro c hc e he
  obtain ⟨d, -, rfl⟩ := exists_of_mapScript hc
  rw [Script.tracked_dropTracking] at he
  cases he

/-- A property of the script of a scene is checked after a work of the scene only if there is a
script, since no work gives it one. -/
theorem after_of_script {I J : World α → Prop} (hnone : ∀ w, w.script? n = none → J w)
    {x : Act (World α) Unit} (hx : x.Moves (OwnWork n))
    (h : ∀ w s c, w.scenes[n]? = some s → s.role = .scripted c → I w → J (x.after w)) (w : World α)
    (hw : I w) : J (x.after w) := by
  cases hc : w.script? n with
  | none => exact hnone _ ((hx w).script?_eq_none hc)
  | some c =>
    obtain ⟨s, hs, hr⟩ := script?_eq_some.1 hc
    exact h w s c hs hr hw

/-- A work that only concerns scripted scenes has to be looked at for these only. -/
theorem stands_of_script {x : Act (World α) Unit} (hx : x.Moves (OwnWork n))
    (h : ∀ w s c, w.scenes[n]? = some s → s.role = .scripted c → w.Stands n →
      (x.after w).Shows n) : x.Keeps (Stands n) :=
  keeps_stands hx (after_of_script n (fun _ => shows_of_none) hx h)

/-- The layers are emptied and the records are dropped, and nothing between the two can end with a
fault. -/
theorem stands_clearStage : (clearStage n : Act (World α) Unit).Keeps (Stands n) := by
  refine keeps_stands (moves_clearStage n) fun w hw => ?_
  unfold clearStage
  rw [after_bind_of_ok (hw.1.run_reaches .compositor)]
  exact shows_dropTracking n _

variable [Scalar α]

/-- An entity is shown before it is recorded, so wherever the placing stops the scene stands. -/
theorem stands_placeEntity (layer : Layer) (fields : Fields α) :
    (placeEntity n layer fields).Keeps (Stands n) := by
  unfold placeEntity
  refine keeps_bind (stands_of_eq (moves_workshopOf n)) fun shop => ?_
  refine keeps_bind (stands_of_offDepot (moves_liftLog _)) fun built => ?_
  split
  · exact keeps_pure _
  · next entity =>
    -- the new entity is shown before anything of it is recorded
    have hadd : (addEntity entity).Keeps (Stands n) :=
      keeps_stands (moves_addEntity n entity) fun w hw => hw.2
    refine keeps_bind hadd fun e => Spec.keeps ?_
    refine spec_bind (spec_putInLayer n e layer) fun _ => ?_
    have hrest : (do
        recordId n fields e
        recordButton n e
        attachDescribed n fields e : Act (World α) Unit).Keeps (StandsWith n e) :=
      keeps_bind (keeps_recordId n e fields) fun _ =>
        keeps_bind (keeps_recordButton n e) fun _ => keeps_attachDescribed n e fields
    exact hrest.spec.mono (fun _ h => h) (fun _ _ h => h.1) fun _ h => h.1

/-- A layer is placed entity by entity; by induction on its list. -/
theorem stands_placeLayer (state name : String) (fields : List (Fields α)) :
    (placeLayer n state name fields).Keeps (Stands n) := by
  unfold placeLayer
  split
  · exact keeps_forM fields fun fs _ => stands_placeEntity n _ fs
  · exact stands_of_offDepot (moves_sayFor n _)

/-- A state is placed layer by layer. -/
theorem stands_placeState (state : StateSpec α) : (placeState n state).Keeps (Stands n) :=
  keeps_forM _ fun _ _ => stands_placeLayer n _ _ _

/-- An activation clears the stage if the state says so, and then places the state. -/
theorem stands_activate (state : StateSpec α) : (activate n state).Keeps (Stands n) := by
  unfold activate
  refine keeps_bind (stands_modifyScript (fun _ => rfl) (fun _ => rfl)
    (fun c => Nat.le_succ c.activations) fun _ _ h => h) fun _ => ?_
  refine keeps_ite (fun _ => ?_) fun _ => stands_placeState n state
  exact keeps_bind (stands_clearStage n) fun _ => stands_placeState n state

/-- A state of the document is activated; for an unknown name a line is printed. -/
theorem stands_switchToState (name : Value α) : (switchToState n name).Keeps (Stands n) := by
  unfold switchToState
  refine keeps_bind (stands_of_eq (moves_scriptAt n)) fun s => ?_
  split
  · exact keeps_bind (keeps_ofExcept _) fun _ => stands_of_offDepot (moves_sayFor n _)
  · refine keeps_bind (keeps_ofExcept _) fun _ => ?_
    refine keeps_bind (stands_of_offDepot (moves_sayFor n _)) fun _ => ?_
    refine keeps_bind (stands_modifyScript (fun _ => rfl) (fun _ => rfl)
      (fun _ => Nat.le_refl _) fun _ _ h => h) fun _ => ?_
    split
    · exact stands_activate n _
    · exact keeps_pure _

/-! ## 4. Coming, going and time

The other works of a scene.  None of them records anything but through an activation. -/

/-- To enter is to go back to the first state and to reset the timer; nothing new is tracked. -/
theorem stands_enterScript : (enterScript n : Act (World α) Unit).Keeps (Stands n) := by
  unfold enterScript
  refine keeps_bind (stands_modifyScript (fun _ => rfl) (fun _ => rfl)
    (fun _ => Nat.le_refl _) fun _ _ h => h) fun _ => ?_
  refine keeps_bind (stands_of_eq (moves_scriptAt n)) fun c => ?_
  split
  · exact keeps_pure _
  · exact keeps_bind (stands_modifyScript (fun _ => rfl) (fun _ => rfl)
      (fun _ => Nat.le_refl _) fun _ _ h => h) fun _ => stands_of_offDepot (moves_sayFor n _)

/-- To populate is to activate the first state. -/
theorem stands_populateScript : (populateScript n : Act (World α) Unit).Keeps (Stands n) := by
  unfold populateScript
  refine keeps_bind (stands_of_eq (moves_scriptAt n)) fun c => ?_
  split
  · exact keeps_pure _
  · exact stands_activate n _

/-- Animations change the looks of entities, and leave them in their layers. -/
theorem stands_advance (dt : α) : (advance n dt).Keeps (Stands n) := by
  refine keeps_stands (moves_advance n dt) fun w hw => ?_
  cases h : w.script? n with
  | none => exact shows_of_none ((moves_advance n dt w).script?_eq_none h)
  | some c =>
    rw [after_eq_of_run (run_advance n dt h)]
    intro d hd e he
    obtain ⟨c', hc', rfl⟩ := exists_of_mapScript hd
    change (w.mapScript n _).script? n = some c' at hc'
    obtain rfl := Option.some.inj ((script?_mapScript_self h _).symm.trans hc')
    refine hw.2 c h e ?_
    simpa only [Script.tracked, Motions.advance, Motions.keys_stepAll] using he

/-- To set a scene up is to load its assets, or to lay out its game. -/
theorem stands_setUp [Host α] : (setUp n : Act (World α) Unit).Keeps (Stands n) := by
  refine stands_of_script n (moves_setUp n) fun w s c hs hr hw => ?_
  unfold setUp
  rw [after_bind_of_ok (by rw [run_sceneAt, hs]), hr]
  exact (stands_of_offDepot (moves_preload n) w hw).2

/-- A scene is set up unless that was done before. -/
theorem stands_start [Host α] : (start n : Act (World α) Unit).Keeps (Stands n) := by
  unfold start
  refine keeps_bind (stands_of_eq (moves_sceneAt n)) fun s => ?_
  refine keeps_ite (fun _ => ?_) fun _ => keeps_pure _
  refine keeps_bind (stands_setUp n) fun _ => ?_
  refine keeps_stands (moves_modifyScene n fun s => ⟨rfl, id, .refl _⟩) fun w hw c hc => ?_
  rw [script?_modifyScene] at hc
  · exact hw.2 c hc
  · exact fun _ => rfl

/-- The hook of entering, for scenes of any role. -/
theorem stands_callEnter [Host α] : (callEnter n : Act (World α) Unit).Keeps (Stands n) := by
  refine stands_of_script n (moves_callEnter n) fun w s c hs hr hw => ?_
  unfold callEnter
  rw [after_bind_of_ok (by rw [run_sceneAt, hs]), hr]
  exact (keeps_bind (stands_start n) (fun _ => stands_enterScript n) w hw).2

/-- The hook of populating, for scenes of any role. -/
theorem stands_callPopulate : (callPopulate n : Act (World α) Unit).Keeps (Stands n) := by
  refine stands_of_script n (moves_callPopulate n) fun w s c hs hr hw => ?_
  unfold callPopulate
  rw [after_bind_of_ok (by rw [run_sceneAt, hs]), hr]
  exact (stands_populateScript n w hw).2

end Activate

end World

end Diorama
