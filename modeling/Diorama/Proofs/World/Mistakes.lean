/-
# What a mistake in a document comes to

A mistake in a document is meant to be answered by a line and a default, or by leaving something
out, and nearly every one is.  This module lists those that are not.

* A *flaw* of the document (`SceneSpec.Flaw`) stops its scene whenever it comes to the place: an
  entity cannot be built (`create_entity`), an animation cannot be read (`parse_animation`), a press
  or a timer leads to something that nothing can be looked up by, or the volume of a sound is no
  number.  A whole number of too many digits is a flaw wherever it has to become a text: the name of
  something, or a part of a line in the log.
* Where no flaw stops it, a scene may still get *stuck* (`World.Stuck`) with what has become of the
  document: a button has no rectangle on the screen, a pulse has lost its angle, or what is shown
  cannot be drawn.
* Last, the host may refuse what it is asked for (`Host.Refuses`), which is no mistake of a document.

What a scene does by itself ends with a fault only where one of these is met: every lemma of section
2 is about the scene that plays, `Plays n spec`, and blames the fault on the document.  A scene that
misses something else -- a scene, a script, an entity, a part of the engine -- would be a fault that
is not listed, and there is none.
-/
import Diorama.Proofs.Accepting
import Diorama.Proofs.Assets
import Diorama.Proofs.Drawing
import Diorama.Proofs.World.Buttons
import Diorama.Proofs.World.Furnishing

namespace Diorama

open Act

variable {α : Type}

/-! ## 1. Mistakes

The three lists: flaws of a document, ways to get stuck, and refusals of the host.  Each entry
carries the place where it is found, so that it can be compared with the document. -/

/-- The descriptions of all entities of a document. -/
def SceneSpec.descriptions (spec : SceneSpec α) : List (Fields α) :=
  spec.states.flatMap fun state => state.layers.flatMap (·.2)

variable [Scalar α]

/-- The scene was read from a document. -/
def SceneSpec.Accepted (spec : SceneSpec α) : Prop :=
  ∃ folder doc log log', (readScene folder doc).run log = (.ok spec, log')

/-- What is wrong with a description of an entity that leads to a scene or a sound. -/
inductive Misdirects (fields : Fields α) : Fault → Prop where
  | scene {click : Fields α} {f : Fault} (hclick : Fields.get fields "onClick" = .map click)
      (haction : Vocabulary.ofValue? (Fields.get click "action") = some ActionKind.switchScene)
      (h : (Fields.get click "target").nameKey = .error f) : Misdirects fields f
  | sound {click : Fields α} {f : Fault} (hclick : Fields.get fields "onClick" = .map click)
      (haction : Vocabulary.ofValue? (Fields.get click "action") = some ActionKind.playSound)
      (h : (Fields.get click "sound").nameKey = .error f) : Misdirects fields f

/-- What is wrong with a document although it was accepted. -/
inductive SceneSpec.Flaw (spec : SceneSpec α) : Fault → Prop where
  /-- An entity cannot be built, or its animation cannot be read. -/
  | entity {fields : Fields α} {f : Fault} (hfields : fields ∈ spec.descriptions)
      (h : Misdescribes fields f) : Flaw spec f
  /-- A button leads to a scene or a sound that nothing can be looked up by. -/
  | button {fields : Fields α} {f : Fault} (hfields : fields ∈ spec.descriptions)
      (h : Misdirects fields f) : Flaw spec f
  /-- A timer leads to such a scene. -/
  | timer {state : StateSpec α} {t : TransitionSpec α} {f : Fault} (hstate : state ∈ spec.states)
      (ht : state.transition = some t) (h : t.nextScene.nameKey = .error f) : Flaw spec f
  /-- What a timer leads to is a number of too many digits. -/
  | goal {state : StateSpec α} {t : TransitionSpec α} (hstate : state ∈ spec.states)
      (ht : state.transition = some t)
      (h : (t.nextScene.orElse t.nextState).writable = false) : Flaw spec .notANumber
  /-- There is such a number in an entry of an asset. -/
  | asset {entry : Value α} (hentry : entry ∈ spec.assets.images ++ spec.assets.audio)
      (h : entry.writable = false) : Flaw spec .notANumber
  /-- The volume of a sound is given and is no number. -/
  | volume {entry : Value α} {f : Fault} (hentry : entry ∈ spec.assets.audio)
      (hvolume : (assetVolume entry).isNull = false)
      (h : (assetVolume entry).toScalar = .error f) : Flaw spec f

/-- An id that has no text is a flaw of its entry, which is met when the assets are given back. -/
theorem SceneSpec.flaw_of_writtenIds {spec : SceneSpec α} {f : Fault}
    (h : spec.assets.writtenIds = .error f) : spec.Flaw f := by
  unfold Manifest.writtenIds at h
  split at h
  · cases h
  · next hall =>
    cases h
    rw [List.all_eq_true] at hall
    push Not at hall
    obtain ⟨entry, hentry, hname⟩ := hall
    refine .asset hentry ?_
    cases entry with
    | map fields =>
      replace hname := Bool.eq_false_iff.2 hname
      rw [Manifest.nameable, Bool.or_eq_false_iff] at hname
      exact Value.not_writable_of_get hname.2
    | _ => exact (hname rfl).elim

/-- The assets of a scene that was read are entries of manifests. -/
theorem SceneSpec.Accepted.entries {spec : SceneSpec α} (h : spec.Accepted) :
    (∀ entry ∈ spec.assets.images, isAssetEntry entry = true) ∧
      ∀ entry ∈ spec.assets.audio, isAssetEntry entry = true := by
  obtain ⟨folder, doc, log, log', h⟩ := h
  obtain ⟨fields, -, hspec⟩ := resultsIn_readScene folder doc log spec log' h
  have hitems (key : String) : ∀ entry ∈ assetItems fields key, isAssetEntry entry = true := by
    intro entry hentry
    unfold assetItems at hentry
    split at hentry
    · exact (List.mem_filter.1 hentry).2
    · cases hentry
  exact ⟨hspec.images ▸ hitems "images", hspec.audio ▸ hitems "audio"⟩

/-- The animation is a pulse at an angle that has no sine. -/
def Animation.Lost (m : Animation α) (f : Fault) : Prop :=
  m.kind = .pulse ∧ Scalar.sine m.angle = .error f

/-- Only a pulse can be without a pose.  The other effects compute with what they have; only the
sine is a function that may refuse its argument. -/
theorem Animation.lost_of_pose {m : Animation α} {p : Pose α} {f : Fault}
    (h : m.pose p = .error f) : m.Lost f := by
  unfold pose at h
  dsimp only at h
  cases hkind : m.kind with
  | pulse =>
    refine ⟨hkind, ?_⟩
    rw [hkind] at h
    cases hs : Scalar.sine m.angle with
    | ok x =>
      rw [hs] at h
      cases h
    | error e =>
      rw [hs] at h
      cases h
      rfl
  | slideIn =>
    rw [hkind] at h
    cases hside : m.side <;> rw [hside] at h <;> cases h
  | _ =>
    rw [hkind] at h
    cases h

theorem Animation.lost_of_step {dt : α} {m : Animation α} {p : Pose α} {f : Fault}
    (h : (m.step dt p).2 = .error f) : (m.step dt p).1.Lost f := by
  unfold step at h ⊢
  split at h
  · cases h
  · dsimp only at h ⊢
    split at h
    · cases h
    · next hc hd =>
      rw [if_neg hc, if_neg hd]
      exact lost_of_pose (m := { m with elapsed := m.elapsed + dt }) h

/-- When the animations stop, one of them is lost. -/
theorem Motions.exists_lost_of_stepAll {ε : Type} [Posed ε α] {dt : α} {f : Fault} :
    ∀ (ms : List (Nat × Animation α)) (es : Array ε), (stepAll dt ms es).2.2 = .error f →
      ∃ k m, (k, m) ∈ (stepAll dt ms es).1 ∧ m.Lost f
  | [], es, h => by cases h
  | (i, m) :: rest, es, h => by
    unfold stepAll at h ⊢
    split at h
    · next hnone =>
      obtain ⟨k, m', hm, hlost⟩ := exists_lost_of_stepAll rest _ h
      exact ⟨k, m', List.mem_cons_of_mem _ hm, hlost⟩
    · next t ht =>
      split at h
      · next m' f' hstep =>
        cases h
        have hlost := Animation.lost_of_step (congrArg Prod.snd hstep)
        rw [hstep] at hlost
        exact ⟨i, m', List.mem_cons_self, hlost⟩
      · obtain ⟨k, m', hm, hlost⟩ := exists_lost_of_stepAll rest _ h
        exact ⟨k, m', List.mem_cons_of_mem _ hm, hlost⟩

namespace World

variable [Host α]

/-- The scene `n` is the current one and plays the document. -/
def Plays (n : Nat) (spec : SceneSpec α) (w : World α) : Prop :=
  w.current = some n ∧ ∃ c, w.script? n = some c ∧ c.spec = some spec

/-- What has become of a document so that the scene that plays it cannot go on. -/
inductive Stuck (n : Nat) (spec : SceneSpec α) (w : World α) : Fault → Prop where
  /-- A button that can be seen has no rectangle on the screen. -/
  | button {fields : Fields α} {k : Nat} {e : Entity α} {f : Fault}
      (hfields : fields ∈ spec.descriptions) (he : w.entities[k]? = some e)
      (hbuilt : e.BuiltFrom fields) (hbutton : e.isButton = true) (hvisible : e.visible = true)
      (h : e.bounds = .error f) : Stuck n spec w f
  /-- Something that pulses has got lost. -/
  | pulse {c : Script α} {k : Nat} {m : Animation α} {f : Fault} (hc : w.script? n = some c)
      (hm : (k, m) ∈ c.motions.entries) (h : m.Lost f) : Stuck n spec w f
  /-- Something that is shown cannot be drawn. -/
  | picture {k : Nat} {e : Entity α} {f : Fault} (hk : w.Holds (.entity k))
      (he : w.entities[k]? = some e) (hvisible : e.visible = true)
      (halpha : Scalar.le e.alpha 0.0 = false) (h : e.Undrawable f) : Stuck n spec w f

/-- The host refuses something with the fault; or the current scene plays a document, and the fault
comes from a mistake in it. -/
def Blamed (f : Fault) (w : World α) : Prop :=
  Host.Refuses α f ∨ ∃ n spec, w.Plays n spec ∧ (spec.Flaw f ∨ w.Stuck n spec f)

variable {n : Nat} {spec : SceneSpec α}

theorem blamed_of_flaw {f : Fault} {w : World α} (hw : w.Plays n spec)
    (h : spec.Flaw f ∨ Host.Refuses α f) : w.Blamed f :=
  h.elim (fun h => Or.inr ⟨n, spec, hw, Or.inl h⟩) Or.inl

/-! ## 2. What a scene does by itself

The lemmas follow what a scene does from the inside to the outside, and each says from which
condition on the world a fault is blamed.  A fault of a smaller act is a fault of the larger one,
in the world that was reached by then. -/

omit [Scalar α] [Host α] in
theorem OwnWork.plays {w v : World α} (h : w.OwnWork n v) (hw : w.Plays n spec) :
    v.Plays n spec := by
  obtain ⟨hn, c, hc, hspec⟩ := hw
  obtain ⟨d, hd, hspec', -⟩ := h.toAges.script? hc
  exact ⟨h.current.trans hn, d, hd, hspec'.trans hspec⟩

omit [Scalar α] [Host α] in
theorem plays_of_ownWork {β : Type} {x : Act (World α) β} (hx : x.Moves (OwnWork n)) :
    x.Keeps (Plays n spec) := fun w hw => (hx w).plays hw

section Rules

variable {β γ : Type} {F : Fault → World α → Prop}

/-- A fault that a flaw of the document explains, or the host. -/
theorem faultsFrom_of_flaw {x : Act (World α) β}
    (hx : x.FaultsIn fun f => spec.Flaw f ∨ Host.Refuses α f)
    (hk : x.Moves (OwnWork n)) : FaultsFrom (Plays n spec) Blamed x :=
  hx.faultsFrom (plays_of_ownWork hk) fun _ _ ht h => blamed_of_flaw ht h

omit [Scalar α] [Host α] in
/-- A scene goes on after some of its own work. -/
theorem faultsFrom_own {x : Act (World α) β} {f : β → Act (World α) γ}
    (hx : FaultsFrom (Plays n spec) F x) (hk : x.Moves (OwnWork n))
    (hf : ∀ b, FaultsFrom (Plays n spec) F (f b)) : FaultsFrom (Plays n spec) F (x >>= f) :=
  faultsFrom_bind hx (plays_of_ownWork hk) hf

omit [Scalar α] [Host α] in
/-- A scene that plays is there, with its document. -/
theorem faultsFrom_ofScene {f : Scene α → Act (World α) γ}
    (hf : ∀ s c, s.role = .scripted c → c.spec = some spec → FaultsFrom (Plays n spec) F (f s)) :
    FaultsFrom (Plays n spec) F (sceneAt n >>= f) := by
  intro w e t hw hr
  obtain ⟨hn, c, hc, hspec⟩ := hw
  obtain ⟨s, hs, hrole⟩ := script?_eq_some.1 hc
  rw [run_bind_of_ok (by rw [run_sceneAt, hs])] at hr
  exact hf s c hrole hspec w e t ⟨hn, c, hc, hspec⟩ hr

omit [Scalar α] [Host α] in
theorem faultsFrom_ofScript {f : Script α → Act (World α) γ}
    (hf : ∀ c, c.spec = some spec → FaultsFrom (Plays n spec) F (f c)) :
    FaultsFrom (Plays n spec) F (scriptAt n >>= f) := by
  intro w e t hw hr
  obtain ⟨hn, c, hc, hspec⟩ := hw
  rw [run_bind_of_ok (by rw [run_scriptAt, hc])] at hr
  exact hf c hspec w e t ⟨hn, c, hc, hspec⟩ hr

omit [Scalar α] [Host α] in
theorem faultsFrom_scriptAt : FaultsFrom (Plays n spec) F (scriptAt n) := by
  rw [← bind_pure (scriptAt n)]
  exact faultsFrom_ofScript fun _ _ => faultsFrom_pure _

omit [Scalar α] [Host α] in
theorem faultsFrom_reaches (p : Part) : FaultsFrom (Plays n spec) F (reaches n p) :=
  faultsFrom_ofScene fun _ _ _ _ => faultsFrom_bind faultsFrom_get keeps_get fun _ => faultsFrom_pure _

omit [Scalar α] [Host α] in
theorem faultsFrom_sayFor (line : String) : FaultsFrom (Plays n spec) F (sayFor n line) :=
  faultsFrom_ofScene fun _ _ _ _ => faultsFrom_never fun _ _ _ h => nomatch h

omit [Scalar α] [Host α] in
theorem faultsIn_onDevice {G : Fault → Prop} {x : Act (Device α) β} (hx : x.FaultsIn G) :
    (onDevice x).FaultsIn G := by
  have hdepot : (Depot.onDevice x).FaultsIn G := faultsIn_zoom hx
  change (onDepot (Depot.onDevice x)).FaultsIn G
  exact faultsIn_zoom hdepot

omit [Scalar α] [Host α] in
theorem faultsFrom_afterReach {p : Part} {f : Bool → Act (World α) γ}
    (hf : ∀ b, FaultsFrom (Plays n spec) F (f b)) :
    FaultsFrom (Plays n spec) F (reaches n p >>= f) :=
  faultsFrom_own (faultsFrom_reaches p) (moves_reaches n p).of_eq hf

omit [Scalar α] [Host α] in
theorem faultsFrom_afterSay {line : String} {f : Unit → Act (World α) γ}
    (hf : ∀ b, FaultsFrom (Plays n spec) F (f b)) :
    FaultsFrom (Plays n spec) F (sayFor n line >>= f) :=
  faultsFrom_own (faultsFrom_sayFor line) ((moves_sayFor n line).ownWork n) hf

omit [Scalar α] [Host α] in
/-- A script may get on. -/
theorem faultsFrom_afterChange {g : Script α → Script α} {f : Unit → Act (World α) γ}
    (hspec : ∀ c, (g c).spec = c.spec) (hhandles : ∀ c, (g c).handlesCustom = c.handlesCustom)
    (hact : ∀ c, c.activations ≤ (g c).activations)
    (hf : ∀ b, FaultsFrom (Plays n spec) F (f b)) :
    FaultsFrom (Plays n spec) F (modifyScript n g >>= f) :=
  faultsFrom_own (faultsFrom_modify _) (moves_modifyScript n hspec hhandles hact) hf

/-- Whatever is done to the depot. -/
theorem faultsFrom_afterDepot {x : Act (Depot α) β} {f : β → Act (World α) γ}
    (hx : x.FaultsIn fun f => spec.Flaw f ∨ Host.Refuses α f)
    (hf : ∀ b, FaultsFrom (Plays n spec) Blamed (f b)) :
    FaultsFrom (Plays n spec) Blamed (onDepot x >>= f) := by
  have hmoves : (onDepot x).Moves (OwnWork n) := (moves_onDepot x).ownWork n
  exact faultsFrom_own (faultsFrom_of_flaw (faultsIn_zoom hx) hmoves) hmoves hf

/-- Whatever is read of the document. -/
theorem faultsFrom_afterLog {x : Act Log β} {f : β → Act (World α) γ} (hx : x.FaultsIn spec.Flaw)
    (hf : ∀ b, FaultsFrom (Plays n spec) Blamed (f b)) :
    FaultsFrom (Plays n spec) Blamed ((liftM x : Act (World α) β) >>= f) :=
  faultsFrom_afterDepot (Depot.faultsIn_liftLog (hx.mono fun _ => Or.inl)) hf

/-- Whatever has to become a text, which it does unless that is a flaw. -/
theorem faultsFrom_afterTold {v : Value α} {text : String} {f : String → Act (World α) γ}
    (hlong : v.writable = false → spec.Flaw .notANumber)
    (hf : ∀ text, FaultsFrom (Plays n spec) Blamed (f text)) :
    FaultsFrom (Plays n spec) Blamed (Act.ofExcept (v.told text) >>= f) :=
  faultsFrom_own (faultsFrom_of_flaw (faultsIn_told (fun h => Or.inl (hlong h)) text)
    (moves_ofExcept _)) (moves_ofExcept _) hf

end Rules

/-- The scene plays the document, and an entity is there. -/
def PlaysWith (n : Nat) (spec : SceneSpec α) (e : Nat) (w : World α) : Prop :=
  w.Plays n spec ∧ ∃ f, w.entities[e]? = some f

omit [Scalar α] [Host α] in
theorem playsWith_of_ownWork {β : Type} {e : Nat} {x : Act (World α) β}
    (hx : x.Moves (OwnWork n)) : x.Keeps (PlaysWith n spec e) := by
  rintro w ⟨hw, f, hf⟩
  obtain ⟨g, hg, -⟩ := (hx w).entities e f hf
  exact ⟨(hx w).plays hw, g, hg⟩

/-- An animation that cannot be read is a flaw of the description. -/
theorem faultsFrom_attachDescribed {fields : Fields α} (hfields : fields ∈ spec.descriptions)
    (e : Nat) : FaultsFrom (Plays n spec) Blamed (attachDescribed n fields e) := by
  have hread : (readAnimation (Fields.get fields "animation")).FaultsIn spec.Flaw :=
    Reports.faultsIn (reports_readAnimation (fun animation hanimation key hkey hlarge =>
      .entity hfields (.animation hanimation hkey hlarge)) fun h => .entity hfields (.long_get h))
  unfold attachDescribed
  refine faultsFrom_ite (fun _ => ?_) fun _ => faultsFrom_pure _
  refine faultsFrom_afterLog hread fun animation => ?_
  split
  · exact faultsFrom_ofScript fun c _ => faultsFrom_never (faultsIn_bind faultsIn_get fun _ =>
      faultsIn_bind (faultsIn_modify _) fun _ => faultsIn_modify _)
  · exact faultsFrom_pure _

/-- What is recorded of an entity that is there.  Four acts: the layer, the id, the list of
buttons and the animation.  The second may fail to write its key and the last to read the
description, and both are described in the document. -/
theorem faultsFrom_record {fields : Fields α} (hfields : fields ∈ spec.descriptions) (e : Nat)
    (layer : Layer) : FaultsFrom (PlaysWith n spec e) Blamed (do
      putInLayer n e layer
      recordId n fields e
      recordButton n e
      attachDescribed n fields e) := by
  have htools : Tools (α := α) n (OwnWork n) := tools_ownWork n
  have hput : FaultsFrom (Plays n spec) Blamed (putInLayer n e layer) :=
    faultsFrom_afterReach fun _ =>
      faultsFrom_ite (fun _ => faultsFrom_modify _) fun _ => faultsFrom_pure _
  have hid : FaultsFrom (Plays n spec) Blamed (recordId n fields e) :=
    faultsFrom_ite (fun _ => faultsFrom_afterTold (fun h => .entity hfields (.long_get h)) fun _ =>
      faultsFrom_modify _) fun _ => faultsFrom_pure _
  have hbutton : FaultsFrom (PlaysWith n spec e) Blamed (recordButton n e) := by
    refine faultsFrom_bind (faultsFrom_of_ok ?_) (playsWith_of_ownWork (moves_entityAt e).of_eq)
      fun _ => faultsFrom_ite (fun _ => faultsFrom_modify _) fun _ => faultsFrom_pure _
    rintro w ⟨-, f, hf⟩
    exact ⟨f, w, by rw [run_entityAt, hf]⟩
  refine faultsFrom_bind (hput.mono fun _ h => h.1)
    (playsWith_of_ownWork (htools.putInLayer e layer)) fun _ => ?_
  refine faultsFrom_bind (hid.mono fun _ h => h.1)
    (playsWith_of_ownWork (htools.recordId fields e)) fun _ => ?_
  refine faultsFrom_bind hbutton (playsWith_of_ownWork (htools.recordButton e)) fun _ => ?_
  exact (faultsFrom_attachDescribed hfields e).mono fun _ h => h.1

/-- Placing an entity of a document stops only at what the document can be blamed for.

What is built is there from the moment it is added, which the acts that follow rely on. -/
theorem faultsFrom_placeEntity (layer : Layer) {fields : Fields α}
    (hfields : fields ∈ spec.descriptions) :
    FaultsFrom (Plays n spec) Blamed (placeEntity n layer fields) := by
  have hshop : FaultsFrom (Plays n spec) Blamed (workshopOf n : Act (World α) Workshop) :=
    faultsFrom_bind faultsFrom_get keeps_get fun w => faultsFrom_afterReach fun _ =>
      faultsFrom_afterReach fun _ => faultsFrom_pure _
  have hbuild (shop : Workshop) : (shop.build fields).FaultsIn spec.Flaw :=
    (Workshop.reports_build shop fields).faultsIn.mono fun _ h => .entity hfields h
  unfold placeEntity
  refine faultsFrom_own hshop (moves_workshopOf n).of_eq fun shop => ?_
  refine faultsFrom_afterLog (hbuild shop) fun built => ?_
  split
  · exact faultsFrom_pure _
  · next entity =>
    refine faultsFrom_bind_of (R := PlaysWith n spec) (faultsFrom_never fun _ _ _ h => nomatch h)
      (fun w hw => ⟨fun e t hr => ?_, fun _ _ _ => trivial⟩) fun e =>
        faultsFrom_record hfields e layer
    have hplays : t.Plays n spec := after_eq_of_run hr ▸ (moves_addEntity n entity w).plays hw
    rw [run_addEntity] at hr
    cases hr
    exact ⟨hplays, entity, Array.getElem?_push_size⟩

theorem faultsFrom_placeState {state : StateSpec α} (hstate : state ∈ spec.states) :
    FaultsFrom (Plays n spec) Blamed (placeState n state) := by
  have hplaces : Places (α := α) n (OwnWork n) := (tools_ownWork n).places
  refine faultsFrom_forM _ (fun entry hentry => ?_) fun entry _ =>
    plays_of_ownWork (hplaces.placeLayer _ _ _)
  obtain ⟨name, descriptions⟩ := entry
  change FaultsFrom _ _ (placeLayer n state.name name descriptions)
  unfold placeLayer
  split
  · refine faultsFrom_forM _ (fun fields hfields => faultsFrom_placeEntity _ ?_) fun fields _ =>
      plays_of_ownWork (hplaces.place _ fields)
    exact List.mem_flatMap.2 ⟨state, hstate, List.mem_flatMap.2 ⟨_, hentry, hfields⟩⟩
  · exact faultsFrom_sayFor _

theorem faultsFrom_activate {state : StateSpec α} (hstate : state ∈ spec.states) :
    FaultsFrom (Plays n spec) Blamed (activate n state) := by
  have hclear : FaultsFrom (Plays n spec) Blamed (clearStage n : Act (World α) Unit) :=
    faultsFrom_afterReach fun _ => faultsFrom_ite
      (fun _ => faultsFrom_never (faultsIn_bind (faultsIn_modify _) fun _ => faultsIn_modify _))
      fun _ => faultsFrom_modify _
  refine faultsFrom_afterChange (fun _ => rfl) (fun _ => rfl) (fun c => Nat.le_succ c.activations)
    fun _ => faultsFrom_ite (fun _ => ?_) fun _ => faultsFrom_placeState hstate
  exact faultsFrom_own hclear (moves_clearStage n) fun _ => faultsFrom_placeState hstate

omit [Scalar α] [Host α] in
theorem states_of_spec {c : Script α} (hc : c.spec = some spec) : c.states = spec.states := by
  rw [Script.states, hc]

/-- A scene can be asked for any state that can be printed: what is no state is reported. -/
theorem faultsFrom_switchToState {name : Value α}
    (hlong : name.writable = false → spec.Flaw .notANumber) :
    FaultsFrom (Plays n spec) Blamed (switchToState n name) := by
  refine faultsFrom_ofScript fun c hc => ?_
  split
  · exact faultsFrom_afterTold hlong fun _ => faultsFrom_sayFor _
  · refine faultsFrom_afterTold hlong fun _ => faultsFrom_afterSay fun _ =>
      faultsFrom_afterChange (fun _ => rfl) (fun _ => rfl)
      (fun _ => Nat.le_refl _) fun _ => ?_
    split
    · next state hstate =>
      exact faultsFrom_activate (states_of_spec hc ▸ List.mem_of_getElem? hstate)
    · exact faultsFrom_pure _

theorem faultsFrom_populateScript :
    FaultsFrom (Plays n spec) Blamed (populateScript n : Act (World α) Unit) := by
  refine faultsFrom_ofScript fun c hc => ?_
  split
  · exact faultsFrom_pure _
  · next first rest hstates =>
    exact faultsFrom_activate (by rw [← states_of_spec hc, hstates]; exact List.mem_cons_self)

theorem faultsFrom_enterScript :
    FaultsFrom (Plays n spec) Blamed (enterScript n : Act (World α) Unit) := by
  refine faultsFrom_afterChange (fun _ => rfl) (fun _ => rfl) (fun _ => Nat.le_refl _) fun _ =>
    faultsFrom_ofScript fun c _ => ?_
  split
  · exact faultsFrom_pure _
  · exact faultsFrom_afterChange (fun _ => rfl) (fun _ => rfl) (fun _ => Nat.le_refl _) fun _ =>
      faultsFrom_sayFor _

/-- Loading the assets stops only at a volume or at a number of too many digits.  The images are
loaded before the sounds; only a sound has a volume. -/
theorem faultsFrom_preload (hspec : spec.Accepted) :
    FaultsFrom (Plays n spec) Blamed (preload n : Act (World α) Unit) := by
  obtain ⟨himages, haudio⟩ := hspec.entries
  refine faultsFrom_ofScript fun c hc => ?_
  rw [hc]
  dsimp only
  have hsounds : (Depot.loadSounds spec.folder spec.assets.audio).FaultsIn
      fun f => spec.Flaw f ∨ Host.Refuses α f :=
    Depot.faultsIn_loadSounds _ haudio
      (fun entry hentry h => Or.inl (.asset (List.mem_append_right _ hentry) h))
      fun entry hentry e hnull he => Or.inl (.volume hentry hnull he)
  have hloads : (Depot.loadImages spec.folder spec.assets.images).FaultsIn
      fun f => spec.Flaw f ∨ Host.Refuses α f :=
    Depot.faultsIn_loadImages (fun _ => Or.inr) _ himages
      fun entry hentry h => Or.inl (.asset (List.mem_append_left _ hentry) h)
  refine faultsFrom_afterReach fun _ => faultsFrom_ite (fun _ => faultsFrom_sayFor _) fun _ => ?_
  refine faultsFrom_afterDepot hloads fun images => ?_
  refine faultsFrom_afterDepot hsounds fun sounds => ?_
  exact faultsFrom_ite (fun _ => faultsFrom_afterSay fun _ => faultsFrom_sayFor _) fun _ =>
    faultsFrom_sayFor _

theorem faultsFrom_start (hspec : spec.Accepted) :
    FaultsFrom (Plays n spec) Blamed (start n : Act (World α) Unit) := by
  have hsetUp : FaultsFrom (Plays n spec) Blamed (setUp n : Act (World α) Unit) := by
    refine faultsFrom_ofScene fun s c hr _ => ?_
    rw [hr]
    exact faultsFrom_preload hspec
  refine faultsFrom_ofScene fun s c _ _ => faultsFrom_ite (fun _ => ?_) fun _ => faultsFrom_pure _
  exact faultsFrom_own hsetUp (moves_setUp n) fun _ => faultsFrom_modify _

/-- A scene that becomes the current one is set up, entered, and shows its first state. -/
theorem faultsFrom_bringUp (hspec : spec.Accepted) :
    FaultsFrom (Plays n spec) Blamed (bringUp (some n) : Act (World α) Unit) := by
  intro w f t hw hr
  obtain ⟨hn, c, hc, hcspec⟩ := hw
  rw [run_bringUp hc] at hr
  refine faultsFrom_own (faultsFrom_start hspec) (moves_start n) (fun _ => ?_) w f t
    ⟨hn, c, hc, hcspec⟩ hr
  exact faultsFrom_own faultsFrom_enterScript (moves_enterScript n) fun _ =>
    faultsFrom_populateScript

/-- When time passes only a pulse can stop. -/
theorem faultsFrom_advance (dt : α) : FaultsFrom (Plays n spec) Blamed (advance n dt) := by
  intro w f t hw hr
  have hplays : t.Plays n spec := after_eq_of_run hr ▸ (moves_advance n dt w).plays hw
  obtain ⟨-, c, hc, -⟩ := hw
  have hscript := script?_advance n dt hc
  rw [after_eq_of_run hr] at hscript
  have hfault := congrArg Prod.fst hr
  rw [run_advance n dt hc] at hfault
  obtain ⟨k, m, hm, hlost⟩ := Motions.exists_lost_of_stepAll c.motions.entries w.entities hfault
  exact Or.inr ⟨n, spec, hplays, Or.inr (.pulse hscript hm hlost)⟩

/-- A scene can leave unless the id of an asset has no text. -/
theorem faultsFrom_callLeave :
    FaultsFrom (Plays n spec) Blamed (callLeave n : Act (World α) Unit) := by
  have hgiveBack : FaultsFrom (Plays n spec) Blamed (giveBack n : Act (World α) Unit) := by
    refine faultsFrom_ofScript fun c hc => ?_
    rw [hc]
    dsimp only
    have hids : (Act.ofExcept spec.assets.writtenIds : Act (World α) (List String)).FaultsIn
        fun f => spec.Flaw f ∨ Host.Refuses α f :=
      faultsIn_ofExcept fun f hf => Or.inl (SceneSpec.flaw_of_writtenIds hf)
    refine faultsFrom_afterReach fun _ => faultsFrom_ite (fun _ => ?_) fun _ => faultsFrom_pure _
    refine faultsFrom_own (faultsFrom_of_flaw hids (moves_ofExcept _)) (moves_ofExcept _)
      fun ids => faultsFrom_ite (fun _ => ?_) fun _ => faultsFrom_pure _
    exact faultsFrom_never (faultsIn_bind (faultsIn_zoom (Depot.faultsIn_unloadAssets _)) fun _ =>
      faultsIn_modify _)
  refine faultsFrom_ofScene fun s c hr _ => ?_
  rw [hr]
  exact faultsFrom_afterChange (fun _ => rfl) (fun _ => rfl)
    (fun c => Nat.le_succ c.activations) fun _ => hgiveBack

end World

end Diorama
