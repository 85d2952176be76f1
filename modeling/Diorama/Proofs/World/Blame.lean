/-
# Every fault comes from a mistake

A theatre is a world in which every scene plays a document that was accepted, and every scene that
is registered or current is there.  In every run of a theatre, whatever is asked of it and however
often something has ended with a fault before, a fault comes from a mistake in the document of the
scene that is current when it happens: from one of its flaws, or from what has become of it
(`faults_blamed`).  So on a host that refuses nothing, documents without such mistakes play without a
fault.

A run is made of moments: what can be asked of a world from outside, and the drawing of the layers.
Scenes are asked for by texts there.  Inside, where they are asked for by what a document says, the
same request is one of the ways to fail.

There are such faults.  `faults_blamed_poster` is a document that is accepted and cannot be entered.
-/
import Diorama.Proofs.World.Dispatch
import Diorama.Proofs.World.Mistakes

namespace Diorama

open Act

variable {α : Type} [Scalar α]

namespace World

variable [Host α]

/-! ## 1. Theatres

What has to be true of a world so that every fault can be traced to a document: there are scripted
scenes only, each with a document that was accepted, and nobody refers to a scene that is not
there.  `Remains` is how a world may move without ever leaving this. -/

/-- The current scene, if there is one, is there. -/
def Seated (w : World α) : Prop := ∀ n, w.current = some n → n < w.scenes.size

/-- A playhouse in which every document was accepted, and every scene that is registered or current
is there. -/
structure Theatre (w : World α) : Prop extends Playhouse w where
  accepted : ∀ n c, w.script? n = some c → ∃ spec, c.spec = some spec ∧ spec.Accepted
  listed : ∀ name n, w.registry.lookup name = some n → n < w.scenes.size
  seated : w.Seated

/-- Nothing was registered, and the current scene is the same or another one that is there. -/
structure Remains (w v : World α) : Prop extends Ages w v where
  registry : v.registry = w.registry
  current : v.current = w.current ∨ v.Seated

omit [Scalar α] [Host α] in
/-- A scene's own work registers nothing and leaves it current. -/
theorem OwnWork.remains {n : Nat} {w v : World α} (h : w.OwnWork n v) : w.Remains v :=
  ⟨h.toAges, h.registry, Or.inl h.current⟩

omit [Scalar α] [Host α] in
theorem Seated.of_current {w v : World α} (hw : w.Seated) (hn : v.current = w.current)
    (hsize : v.scenes.size = w.scenes.size) : v.Seated := by
  intro n h
  rw [hsize]
  exact hw n (hn ▸ h)

omit [Scalar α] in
instance : IsPreorder (World α) Remains where
  refl w := ⟨.refl w, rfl, Or.inl rfl⟩
  trans u v w h h' := by
    refine ⟨h.toAges.trans h'.toAges, h'.registry.trans h.registry, ?_⟩
    rcases h'.current with hn | hseated
    · rcases h.current with hn' | hseated
      · exact Or.inl (hn.trans hn')
      · exact Or.inr (hseated.of_current hn h'.size)
    · exact Or.inr hseated

omit [Host α] in
/-- A theatre remains one. -/
theorem Remains.theatre {w v : World α} (h : w.Remains v) (hw : w.Theatre) : v.Theatre where
  toPlayhouse := h.toAges.playhouse hw.toPlayhouse
  accepted n d hd := by
    obtain ⟨c, hc⟩ := h.toAges.script?_back hd
    obtain ⟨d', hd', hspec, -⟩ := h.toAges.script? hc
    obtain rfl : d = d' := Option.some.inj (hd.symm.trans hd')
    rw [hspec]
    exact hw.accepted n c hc
  listed name n hn := by
    rw [h.size]
    exact hw.listed name n (h.registry ▸ hn)
  seated := h.current.elim (hw.seated.of_current · h.size) id

omit [Host α] in
/-- A scene that is there plays a document that was accepted. -/
theorem Theatre.exists_spec {w : World α} (hw : w.Theatre) {n : Nat} (hn : n < w.scenes.size) :
    ∃ c spec, w.script? n = some c ∧ c.spec = some spec ∧ spec.Accepted := by
  obtain ⟨c, -, hc, -⟩ := hw.exists_script (Array.getElem?_eq_getElem hn)
  obtain ⟨spec, hspec, haccepted⟩ := hw.accepted n c hc
  exact ⟨c, spec, hc, hspec, haccepted⟩

omit [Host α] in
/-- The current scene of a theatre plays an accepted document. -/
theorem Theatre.exists_plays {w : World α} (hw : w.Theatre) {n : Nat} (hn : w.current = some n) :
    ∃ spec, w.Plays n spec ∧ spec.Accepted := by
  obtain ⟨c, spec, hc, hspec, haccepted⟩ := hw.exists_spec (hw.seated n hn)
  exact ⟨spec, ⟨hn, c, hc, hspec⟩, haccepted⟩

/-! ## 2. Scenes change

During a change no scene is at work for a while, so what is expected of the next one (`Expects`)
takes the place of what is known of the current one. -/

omit [Scalar α] [Host α] in
/-- Only a scene that is there can come next. -/
theorem seated_of_bindNext {n : Nat} {w v : World α}
    (h : (bindNext (some n)).run w = (.ok (), v)) : n < w.scenes.size := by
  cases hs : w.scenes[n]? with
  | none =>
    unfold bindNext ifHas at h
    rw [run_bind_of_error (by rw [run_sceneAt, hs])] at h
    cases h
  | some s => exact (Array.getElem?_eq_some_iff.1 hs).1

/-- A change of scenes leads to a scene that is there, or ends before the old one is
replaced.  Any of the steps may be the last.  Up to the handing over the old scene is still there,
and the number that is handed over is that of a scene, since binding it would have failed
otherwise. -/
theorem remains_changeScene (next : Option Nat) :
    (changeScene next : Act (World α) Unit).Moves Remains := by
  intro w
  have hown {n : Nat} {w v : World α} (h : w.OwnWork n v) : w.Remains v := h.remains
  have hdismiss : w.Remains (dismiss.after w) := moves_dismiss_of hown w
  unfold changeScene
  refine after_bind_cases hdismiss fun _ t ht => ?_
  rw [after_eq_of_run ht] at hdismiss
  have hbind : t.Remains ((bindNext next).after t) := moves_bindNext_of hown next t
  refine after_bind_cases (Trans.trans hdismiss hbind) fun _ u hu => ?_
  rw [after_eq_of_run hu] at hbind
  have hseated (n : Nat) (hn : next = some n) : n < u.scenes.size := by
    subst hn
    rw [hbind.size]
    exact seated_of_bindNext hu
  have hhand : u.Remains ((handOver next).after u) := by
    unfold handOver
    refine after_bind_cases (moves_requirePart .compositor u ▸ refl u) fun _ v hv => ?_
    obtain rfl : u = v := (moves_requirePart .compositor u).trans (after_eq_of_run hv)
    exact ⟨.of_eq rfl rfl rfl, rfl, Or.inr hseated⟩
  have hup : u.Remains ((do handOver next; bringUp next : Act (World α) Unit).after u) := by
    refine after_bind_cases hhand fun _ v hv => ?_
    rw [after_eq_of_run hv] at hhand
    exact Trans.trans hhand (moves_bringUp_of hown next v)
  exact Trans.trans (Trans.trans hdismiss hbind) hup

theorem covers_remains : Covers (α := α) Remains where
  tools n := (tools_ownWork n).mono fun _ _ h => h.remains
  sound _ _ := (moves_onDepot _).mono fun _ _ h => (h.ownWork 0).remains
  wish hs hr := (ownWork_nextWish hs hr).remains
  input _ _ := ⟨.of_eq rfl rfl rfl, rfl, Or.inl rfl⟩
  change := remains_changeScene

theorem carries_remains : Carries (α := α) Remains := covers_remains.carries

/-- A theatre, and the scene that comes next is there. -/
def Expects (next : Option Nat) (w : World α) : Prop :=
  w.Theatre ∧ ∀ n, next = some n → n < w.scenes.size

omit [Host α] in
theorem expects_of_remains {β : Type} {next : Option Nat} {x : Act (World α) β}
    (hx : x.Moves Remains) : x.Keeps (Expects next) := fun w hw =>
  ⟨(hx w).theatre hw.1, (hx w).size ▸ hw.2⟩

/-- The current scene can always leave. -/
theorem faultsFrom_dismiss : FaultsFrom Theatre Blamed (dismiss : Act (World α) Unit) := by
  intro w f t hw hr
  unfold dismiss at hr
  rw [run_bind_of_ok (run_get w)] at hr
  cases hn : w.current with
  | none =>
    rw [hn] at hr
    cases hr
  | some n =>
    obtain ⟨spec, hplays, -⟩ := hw.exists_plays hn
    obtain ⟨-, c, hc, -⟩ := id hplays
    rw [hn] at hr
    dsimp only at hr
    rw [run_ifHas hc] at hr
    exact faultsFrom_callLeave w f t hplays hr

omit [Host α] in
/-- A scene that is there can be bound. -/
theorem faultsFrom_bindNext {F : Fault → World α → Prop} (next : Option Nat) :
    FaultsFrom (Expects next) F (bindNext next) := by
  cases next with
  | none => exact faultsFrom_pure _
  | some n =>
    refine faultsFrom_of_ok fun w hw => ?_
    obtain ⟨c, _, hc, -⟩ := hw.1.exists_spec (hw.2 n rfl)
    obtain ⟨-, -, hbind⟩ := run_callBind hc
    exact ⟨_, _, (run_ifHas hc .bind (callBind n)).trans hbind⟩

/-- **A change to a scene that is there stops only at a mistake in its document.** -/
theorem faultsFrom_changeScene (next : Option Nat) :
    FaultsFrom (Expects next) Blamed (changeScene next : Act (World α) Unit) := by
  have hown {n : Nat} {w v : World α} (h : w.OwnWork n v) : w.Remains v := h.remains
  unfold changeScene
  refine faultsFrom_bind (faultsFrom_dismiss.mono fun _ h => h.1)
    (expects_of_remains (moves_dismiss_of hown)) fun _ => ?_
  refine faultsFrom_bind (faultsFrom_bindNext next)
    (expects_of_remains (moves_bindNext_of hown next)) fun _ => ?_
  intro w f t hw hr
  rw [run_bind_of_ok (run_handOver hw.1.parts next)] at hr
  cases next with
  | none => cases hr
  | some n =>
    obtain ⟨c, spec, hc, hspec, haccepted⟩ := hw.1.exists_spec (hw.2 n rfl)
    have hplays : (w.handedTo (some n)).Plays n spec := ⟨rfl, c, hc, hspec⟩
    exact faultsFrom_bringUp haccepted _ f t hplays hr

/-- A request for a scene stops only where nothing can be looked up by the name, where a name that
is missing cannot be printed, or where the scene does. -/
theorem faultsFrom_switchTo (name : Value α) :
    FaultsFrom (fun w => w.Theatre ∧ (∀ f, name.nameKey = .error f → w.Blamed f) ∧
      (name.writable = false → w.Blamed .notANumber)) Blamed (switchTo name) := by
  rintro w f t ⟨hw, hname, hlong⟩ hr
  unfold switchTo at hr
  cases hkey : name.nameKey with
  | error e =>
    rw [run_bind_of_error (by rw [run_registered?, hkey])] at hr
    cases hr
    exact hname f hkey
  | ok key =>
    rw [run_bind_of_ok (by rw [run_registered?, hkey])] at hr
    split at hr
    · next n hn =>
      obtain ⟨key', -, hn⟩ := Option.bind_eq_some_iff.1 hn
      refine faultsFrom_changeScene (some n) w f t ⟨hw, fun m hm => ?_⟩ hr
      cases hm
      exact hw.listed key' n hn
    · rcases run_bind_eq_error.1 hr with hr | ⟨_, _, -, hr⟩
      · rw [run_ofExcept, Prod.mk.injEq] at hr
        obtain ⟨hwritten, rfl⟩ := hr
        obtain ⟨hunwritable, rfl⟩ := Value.told_eq_error.1 hwritten
        exact hlong hunwritable
      · cases hr

/-! ## 3. A press

The buttons of a scene perform what its document says.  A fault can come from the target of an
action, or from the key of a sound; both are looked for in the document that the scene plays. -/

/-- The scene `n` plays the document in a theatre. -/
structure Performs (n : Nat) (spec : SceneSpec α) (w : World α) : Prop where
  theatre : w.Theatre
  plays : w.Plays n spec

section Press

variable {n : Nat} {spec : SceneSpec α}

omit [Host α] in
theorem performs_of_ownWork {β : Type} {x : Act (World α) β} (hx : x.Moves (OwnWork n)) :
    x.Keeps (Performs n spec) := fun w hw =>
  ⟨(hx w).remains.theatre hw.theatre, (hx w).plays hw.plays⟩

omit [Host α] in
/-- What a scene does by itself it can do in a theatre as well. -/
theorem faultsFrom_performs {β : Type} {F : Fault → World α → Prop} {x : Act (World α) β}
    (hx : FaultsFrom (Plays n spec) F x) : FaultsFrom (Performs n spec) F x :=
  hx.mono fun _ h => h.plays

theorem faultsFrom_switchScene {name : Value α}
    (hname : ∀ f, name.nameKey = .error f → spec.Flaw f)
    (hlong : name.writable = false → spec.Flaw .notANumber) :
    FaultsFrom (Performs n spec) Blamed (switchScene n name) := by
  unfold switchScene
  refine faultsFrom_bind (faultsFrom_performs (faultsFrom_reaches _))
    (performs_of_ownWork (moves_reaches n _).of_eq) fun _ => faultsFrom_ite (fun _ => ?_) fun _ =>
      faultsFrom_performs (faultsFrom_afterTold hlong fun _ => faultsFrom_sayFor _)
  exact (faultsFrom_switchTo name).mono fun w hw =>
    ⟨hw.theatre, fun f hf => blamed_of_flaw hw.plays (Or.inl (hname f hf)),
      fun h => blamed_of_flaw hw.plays (Or.inl (hlong h))⟩

omit [Host α] in
/-- An action that leads to nothing that can be looked up was described so. -/
theorem misdirects_of_readClick {fields : Fields α} {a : ActionSpec α} {log log' : Log}
    (h : (Workshop.readClick fields).run log = (.ok (some a), log')) :
    (a.kind = .switchScene → ∀ f, a.target.nameKey = .error f → Misdirects fields f) ∧
      (a.kind = .playSound → ∀ f, a.sound.nameKey = .error f → Misdirects fields f) := by
  unfold Workshop.readClick at h
  dsimp only at h
  split at h
  · cases h
  · obtain ⟨click, hclick, haction, htarget, hsound, -⟩ := resultsIn_readAction _ _ _ _ h a rfl
    refine ⟨fun hkind f hf => ?_, fun hkind f hf => ?_⟩
    · exact .scene hclick (hkind ▸ haction) (htarget ▸ hf)
    · exact .sound hclick (hkind ▸ haction) (hsound ▸ hf)

omit [Host α] in
/-- What an action is told by cannot be printed only if its description cannot. -/
theorem flaw_of_readClick {fields : Fields α} (hfields : fields ∈ spec.descriptions)
    {a : ActionSpec α} {log log' : Log}
    (h : (Workshop.readClick fields).run log = (.ok (some a), log')) :
    (a.target.writable = false → spec.Flaw .notANumber) ∧
      (a.sound.writable = false → spec.Flaw .notANumber) ∧
      ((Value.map a.params).writable = false → spec.Flaw .notANumber) := by
  unfold Workshop.readClick at h
  dsimp only at h
  split at h
  · cases h
  · obtain ⟨click, hclick, -, htarget, hsound, hparams⟩ := resultsIn_readAction _ _ _ _ h a rfl
    have hmap (hlong : (Value.map click).writable = false) : spec.Flaw .notANumber := by
      rw [← hclick] at hlong
      exact .entity hfields (.long_get hlong)
    rw [htarget, hsound, hparams]
    exact ⟨fun hlong => hmap (Value.not_writable_of_get hlong),
      fun hlong => hmap (Value.not_writable_of_get hlong), hmap⟩

/-- An action stops only where it was described so, or where the scene that it leads to does.  The
description of the action is among those of the document, so a fault of its target, its sound or
its parameters is one that the document can be blamed for. -/
theorem faultsFrom_perform {fields : Fields α} (hfields : fields ∈ spec.descriptions)
    {a : ActionSpec α} {log log' : Log}
    (ha : (Workshop.readClick fields).run log = (.ok (some a), log')) :
    FaultsFrom (Performs n spec) Blamed (perform n a) := by
  obtain ⟨hscene, hsound⟩ := misdirects_of_readClick ha
  obtain ⟨htargetLong, hsoundLong, hparamsLong⟩ := flaw_of_readClick hfields ha
  have hsay : (sayFor n ("Button action: " ++ Vocabulary.word a.kind) :
      Act (World α) Unit).Moves (OwnWork n) := (moves_sayFor n _).ownWork n
  unfold perform
  refine faultsFrom_bind (faultsFrom_performs (faultsFrom_sayFor _)) (performs_of_ownWork hsay)
    fun _ => ?_
  split
  · next hkind =>
    exact faultsFrom_ite (fun _ => faultsFrom_switchScene (fun f hf => .button hfields
      (hscene hkind f hf)) htargetLong) fun _ => faultsFrom_pure _
  · exact faultsFrom_performs (faultsFrom_ite (fun _ => faultsFrom_switchToState htargetLong)
      fun _ => faultsFrom_pure _)
  · next hkind =>
    have hplay : (Depot.playSound a.sound .null).FaultsIn
        fun f => spec.Flaw f ∨ Host.Refuses α f :=
      Depot.faultsIn_playSound (fun f hf => Or.inl (.button hfields (hsound hkind f hf)))
        fun h => Or.inl (hsoundLong h)
    refine faultsFrom_performs (faultsFrom_ite (fun _ => ?_) fun _ => faultsFrom_pure _)
    exact faultsFrom_afterReach fun _ => faultsFrom_ite
      (fun _ => faultsFrom_afterDepot hplay fun _ => faultsFrom_pure _) fun _ => faultsFrom_pure _
  · refine faultsFrom_performs (faultsFrom_ofScript fun c _ => faultsFrom_ite (fun _ => ?_) fun _ =>
      faultsFrom_afterTold hparamsLong fun _ => faultsFrom_sayFor _)
    -- the state that a custom action names is one of its parameters, which were printable as a
    -- whole
    unfold answerCustom
    refine faultsFrom_own (faultsFrom_never (faultsIn_onDevice (faultsIn_modify _)))
      ((moves_onDevice _).ownWork n) fun _ => ?_
    split
    · next state hstate =>
      refine faultsFrom_switchToState fun hlong => hparamsLong ?_
      cases hparams : (Value.map a.params).writable with
      | true => exact (Value.writable_lookup hparams hstate).symm.trans hlong
      | false => rfl
    · exact faultsFrom_pure _

/-- A button of the document is there. -/
def HasButton (spec : SceneSpec α) (e : Nat) (w : World α) : Prop :=
  ∃ f, w.entities[e]? = some f ∧ f.isButton = true ∧ ∃ fields ∈ spec.descriptions, f.BuiltFrom fields

omit [Host α] in
/-- A button stays one, with what it was built from. -/
theorem HasButton.ages {e : Nat} {w v : World α} (hw : w.HasButton spec e) (h : w.Ages v) :
    v.HasButton spec e := by
  obtain ⟨f, hf, hbutton, fields, hfields, hbuilt⟩ := hw
  obtain ⟨g, hg, hfg⟩ := h.entities e f hf
  exact ⟨g, hg, hfg.isButton.trans hbutton, fields, hfields, hbuilt.trans hfg⟩

/-- A button stops a press only if it has no rectangle, or by its action.  The rectangle is
computed before the action is looked at, and only for a button that is visible. -/
theorem faultsFrom_click (e : Nat) (x y : α) :
    FaultsFrom (fun w => w.Performs n spec ∧ w.HasButton spec e) Blamed (click n e x y) := by
  rintro w f t ⟨hw, g, hg, hbutton, fields, hfields, hbuilt⟩ hr
  unfold click at hr
  rw [run_bind_of_ok (by rw [run_entityAt, hg])] at hr
  cases ha : g.clicked? x y with
  | error f' =>
    rw [ha] at hr
    cases hr
    obtain ⟨hvisible, hbounds⟩ := Entity.bounds_of_clicked? ha
    exact Or.inr ⟨n, spec, hw.plays, Or.inr (.button hfields hg hbuilt hbutton hvisible hbounds)⟩
  | ok a =>
    rw [ha, run_bind_of_ok (run_ofExcept _ w)] at hr
    cases a with
    | none => cases hr
    | some a =>
      have haction := Entity.action?_of_answer? (Entity.answer?_of_clicked? ha)
      obtain ⟨log, hread⟩ := hbuilt.action hbutton #[]
      rw [haction] at hread
      exact faultsFrom_perform hfields hread w f t hw hr

/-- As long as a press activates nothing, its scene performs.  By induction on the entities, with
the count as in the loop itself: while it is the old one the scene is current and its buttons are
those of the document. -/
theorem faultsFrom_clickAll (x y : α) (activations : Nat) : ∀ es : List Nat,
    FaultsFrom (fun w => w.Performs n spec ∧
      (∃ c, w.script? n = some c ∧ c.activations = activations) ∧ ∀ e ∈ es, w.HasButton spec e)
      Blamed (clickAll n x y activations es)
  | [] => faultsFrom_pure _
  | e :: es => by
    rintro w f t ⟨hw, ⟨c, hc, hcount⟩, hbuttons⟩ hr
    unfold clickAll at hr
    rcases run_bind_eq_error.1 hr with hr | ⟨_, u, hclick, hr⟩
    · exact faultsFrom_click e x y w f t ⟨hw, hbuttons e List.mem_cons_self⟩ hr
    · have hremains : w.Remains u :=
        after_eq_of_run hclick ▸ moves_click carries_remains.toPasses n e x y w
      have hnotice : w.Notices n u :=
        after_eq_of_run hclick ▸ moves_click (spans_notices n).carries.toPasses n e x y w
      obtain ⟨d, hd, hspec, -⟩ := hnotice.ages.script? hc
      rw [run_bind_of_ok (by rw [run_scriptAt, hd])] at hr
      split at hr
      · cases hr
      · next hsame =>
        have hsame : d.activations = activations := by simpa using hsame
        have hn : u.current = some n := by
          rcases hnotice.notice hw.plays.1 with h | h
          · exact h
          · obtain ⟨d', hd', hlt⟩ := h c hc
            obtain rfl : d = d' := Option.some.inj (hd.symm.trans hd')
            omega
        obtain ⟨-, c', hc', hcspec⟩ := hw.plays
        obtain rfl : c = c' := Option.some.inj (hc.symm.trans hc')
        refine faultsFrom_clickAll x y activations es u f t ⟨⟨hremains.theatre hw.theatre, hn, d, hd,
          hspec.trans hcspec⟩, ⟨d, hd, hsame⟩, fun e he => ?_⟩ hr
        exact (hbuttons e (List.mem_cons_of_mem _ he)).ages hnotice.ages

end Press

/-! ## 4. Time

In an update time passes, a press is answered, and a transition that is due is followed.  Each
part is looked at in a world in which the scene plays its document, since only there it is known
which flaws there are. -/

/-- The world has a history from its start, and it is a theatre with as many scenes. -/
structure Runs (start w : World α) : Prop where
  sound : Sound start w
  theatre : w.Theatre
  size : w.scenes.size = start.scenes.size

/-- The scene `n` plays the document in a run. -/
structure Playing (start : World α) (n : Nat) (spec : SceneSpec α) (w : World α) : Prop where
  runs : Runs start w
  plays : w.Plays n spec

section Update

variable {start : World α} {n : Nat} {spec : SceneSpec α}

theorem Playing.performs {w : World α} (h : Playing start n spec w) : w.Performs n spec :=
  ⟨h.runs.theatre, h.plays⟩

theorem Runs.remains {w v : World α} (hw : Runs start w) (hv : w.Remains v)
    (hsound : Sound start v) : Runs start v :=
  ⟨hsound, hv.theatre hw.theatre, hv.size.trans hw.size⟩

/-- The buttons that a scene lists are buttons of its document. -/
theorem Playing.hasButton (hstart : start.Fresh) {w : World α} (hw : Playing start n spec w)
    {c : Script α} (hc : w.script? n = some c) : ∀ e ∈ c.clickables, w.HasButton spec e := by
  intro e he
  obtain ⟨spec', hspec'⟩ := hstart.exists_inOrder n
  obtain ⟨history⟩ := hw.runs.sound.history
  obtain ⟨f, hf, hbutton, fields, hfields, hbuilt⟩ := (history.inOrder hspec' c hc).made e he
  obtain ⟨-, c', hc', hspec⟩ := hw.plays
  obtain rfl : c = c' := Option.some.inj (hc.symm.trans hc')
  refine ⟨f, hf, hbutton, fields, ?_, hbuilt⟩
  rw [Script.descriptions, states_of_spec hspec] at hfields
  exact hfields

omit [Scalar α] [Host α] in
theorem faultsFrom_freshPress? {F : Fault → World α → Prop} :
    FaultsFrom (Plays n spec) F (freshPress? n) := by
  unfold freshPress?
  refine faultsFrom_bind faultsFrom_get keeps_get fun w => ?_
  exact faultsFrom_afterReach fun _ => faultsFrom_ite (fun _ => faultsFrom_pure _) fun _ =>
    faultsFrom_pure _

/-- A press that reaches the buttons is followed button by button. -/
theorem faultsFrom_dispatch (hstart : start.Fresh) :
    FaultsFrom (Playing start n spec) Blamed (dispatch n : Act (World α) Bool) := by
  intro w f t hw hr
  unfold dispatch at hr
  rcases run_bind_eq_error.1 hr with hr | ⟨p, u, hpress, hr⟩
  · exact faultsFrom_freshPress? w f t hw.plays hr
  · obtain rfl : w = u := (moves_freshPress? n w).trans (after_eq_of_run hpress)
    cases p with
    | none => cases hr
    | some p =>
      obtain ⟨-, c, hc, -⟩ := hw.plays
      dsimp only at hr
      rw [run_bind_of_ok (by rw [run_scriptAt, hc])] at hr
      exact faultsFrom_clickAll p.x p.y c.activations c.clickables w f t
        ⟨hw.performs, ⟨c, hc, rfl⟩, hw.hasButton hstart hc⟩ hr

/-- A timer stops only where it leads to nothing, or where the scene that it leads to does. -/
theorem faultsFrom_followIfDue {state : StateSpec α} (hstate : state ∈ spec.states) :
    FaultsFrom (Performs n spec) Blamed (followIfDue n state) := by
  unfold followIfDue
  split
  · next t ht =>
    obtain ⟨kind, duration, nextState, nextScene⟩ := t
    cases kind
    refine faultsFrom_bind (faultsFrom_performs (faultsFrom_scriptAt))
      (performs_of_ownWork (moves_scriptAt n).of_eq) fun c => faultsFrom_ite (fun _ => ?_) fun _ =>
        faultsFrom_pure _
    refine faultsFrom_ite (fun hscene => ?_) fun hnone =>
      faultsFrom_performs (faultsFrom_ite (fun _ => ?_) fun _ => faultsFrom_pure _)
    · refine faultsFrom_switchScene (fun f hf => .timer hstate ht hf) fun hlong => .goal hstate ht ?_
      rwa [Value.orElse, if_pos hscene]
    · refine faultsFrom_switchToState fun hlong => .goal hstate ht ?_
      rwa [Value.orElse, if_neg hnone]
  · exact faultsFrom_pure _

/-- An update stops at an animation, at a button that is pressed, or at what comes next.  The cases
follow the update: the clock, then the press, and the transition if the press has not activated
anything. -/
theorem faultsFrom_updateScript (hstart : start.Fresh) (dt : α) :
    FaultsFrom (Playing start n spec) Blamed (updateScript n dt) := by
  intro w f t hw hr
  obtain ⟨hn, c, hc, hspec⟩ := hw.plays
  unfold updateScript at hr
  rw [run_bind_of_ok (by rw [run_scriptAt, hc])] at hr
  split at hr
  · cases hr
  · next state hstate =>
    rcases run_bind_eq_error.1 hr with hr | ⟨_, u, hadvance, hr⟩
    · exact faultsFrom_advance dt w f t hw.plays hr
    · have hown : w.OwnWork n u := after_eq_of_run hadvance ▸ moves_advance n dt w
      have hact : Acting start n u :=
        after_eq_of_run hadvance ▸ acting_advance dt w ⟨hw.runs.sound, hn⟩
      have hu : Playing start n spec u :=
        ⟨hw.runs.remains hown.remains hact.1, hown.plays hw.plays⟩
      rcases run_bind_eq_error.1 hr with hr | ⟨activated, v, hdispatch, hr⟩
      · exact faultsFrom_dispatch hstart u f t hu hr
      · cases activated with
        | true => cases hr
        | false =>
          have hremains : u.Remains v :=
            after_eq_of_run hdispatch ▸ moves_dispatch carries_remains.toPasses n u
          obtain ⟨-, hv⟩ := (spec_dispatch u hact).1 false v hdispatch
          obtain ⟨-, d, hd, hdspec⟩ := hu.plays
          obtain ⟨d', hd', hdspec', -⟩ := hremains.toAges.script? hd
          have hmem : state ∈ spec.states := by
            rw [← states_of_spec hspec]
            exact List.mem_of_getElem? hstate
          exact faultsFrom_followIfDue hmem v f t ⟨hremains.theatre hu.runs.theatre, hv rfl, d', hd',
            hdspec'.trans hdspec⟩ hr

/-- What is asked of the current scene, if there is one. -/
theorem faultsFrom_ofCurrent {f : Nat → Act (World α) Unit}
    (h : ∀ n spec, FaultsFrom (Playing start n spec) Blamed (f n)) :
    FaultsFrom (Runs start) Blamed (do match (← get).current with
      | some n => f n
      | none => pure () : Act (World α) Unit) := by
  intro w e t hw hr
  rw [run_bind_of_ok (run_get w)] at hr
  cases hn : w.current with
  | none =>
    rw [hn] at hr
    cases hr
  | some n =>
    rw [hn] at hr
    obtain ⟨spec, hplays, -⟩ := hw.theatre.exists_plays hn
    exact h n spec w e t ⟨hw, hplays⟩ hr

theorem faultsFrom_ifHas {x : Act (World α) Unit} (hook : Hook)
    (hx : FaultsFrom (Playing start n spec) Blamed x) :
    FaultsFrom (Playing start n spec) Blamed (ifHas n hook x) := by
  intro w f t hw hr
  obtain ⟨-, c, hc, -⟩ := hw.plays
  rw [run_ifHas hc] at hr
  exact hx w f t hw hr

/-- The update of the current scene. -/
theorem faultsFrom_update (hstart : start.Fresh) (dt : α) :
    FaultsFrom (Runs start) Blamed (update dt) := by
  refine faultsFrom_ofCurrent fun n spec => faultsFrom_ifHas _ ?_
  intro w f t hw hr
  obtain ⟨-, c, hc, -⟩ := hw.plays
  obtain ⟨s, hs, hrole⟩ := script?_eq_some.1 hc
  unfold callUpdate at hr
  rw [run_bind_of_ok (by rw [run_sceneAt, hs]), hrole] at hr
  exact faultsFrom_updateScript hstart dt w f t hw hr

end Update

/-! ## 5. Drawing

What can go wrong in drawing is found in the entities: a colour that cannot be read, a size that
is no number, a surface that the host refuses. -/

omit [Scalar α] [Host α] in
/-- What is drawn is in a layer. -/
theorem holds_of_drawn {w : World α} {o : Occupant} (h : o ∈ w.compositor.drawOrder) :
    w.Holds o := by
  obtain ⟨l, -, hl⟩ := List.mem_flatMap.1 h
  exact ⟨l, hl⟩

/-- Drawing changes nothing but the depot. -/
theorem moves_drawOccupant (o : Occupant) :
    (drawOccupant o : Act (World α) Unit).Moves OffDepot := by
  unfold drawOccupant
  split
  · exact moves_bind (moves_entityAt _).of_eq fun e => moves_bind moves_get fun w => moves_onDevice _
  · exact moves_pure _
  · exact moves_onDevice _

/-- Drawing changes the depot and nothing else. -/
theorem moves_drawLayers : (drawLayers : Act (World α) Unit).Moves OffDepot :=
  moves_bind (moves_requirePart _).of_eq fun _ => moves_bind moves_get fun _ =>
    moves_forM _ fun o _ => moves_drawOccupant o

/-- **What is shown stops the drawing only if it cannot be drawn.** Whatever is in a layer was put
there by the current scene and is one of its entities.  Drawing changes the depot only, so this
holds while the layers are gone through. -/
theorem faultsFrom_drawLayers {start : World α} (hstart : start.Fresh) (hhouse : start.Playhouse) :
    FaultsFrom (Runs start) Blamed (drawLayers : Act (World α) Unit) := by
  intro w f t hw hr
  obtain ⟨history⟩ := hw.sound.history
  have hdraw : FaultsFrom (w.OffDepot ·) Blamed (w.compositor.drawOrder.forM drawOccupant) := by
    refine faultsFrom_forM _ (fun o ho => ?_) fun o _ u hu =>
      Trans.trans hu (moves_drawOccupant o u)
    obtain ⟨n, hn, -⟩ := history.putSince hstart (holds_of_drawn ho)
    obtain ⟨spec, ⟨-, c, hc, hspec⟩, -⟩ := hw.theatre.exists_plays hn
    obtain ⟨k, e, rfl, he⟩ := (history.furnished hstart hhouse).2 o (holds_of_drawn ho)
    intro u f t hu hr
    have ht : w.OffDepot t := Trans.trans hu (after_eq_of_run hr ▸ moves_drawOccupant (.entity k) u)
    unfold drawOccupant at hr
    have he' : u.entities[k]? = some e := by rw [hu.outside.entities, he]
    rw [run_bind_of_ok (by rw [run_entityAt, he']), run_bind_of_ok (run_get u)] at hr
    obtain ⟨hvisible, halpha, hlook⟩ := faultsIn_onDevice (e.faultsIn_render u.canvas) u f t hr
    rw [ht]
    exact Or.inr ⟨n, spec, ⟨hn, c, hc, hspec⟩,
      Or.inr (.picture (holds_of_drawn ho) he hvisible halpha hlook)⟩
  unfold drawLayers at hr
  rw [run_bind_of_ok (by rw [run_requirePart, if_pos (by simp [hasPart, hw.theatre.parts])]),
    run_bind_of_ok (run_get w)] at hr
  exact hdraw w f t rfl hr

/-! ## 6. Runs

By induction on the moments.  The condition `Runs` is kept by every moment, whether or not it ends
with a fault, so it holds where the fault happens; and there the lemmas above say where the fault
comes from. -/

/-- A moment of a run: something is asked of the world, or the layers are drawn. -/
inductive Moment (α : Type) where
  | operation (o : Operation α)
  | draw

def Moment.act : Moment α → Act (World α) Unit
  | .operation o => o.act
  | .draw => drawLayers

/-- The world after some moments, whether or not they end with a fault. -/
def passThrough : List (Moment α) → World α → World α
  | [], w => w
  | m :: ms, w => passThrough ms (m.act.after w)

/-- From outside scenes are asked for by texts, and states by what can be printed; and only scenes
that are there are registered or put in place. -/
inductive Moment.Proper (scenes : Nat) : Moment α → Prop where
  | register (name : String) {n : Nat} (h : n < scenes) :
      Proper scenes (.operation (.register name n))
  | switchTo (name : String) : Proper scenes (.operation (.switchTo (.text name)))
  | change {next : Option Nat} (h : ∀ n, next = some n → n < scenes) :
      Proper scenes (.operation (.change next))
  | switchState {name : Value α} (h : name.writable = true) :
      Proper scenes (.operation (.switchState name))
  | events (es : List (Event α)) : Proper scenes (.operation (.events es))
  | pass (dt : α) : Proper scenes (.operation (.pass dt))
  | draw : Proper scenes .draw

section Runs

variable {start : World α}

theorem runs_of_remains {β : Type} {x : Act (World α) β} (hx : x.Moves Remains)
    (hsound : x.Keeps (Sound start)) : x.Keeps (Runs start) := fun w hw =>
  hw.remains (hx w) (hsound w hw.sound)

omit [Host α] in
/-- A scene that is there is registered. -/
theorem Theatre.register {w : World α} (hw : w.Theatre) (name : String) {n : Nat}
    (hn : n < w.scenes.size) : ((World.register name n).after w).Theatre where
  parts := hw.parts
  scripted := hw.scripted
  accepted := hw.accepted
  seated := hw.seated
  listed other m hm := by
    change (w.registry.put name n).lookup other = some m at hm
    rw [Table.lookup_put] at hm
    split at hm
    · cases hm
      exact hn
    · exact hw.listed other m hm

/-- Every moment of a proper run keeps what a run is: each of the operations leads to a sound
world in which the same scenes remain. -/
theorem runs_act {m : Moment α} (hm : m.Proper start.scenes.size) : m.act.Keeps (Runs start) := by
  cases hm with
  | register name hn =>
    intro w hw
    exact ⟨sound_act (.register name _) w hw.sound, hw.theatre.register name (hw.size ▸ hn), hw.size⟩
  | switchTo name =>
    exact runs_of_remains (moves_switchTo carries_remains.toPasses _) (sound_act (.switchTo _))
  | change h => exact runs_of_remains (remains_changeScene _) (sound_act (.change _))
  | switchState _ =>
    exact runs_of_remains
      (moves_ofCurrent fun n => (carries_remains.places n).switchToState _)
      (sound_act (.switchState _))
  | events es =>
    exact runs_of_remains (moves_bind (moves_handleEvents carries_remains es) fun _ => moves_pure _)
      (sound_act (.events es))
  | pass dt =>
    exact runs_of_remains (moves_tick carries_remains covers_remains.step dt) (sound_act (.pass dt))
  | draw =>
    exact runs_of_remains (moves_drawLayers.mono fun _ _ h => (h.ownWork 0).remains)
      (sound_of_offDepot moves_drawLayers)

theorem runs_requirePart (p : Part) : (requirePart p : Act (World α) Unit).Keeps (Runs start) :=
  runs_of_remains (moves_requirePart p).of_eq (sound_requirePart p)

theorem runs_modifyInput (f : Input α → Input α) :
    (modify fun w : World α => { w with input := f w.input } : Act (World α) PUnit).Keeps
      (Runs start) :=
  runs_of_remains (moves_modifyInput carries_remains f) (sound_modifyInput f)

theorem faultsFrom_requirePart (p : Part) : FaultsFrom (Runs start) Blamed (requirePart p) :=
  faultsFrom_of_ok fun w hw =>
    ⟨(), w, by rw [run_requirePart, if_pos (by simp [hasPart, hw.theatre.parts])]⟩

/-- A scene that plays a document does not look at events. -/
theorem faultsFrom_handleEvent :
    FaultsFrom (Runs start) Blamed (handleEvent : Act (World α) Unit) := by
  refine faultsFrom_ofCurrent fun n spec => faultsFrom_ifHas _ ?_
  refine FaultsFrom.mono (faultsFrom_ofScene fun s c hr _ => ?_) fun _ h => h.plays
  rw [hr]
  exact faultsFrom_pure _

/-- Events move the input and print lines. -/
theorem faultsFrom_handleEvents : ∀ es : List (Event α),
    FaultsFrom (Runs start) Blamed (handleEvents es)
  | [] => faultsFrom_pure _
  | e :: rest => by
    have hevent : (handleEvent : Act (World α) Unit).Moves Remains :=
      moves_ofCurrent fun n => moves_ifHas (moves_callEvent_of carries_remains.call n) n _
    unfold handleEvents
    split
    · exact faultsFrom_pure _
    · exact faultsFrom_pure _
    · next e' rest' _ heq =>
      cases heq
      refine faultsFrom_bind (faultsFrom_requirePart _) (runs_requirePart _) fun _ => ?_
      refine faultsFrom_bind (faultsFrom_modify _) (runs_modifyInput (·.handle e)) fun _ => ?_
      refine faultsFrom_bind (faultsFrom_requirePart _) (runs_requirePart _) fun _ => ?_
      exact faultsFrom_bind faultsFrom_handleEvent (runs_of_remains hevent sound_handleEvent) fun _ =>
        faultsFrom_handleEvents rest

/-- A frame is an update and the end of the frame for the input. -/
theorem faultsFrom_tick (hstart : start.Fresh) (dt : α) :
    FaultsFrom (Runs start) Blamed (tick dt) := by
  have hupdate : (update (Scalar.min dt longestFrame)).Moves Remains :=
    moves_ofCurrent fun n =>
      moves_ifHas (moves_callUpdate carries_remains.toPasses (covers_remains.step n _)) n _
  unfold tick
  refine faultsFrom_bind (faultsFrom_requirePart _) (runs_requirePart _) fun _ => ?_
  refine faultsFrom_bind (faultsFrom_update hstart _) (runs_of_remains hupdate (sound_update _))
    fun _ => ?_
  exact faultsFrom_bind (faultsFrom_requirePart _) (runs_requirePart _) fun _ => faultsFrom_modify _

theorem faultsFrom_act (hstart : start.Fresh) (hhouse : start.Theatre) {m : Moment α}
    (hm : m.Proper start.scenes.size) : FaultsFrom (Runs start) Blamed m.act := by
  cases hm with
  | register name hn => exact faultsFrom_modify _
  | switchTo name =>
    exact (faultsFrom_switchTo _).mono fun w hw => ⟨hw.theatre, nofun, fun h => by simp at h⟩
  | change h =>
    exact (faultsFrom_changeScene _).mono fun w hw => ⟨hw.theatre, hw.size ▸ h⟩
  | switchState hname =>
    exact faultsFrom_ofCurrent fun n spec => (faultsFrom_switchToState fun hlong =>
      Bool.noConfusion (hname.symm.trans hlong)).mono fun _ h => h.plays
  | events es =>
    refine faultsFrom_bind (faultsFrom_handleEvents es) ?_ fun _ => faultsFrom_pure _
    exact runs_of_remains (moves_handleEvents carries_remains es) (sound_handleEvents es)
  | pass dt => exact faultsFrom_tick hstart dt
  | draw => exact faultsFrom_drawLayers hstart hhouse.toPlayhouse

/-- By induction on the moments. -/
theorem runs_passThrough : ∀ {ms : List (Moment α)}, (∀ m ∈ ms, m.Proper start.scenes.size) →
    ∀ {w : World α}, Runs start w → Runs start (passThrough ms w)
  | [], _, _, hw => hw
  | m :: _, hms, w, hw => runs_passThrough (fun k hk => hms k (List.mem_cons_of_mem _ hk))
      (runs_act (hms m List.mem_cons_self) w hw)

/-- **Every fault comes from a mistake in the document of the current scene**, or is one with which
the host refuses something. -/
theorem faults_blamed (hstart : start.Fresh) (hhouse : start.Theatre) (ms : List (Moment α))
    (m : Moment α) (hproper : ∀ k ∈ m :: ms, k.Proper start.scenes.size) {f : Fault} {t : World α}
    (hrun : m.act.run (passThrough ms start) = (.error f, t)) : t.Blamed f := by
  refine faultsFrom_act hstart hhouse (hproper m List.mem_cons_self) _ f t ?_ hrun
  exact runs_passThrough (fun k hk => hproper k (List.mem_cons_of_mem _ hk))
    ⟨hstart.sound, hhouse, rfl⟩

end Runs

/-- A world that plays an accepted document is a theatre. -/
theorem theatre_playing {spec : SceneSpec Rat} (h : spec.Accepted) : (playing spec).Theatre where
  parts := rfl
  scripted
    | 0, _, hs => by cases hs; exact ⟨_, rfl⟩
    | _ + 1, _, hs => by simp [playing] at hs
  accepted
    | 0, _, hc => by cases hc; exact ⟨spec, rfl, h⟩
    | _ + 1, _, hc => by simp [script?, playing] at hc
  listed name n hn := by
    change [(spec.name, 0)].lookup name = some n at hn
    rw [List.lookup_cons] at hn
    split at hn <;> cases hn
    exact Nat.one_pos
  seated := nofun

/-- A document with a sprite whose image is named by a list. -/
def poster : Fields Rat :=
  [(.text "sceneName", .text "hall"),
   (.text "states", .list [.map [(.text "name", .text "wall"),
     (.text "layers", .map [(.text "SPRITES", .list [.map [(.text "type", .text "sprite"),
       (.text "assetId", .list [.text "logo"])]])])]])]

/-- The document is accepted, and yet its scene cannot be entered. -/
theorem faults_blamed_poster : ∃ spec log t,
    (readScene none (.map poster)).run #[] = (.ok spec, log) ∧
    (playing spec).Fresh ∧ (playing spec).Theatre ∧
    (switchTo (.text "hall")).run (playing spec) = (.error .wrongKind, t) ∧
    t.Blamed .wrongKind := by
  have hstops : (((readScene none (.map poster)).run #[]).1.toOption.map fun spec =>
      ((switchTo (.text "hall")).run (playing spec)).1) = some (.error .wrongKind) := by
    decide +kernel
  obtain ⟨spec, hspec, hfault⟩ := Option.map_eq_some_iff.1 hstops
  have hread := run_of_toOption hspec
  have hrun : (switchTo (.text "hall")).run (playing spec) =
      (.error .wrongKind, (switchTo (.text "hall")).after (playing spec)) := Prod.ext hfault rfl
  have htheatre : (playing spec).Theatre := theatre_playing ⟨_, _, _, _, hread⟩
  refine ⟨spec, _, _, hread, fresh_playing spec, htheatre, hrun, ?_⟩
  refine faults_blamed (fresh_playing spec) htheatre [] (.operation (.switchTo (.text "hall")))
    (fun m hm => ?_) hrun
  obtain rfl := List.mem_singleton.1 hm
  exact .switchTo "hall"

end World

end Diorama
