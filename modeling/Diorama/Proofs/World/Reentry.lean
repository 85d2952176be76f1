/-
# Clearing and coming back

Switching to a state that clears, and coming back to a scene, both begin from nothing: an empty
canvas and a script that keeps track of nothing.  What follows is an activation, and what an
activation makes is settled (`settled_placeState`).  So whatever happened before -- other states
piled on each other, animations halfway, scenes in between, activations that died -- two worlds
look the same afterwards, counted from their first new entity.
-/
import Diorama.Proofs.World.Isolation
import Diorama.Proofs.World.Tableau

namespace Diorama

open Act

variable {α : Type} [Scalar α]

/-! ## 1. Beginning from nothing

`Tableau.bare` is what is seen of a scene when its layers and records have just been emptied.  It
is told from the document and the number of the state, and so is everything after it. -/

/-- A tableau of a scene that shows nothing and keeps track of nothing. -/
def Tableau.bare (name : String) (image? : String → Option Surface) (spec : Option (SceneSpec α))
    (index : Nat) (stateName : Option String) : Tableau α where
  name := name
  image? := image?
  script := { spec, index, stateName, timer := 0.0 }

theorem Tableau.bare_atStart (name : String) (image? : String → Option Surface)
    (spec : Option (SceneSpec α)) (index : Nat) (stateName : Option String) :
    (bare name image? spec index stateName).script.motions.AtStart := Motions.atStart_empty

/-- A script that has been sent to a state which clears, before anything is placed. -/
def Script.restarted (index : Nat) (stateName : Option String) (c : Script α) : Script α :=
  Script.dropTracking { c with index, stateName, timer := 0.0, activations := c.activations + 1 }

/-- A script that is back at the first state of its document. -/
def Script.rewound (c : Script α) : Script α := { c with index := 0, timer := 0.0 }

/-- A script that has entered the first state, before anything is placed. -/
def Script.entered (name : String) (c : Script α) : Script α :=
  { c.rewound with stateName := some name }

namespace World

omit [Scalar α] in
theorem run_sayFor {n : Nat} {w : World α} {s : Scene α} (hs : w.scenes[n]? = some s)
    (line : String) : ∃ d, (sayFor n line).run w = (.ok (), { w with depot := d }) ∧
      d.image? = w.depot.image? ∧
      d.device.log = w.depot.device.log ++ #["[" ++ s.name ++ "] " ++ line] := by
  unfold sayFor
  rw [run_bind_of_ok (by rw [run_sceneAt, hs])]
  exact ⟨_, rfl, rfl, (Array.append_singleton).symm⟩

omit [Scalar α] in
theorem run_clearStage {n : Nat} {w : World α}
    (hreach : (reaches n .compositor).run w = (.ok true, w)) : (clearStage n).run w =
    (.ok (), { w with compositor := {} }.mapScript n (·.dropTracking)) := by
  unfold clearStage
  rw [run_bind_of_ok hreach, if_pos rfl]
  rfl

omit [Scalar α] in
theorem mapScript_mapScript (n : Nat) (f g : Script α → Script α) (w : World α) :
    (w.mapScript n f).mapScript n g = w.mapScript n fun c => g (f c) := by
  unfold mapScript
  congr 1
  refine Array.ext_getElem? fun m => ?_
  simp only [Array.getElem?_modify]
  split
  · cases w.scenes[m]? with
    | none => rfl
    | some s =>
      obtain ⟨name, bound, started, role⟩ := s
      cases role <;> rfl
  · rfl

omit [Scalar α] in
theorem scenes_mapScript {n : Nat} {w : World α} {s : Scene α} {c : Script α}
    (hs : w.scenes[n]? = some s) (hc : w.script? n = some c) (f : Script α → Script α) :
    (w.mapScript n f).scenes[n]? = some { s with role := .scripted (f c) } := by
  obtain ⟨s', hs', hr⟩ := script?_eq_some.1 hc
  obtain rfl : s = s' := Option.some.inj (hs.symm.trans hs')
  unfold mapScript
  rw [Array.getElem?_modify, if_pos rfl, hs, Option.map_some, hr]

omit [Scalar α] in
theorem Onstage.mapScript {n : Nat} {w : World α} {c : Script α} (h : w.Onstage n)
    (hc : w.script? n = some c) (f : Script α → Script α) : (w.mapScript n f).Onstage n := by
  obtain ⟨hparts, s, hs, hb⟩ := h
  exact ⟨hparts, _, scenes_mapScript hs hc f, hb⟩

/-- A scene that shows nothing, after a change of its script to one that keeps track of
nothing.  The tableau is bare: no entity, no layer and nothing that is kept track of; what it says
of the script is read off the change. -/
theorem seen_mapScript {n : Nat} {w : World α} {s : Scene α} {c : Script α}
    (honstage : w.Onstage n) (hs : w.scenes[n]? = some s) (hc : w.script? n = some c)
    (hblank : w.compositor = {}) {f : Script α → Script α} (htimer : (f c).timer = 0.0)
    (htracked : (f c).tracked = []) :
    (Tableau.bare s.name w.depot.image? (f c).spec (f c).index (f c).stateName).Seen n
      w.entities.size (w.mapScript n f) := by
  refine ⟨honstage.mapScript hc f, fun s' hs' => ?_, rfl, rfl, fun k => ?_, ?_, f c, ?_, ?_⟩
  · rw [← Option.some.inj ((scenes_mapScript hs hc f).symm.trans hs')]
    rfl
  · change w.entities[w.entities.size + k]? = _
    rw [Array.getElem?_eq_none (Nat.le_add_right _ k)]
    rfl
  · exact hblank.trans (Compositor.map_empty _).symm
  · exact script?_mapScript_self hc f
  · generalize f c = d at htimer htracked
    simp only [Script.tracked, List.append_eq_nil_iff, List.map_eq_nil_iff] at htracked
    obtain ⟨⟨hids, hclickables⟩, hmotions⟩ := htracked
    unfold Script.Alike
    obtain ⟨spec, index, stateName, timer, ids, clickables, ⟨entries⟩, activations, handles⟩ := d
    subst hids hclickables hmotions htimer
    rfl

/-- What finds a state is a text, and so has one. -/
theorem run_written_of_isText {states : List (StateSpec α)} {name : Value α} {i : Nat}
    (h : states.findIdx? (fun state => name.isText state.name) = some i) (w : World α) :
    (Act.ofExcept name.written).run w = (.ok name.plain, w) := by
  obtain ⟨_, htext, _⟩ := List.findIdx?_eq_some_iff_getElem.1 h
  rw [Value.isText_iff.1 htext, Value.written_text, run_ofExcept]
  rfl

/-- Once the switch to a state that clears has begun, the scene shows nothing and keeps track of
nothing. -/
theorem run_switchToState {n i : Nat} {w : World α} {s : Scene α} {c : Script α} {target : Value α}
    {state : StateSpec α} (honstage : w.Onstage n) (hs : w.scenes[n]? = some s)
    (hc : w.script? n = some c)
    (hfirst : c.states.findIdx? (fun state => target.isText state.name) = some i)
    (hstate : c.states[i]? = some state) (hclears : state.clears = true) :
    ∃ u, (switchToState n target).run w = (placeState n state).run u ∧
      (Tableau.bare s.name w.depot.image? c.spec i (some target.plain)).Seen n w.entities.size u ∧
      u.depot.device.log = w.depot.device.log ++
        #["[" ++ s.name ++ "] " ++ ("Switching to state: " ++ target.plain)] := by
  obtain ⟨d, hsay, himages, hlog⟩ := run_sayFor hs ("Switching to state: " ++ target.plain)
  have hon : ({ w with depot := d } : World α).Onstage n := honstage
  have hclear (f : Script α → Script α) :
      (clearStage n).run (World.mapScript n f { w with depot := d }) =
        (.ok (), World.mapScript n (fun c => (f c).dropTracking)
          { w with depot := d, compositor := {} }) := by
    rw [run_clearStage ((hon.mapScript hc f).run_reaches .compositor), ← mapScript_mapScript n f]
    rfl
  refine ⟨World.mapScript n (Script.restarted i (some target.plain))
    { w with depot := d, compositor := {} }, ?_, ?_, hlog⟩
  · unfold switchToState
    rw [run_bind_of_ok (by rw [run_scriptAt, hc]), hfirst]
    dsimp only
    rw [run_bind_of_ok (run_written_of_isText hfirst w), run_bind_of_ok hsay,
      run_bind_of_ok (run_modifyScript n _ _), hstate]
    dsimp only
    unfold activate
    rw [run_bind_of_ok (run_modifyScript n _ _), if_pos hclears, mapScript_mapScript,
      run_bind_of_ok (hclear _)]
    rfl
  · rw [← himages]
    exact seen_mapScript (w := { w with depot := d, compositor := {} })
      (f := Script.restarted i (some target.plain)) honstage hs hc rfl rfl rfl

/-! ## 2. Activating

An activation is settled, being made of settled acts; so from equal beginnings it leads to equal
tableaux, and it ends and prints in the same way. -/

theorem settled_clearStage : Settled (α := α) fun n _ => clearStage n := by
  refine settled_bind (settled_reaches .compositor) fun c => ?_
  have hdrop : Settled (α := α) fun n _ => modifyScript n (·.dropTracking) := by
    refine settled_modifyScript Script.dropTracking (fun b c d h => ?_)
      (fun t => ⟨rfl, rfl, rfl, rfl, rfl, rfl, fun _ => Motions.atStart_empty⟩) (fun _ _ => rfl)
      (fun _ _ => rfl) fun _ c => Nat.le_succ c.activations
    unfold Script.Alike at *
    rw [h]
    rfl
  refine settled_ite (settled_bind (fun t => ?_) fun _ => hdrop) hdrop
  refine ⟨.ok (), { t with layers := {} }, #[], ⟨rfl, rfl, rfl, rfl, rfl, rfl, id⟩,
    fun n b w hw => ⟨_, rfl, ?_, (Array.append_empty).symm⟩⟩
  exact ⟨hw.onstage, hw.name, hw.images, hw.size, hw.entities, (Compositor.map_empty _).symm,
    hw.script⟩

theorem settled_activate (state : StateSpec α) : Settled fun n _ => activate n state := by
  refine settled_bind ?_ fun _ => settled_ite (settled_bind settled_clearStage fun _ =>
    settled_placeState state) (settled_placeState state)
  refine settled_modifyScript id (fun b c d h => ?_) Tableau.Follows.refl (fun _ _ => rfl)
    (fun _ _ => rfl) fun _ c => Nat.le_succ c.activations
  unfold Script.Alike at *
  rw [h]
  rfl

/-! ## 3. Coming back

Coming back is a change of scenes: the old scene leaves, the layers are emptied, and the scene
begins at its first state.  None of these steps can bring anything over from the past, except the
images that are loaded. -/

variable [Host α]

/-- The scene `n` takes over and is set up; what is left of a change of scenes is the entering. -/
def moveIn (n : Nat) : Act (World α) Unit := do
  takeOver (some n)
  start n

theorem moves_moveIn (n : Nat) : (moveIn n : Act (World α) Unit).Moves Ages :=
  moves_bind (moves_takeOver _) fun _ => (moves_start n).mono fun _ _ h => h.toAges

/-- The scene `n` is the current one, shows nothing and keeps track of nothing. -/
structure Unfurnished (n : Nat) (c : Script α) (w : World α) : Prop where
  current : w.current = some n
  onstage : w.Onstage n
  blank : w.compositor = {}
  script : w.script? n = some c
  untracked : c.tracked = []
  nameless : c.states = [] → c.stateName = none

/-- Setting a scripted scene up prints and loads; nothing is shown or kept track of.  The mark
that the scene has started is set in its record and not in its script. -/
theorem start_unfurnished {n : Nat} {c : Script α} {w t : World α} (hw : w.Unfurnished n c)
    (hstart : (start n).run w = (.ok (), t)) : t.Unfurnished n c := by
  have hown : w.OwnWork n t := after_eq_of_run hstart ▸ moves_start n w
  obtain ⟨s, hs, hr⟩ := script?_eq_some.1 hw.script
  have hsame : t.compositor = w.compositor ∧ t.script? n = w.script? n := by
    unfold start at hstart
    rw [run_bind_of_ok (by rw [run_sceneAt, hs])] at hstart
    split at hstart
    · obtain ⟨_, u, hsetUp, hmark⟩ := run_bind_eq_ok.1 hstart
      have hu : w.OffDepot u := by
        rw [← after_eq_of_run hsetUp]
        unfold setUp
        rw [after_bind_of_ok (by rw [run_sceneAt, hs]), hr]
        exact moves_preload n w
      have hscript : t.script? n = u.script? n := by
        rw [← after_eq_of_run hmark]
        exact script?_modifyScene u n n fun _ => rfl
      cases hmark
      exact ⟨hu.outside.compositor, hscript.trans (hu.sameScripts n)⟩
    · cases hstart
      exact ⟨rfl, rfl⟩
  obtain ⟨hcompositor, hscript⟩ := hsame
  exact ⟨hown.current.trans hw.current, hw.onstage.ownWork hown, hcompositor.trans hw.blank,
    hscript.trans hw.script, hw.untracked, hw.nameless⟩

/-- Whatever went before, a scene that has moved in finds nothing of it.  What was shown goes when
the stage is handed over, and what was kept track of went when the scene itself last left, which
the invariant of the run says. -/
theorem moveIn_unfurnished {first w t : World α} {n : Nat} {c : Script α}
    (hfirst : first.Fresh) (hw : Sound first w) (hc : w.script? n = some c)
    (hmove : (moveIn n).run w = (.ok (), t)) : ∃ d, d.spec = c.spec ∧ t.Unfurnished n d := by
  obtain ⟨_, w₃, htake, hstart⟩ := run_bind_eq_ok.1 hmove
  obtain ⟨_, w₁, h₁, htake⟩ := run_bind_eq_ok.1 htake
  obtain ⟨_, w₂, h₂, h₃⟩ := run_bind_eq_ok.1 htake
  have hages : w.Ages w₂ := by
    refine Ages.trans (v := w₁) ?_ ?_
    · exact after_eq_of_run h₁ ▸ moves_dismiss w
    · exact after_eq_of_run h₂ ▸ moves_bindNext (some n) w₁
  obtain ⟨d, hd, hspec, -, -⟩ := hages.script? hc
  have hsound₁ := (spec_dismiss w hw).1 _ _ h₁
  obtain ⟨⟨hsound, hvacant⟩, hready⟩ := (spec_bindNext (some n) w₁ hsound₁).1 _ _ h₂
  have horder : d.InOrder d.spec w₂.entities := by
    obtain ⟨spec, hspec⟩ := hfirst.exists_inOrder n
    obtain ⟨history⟩ := hsound.history
    have hd' := history.inOrder hspec d hd
    exact hd'.spec.symm ▸ hd'
  rw [run_handOver hsound.isolated.parts] at h₃
  cases h₃
  have hbefore : (w₂.handedTo (some n)).Unfurnished n d :=
    ⟨rfl, hready n d rfl hd, rfl, hd, hvacant n d hd, horder.nameless⟩
  exact ⟨d, hspec, start_unfurnished hbefore hstart⟩

/-- After a scripted scene has moved in, it is entered and shows its first state. -/
theorem run_changeScene {n : Nat} {c : Script α} {w t : World α} (hc : w.script? n = some c)
    (hmove : (moveIn n).run w = (.ok (), t)) :
    (changeScene (some n)).run w = (do enterScript n; populateScript n).run t := by
  obtain ⟨_, u, htake, hstart⟩ := run_bind_eq_ok.1 hmove
  have hages : w.Ages u := after_eq_of_run htake ▸ moves_takeOver (some n) w
  obtain ⟨d, hd, -⟩ := hages.script? hc
  rw [changeScene_eq, run_bind_of_ok htake, run_bringUp hd, run_bind_of_ok hstart]

/-- The outcome of an act: it ended with `r`, the scene `n` is the current one and shows the
tableau, counted from the first entity that is new since `u`, and the lines were printed since. -/
structure Arrives (n : Nat) (u : World α) (r : Except Fault Unit) (t : Tableau α) (lines : Log)
    (outcome : Except Fault Unit × World α) : Prop where
  result : outcome.1 = r
  current : outcome.2.current = some n
  seen : t.Seen n u.entities.size outcome.2
  log : outcome.2.depot.device.log = u.depot.device.log ++ lines

omit [Scalar α] [Host α] in
theorem name_of_map {n : Nat} {w : World α} {name : String}
    (h : w.scenes[n]?.map (·.name) = some name) : ∀ s, w.scenes[n]? = some s → s.name = name := by
  intro s hs
  rw [hs] at h
  exact Option.some.inj h

omit [Host α] in
/-- What a switch to a state that clears ends in is settled by the document, the images and the
name of the scene. -/
theorem exists_arrives_switchToState (name : String) (image? : String → Option Surface)
    (c : Script α) {target : Value α} {i : Nat} {state : StateSpec α}
    (hfirst : c.states.findIdx? (fun state => target.isText state.name) = some i)
    (hstate : c.states[i]? = some state) (hclears : state.clears = true) :
    ∃ r t lines, (Tableau.bare name image? c.spec i (some target.plain)).Follows t ∧
      ∀ n d w, w.current = some n → w.Onstage n → w.scenes[n]?.map (·.name) = some name →
        w.script? n = some d → d.spec = c.spec → w.depot.image? = image? →
        Arrives n w r t lines ((switchToState n target).run w) := by
  obtain ⟨r, t, lines, ht, hplace⟩ :=
    settled_placeState state (Tableau.bare name image? c.spec i (some target.plain))
  refine ⟨r, t, #["[" ++ name ++ "] " ++ ("Switching to state: " ++ target.plain)] ++ lines, ht,
    fun n d w hn honstage hname hd hspec himages => ?_⟩
  have hstates : d.states = c.states := Script.states_eq hspec
  obtain ⟨s, hs, -⟩ := script?_eq_some.1 hd
  obtain ⟨u, hrun, hu, hlog⟩ :=
    run_switchToState honstage hs hd (hstates ▸ hfirst) (hstates ▸ hstate) hclears
  rw [name_of_map hname s hs, himages, hspec] at hu
  rw [name_of_map hname s hs] at hlog
  obtain ⟨v, hrun', hv, hlog'⟩ := hplace n _ u hu
  have hown : w.OwnWork n v := by
    rw [← after_eq_of_run (hrun.trans hrun')]
    exact moves_switchToState n target w
  rw [hrun, hrun']
  refine ⟨rfl, hown.current.trans hn, hv, ?_⟩
  rw [hlog', hlog, Array.append_assoc]

omit [Host α] in
theorem run_rewind (n : Nat) (w : World α) :
    (modifyScript n fun s : Script α => { s with index := 0, timer := 0.0 }).run w =
      (.ok (), w.mapScript n Script.rewound) := rfl

omit [Host α] in
/-- A scripted scene without states shows nothing. -/
theorem run_enter_of_nil {n : Nat} {w : World α} {c : Script α} (hc : w.script? n = some c)
    (hstates : c.states = []) :
    (do enterScript n; populateScript n : Act (World α) Unit).run w =
      (.ok (), w.mapScript n Script.rewound) := by
  have hscript : (w.mapScript n Script.rewound).script? n = some c.rewound :=
    script?_mapScript_self hc _
  have hnone : c.rewound.states = [] := hstates
  have henter : (enterScript n).run w = (.ok (), w.mapScript n Script.rewound) := by
    unfold enterScript
    rw [run_bind_of_ok (run_rewind n w), run_bind_of_ok (by rw [run_scriptAt, hscript]), hnone]
    rfl
  rw [run_bind_of_ok henter]
  unfold populateScript
  rw [run_bind_of_ok (by rw [run_scriptAt, hscript]), hnone]
  rfl

omit [Host α] in
/-- A scripted scene with states names the first of them and activates it.  The line about the
first state is printed before it is activated, and printing changes nothing that the activation
reads but the log. -/
theorem run_enter_of_cons {n : Nat} {w : World α} {s : Scene α} {c : Script α}
    {first : StateSpec α} {rest : List (StateSpec α)} (hs : w.scenes[n]? = some s)
    (hc : w.script? n = some c) (hstates : c.states = first :: rest) :
    ∃ d, (do enterScript n; populateScript n : Act (World α) Unit).run w =
        (activate n first).run
          (World.mapScript n (Script.entered first.name) { w with depot := d }) ∧
      d.image? = w.depot.image? ∧
      d.device.log = w.depot.device.log ++
        #["[" ++ s.name ++ "] " ++ ("Entering state: " ++ first.name)] := by
  have hafter : (w.mapScript n (Script.entered first.name)).scenes[n]? =
      some { s with role := .scripted (c.entered first.name) } := scenes_mapScript hs hc _
  obtain ⟨d, hsay, himages, hlog⟩ := run_sayFor hafter ("Entering state: " ++ first.name)
  have henter : (enterScript n).run w =
      (.ok (), { w.mapScript n (Script.entered first.name) with depot := d }) := by
    unfold enterScript
    rw [run_bind_of_ok (run_rewind n w),
      run_bind_of_ok (by rw [run_scriptAt, script?_mapScript_self hc])]
    have hsame : c.rewound.states = first :: rest := hstates
    rw [hsame]
    dsimp only
    rw [run_bind_of_ok (run_modifyScript n _ _), mapScript_mapScript]
    exact hsay
  refine ⟨d, ?_, himages, hlog⟩
  rw [run_bind_of_ok henter]
  unfold populateScript
  have hd : ({ w.mapScript n (Script.entered first.name) with depot := d } : World α).script? n =
      some (c.entered first.name) := script?_mapScript_self hc _
  have hsame : (c.entered first.name).states = first :: rest := hstates
  rw [run_bind_of_ok (by rw [run_scriptAt, hd]), hsame]
  rfl

omit [Host α] in
/-- What a scene that has moved in shows once it is entered is settled by the document, the images
and the name of the scene. -/
theorem exists_arrives_enter (name : String) (image? : String → Option Surface) (c : Script α) :
    ∃ r t lines,
      (Tableau.bare name image? c.spec 0 (c.states.head?.map (·.name))).Follows t ∧
      ∀ n d w, w.Unfurnished n d → w.scenes[n]?.map (·.name) = some name → d.spec = c.spec →
        w.depot.image? = image? → Arrives n w r t lines
          ((do enterScript n; populateScript n : Act (World α) Unit).run w) := by
  cases hc : c.states with
  | nil =>
    refine ⟨.ok (), _, #[], .refl _, fun n d w hw hname hspec himages => ?_⟩
    have hnone : d.states = [] := (Script.states_eq hspec).trans hc
    obtain ⟨s, hs, -⟩ := script?_eq_some.1 hw.script
    have hseen := seen_mapScript (f := Script.rewound) hw.onstage hs hw.script hw.blank rfl
      hw.untracked
    rw [run_enter_of_nil hw.script hnone]
    refine ⟨rfl, hw.current, ?_, Array.append_empty.symm⟩
    rw [name_of_map hname s hs, himages] at hseen
    change (Tableau.bare name image? d.spec 0 d.stateName).Seen _ _ _ at hseen
    rw [hspec, hw.nameless hnone] at hseen
    exact hseen
  | cons first rest =>
    obtain ⟨r, t, lines, ht, hactivate⟩ :=
      settled_activate first (Tableau.bare name image? c.spec 0 (some first.name))
    refine ⟨r, t, #["[" ++ name ++ "] " ++ ("Entering state: " ++ first.name)] ++ lines, ht,
      fun n d w hw hname hspec himages => ?_⟩
    obtain ⟨s, hs, -⟩ := script?_eq_some.1 hw.script
    obtain ⟨depot, hrun, himages', hlog⟩ :=
      run_enter_of_cons hs hw.script ((Script.states_eq hspec).trans hc)
    have hseen := seen_mapScript (w := { w with depot }) (f := Script.entered first.name)
      hw.onstage hs hw.script hw.blank rfl hw.untracked
    change (Tableau.bare s.name depot.image? d.spec 0 (some first.name)).Seen _ _ _ at hseen
    rw [name_of_map hname s hs, himages', himages, hspec] at hseen
    obtain ⟨v, hrun', hv, hlog'⟩ := hactivate n _ _ hseen
    have hown : w.OwnWork n v := by
      rw [← after_eq_of_run (hrun.trans hrun')]
      exact moves_bind (moves_enterScript n) (fun _ => moves_populateScript n) w
    rw [hrun, hrun']
    refine ⟨rfl, hown.current.trans hw.current, hv, ?_⟩
    rw [hlog']
    change depot.device.log ++ lines = _
    rw [hlog, name_of_map hname s hs, Array.append_assoc]

/-! ## 4. The past is forgotten

The two results, for any two worlds that can be reached: a switch to a state that clears, and a
return to a scene. -/

/-- The world is the end of a run, whatever was done in it. -/
def Reachable (w : World α) : Prop :=
  ∃ (first : World α) (os : List (Operation α)), first.Fresh ∧ w = play os first

theorem Reachable.exists_sound {w : World α} (h : w.Reachable) :
    ∃ first : World α, first.Fresh ∧ Sound first w := by
  obtain ⟨first, os, hfirst, rfl⟩ := h
  exact ⟨first, hfirst, sound_play os hfirst.sound⟩

theorem Reachable.onstage {w : World α} (h : w.Reachable) {n : Nat} {c : Script α}
    (hn : w.current = some n) (hc : w.script? n = some c) : w.Onstage n := by
  obtain ⟨first, -, hsound⟩ := h.exists_sound
  exact (hsound.isolated.stands n c hn hc).1

/-- A scene that is switched to ends where its entering ends. -/
theorem arrives_switchTo {n : Nat} {c : Script α} {name : String} {image? : String → Option Surface}
    {target : Value α} {w t : World α} {r : Except Fault Unit} {u : Tableau α} {lines : Log}
    (hw : w.Reachable) (hc : w.script? n = some c) (hname : w.scenes[n]?.map (·.name) = some name)
    (hregistered : (registered? target).run w = (.ok (some n), w))
    (hmove : (moveIn n).run w = (.ok (), t)) (himages : t.depot.image? = image?)
    (henter : ∀ d, t.Unfurnished n d → t.scenes[n]?.map (·.name) = some name → d.spec = c.spec →
      t.depot.image? = image? →
      Arrives n t r u lines ((do enterScript n; populateScript n : Act (World α) Unit).run t)) :
    Arrives n t r u lines ((switchTo target).run w) := by
  obtain ⟨first, hfirst, hsound⟩ := hw.exists_sound
  obtain ⟨d, hspec, ht⟩ := moveIn_unfurnished hfirst hsound hc hmove
  rw [run_switchTo hregistered, run_changeScene hc hmove]
  have hages : w.Ages t := after_eq_of_run hmove ▸ moves_moveIn n w
  obtain ⟨s, hs, -⟩ := script?_eq_some.1 hc
  obtain ⟨s', hs', hlasts⟩ := hages.scenes n s hs
  refine henter d ht ?_ hspec himages
  rw [hs', Option.map_some, hlasts.name, name_of_map hname s hs]

/-- **What a state that clears and what a scene that is come back to show does not depend on the
past.**  In two worlds at the ends of any two runs a scene has the same document and the same
name.  If it is current in both, with the same images, and is sent to a state that clears, then in
both it shows the same tableau afterwards, counted from the first new entity, and the same was
printed.  If it is switched to in both, and after it was set up there are the same images, then in
both it shows the same tableau afterwards.  No time has passed in these tableaux. -/
theorem past_forgotten {w₁ w₂ : World α} (h₁ : w₁.Reachable) (h₂ : w₂.Reachable) {n₁ n₂ : Nat}
    {c₁ c₂ : Script α} (hc₁ : w₁.script? n₁ = some c₁) (hc₂ : w₂.script? n₂ = some c₂)
    (hspec : c₂.spec = c₁.spec)
    (hname : w₂.scenes[n₂]?.map (·.name) = w₁.scenes[n₁]?.map (·.name)) :
    (∀ target i state, w₁.current = some n₁ → w₂.current = some n₂ →
      w₂.depot.image? = w₁.depot.image? →
      c₁.states.findIdx? (fun state => target.isText state.name) = some i →
      c₁.states[i]? = some state → state.clears = true →
      ∃ (r : Except Fault Unit) (t : Tableau α) (lines : Log),
        t.script.index = i ∧ t.script.stateName = some target.plain ∧ t.script.timer = 0.0 ∧
        t.script.motions.AtStart ∧
        Arrives n₁ w₁ r t lines ((switchToState n₁ target).run w₁) ∧
        Arrives n₂ w₂ r t lines ((switchToState n₂ target).run w₂)) ∧
    (∀ target₁ target₂ u₁ u₂, (registered? target₁).run w₁ = (.ok (some n₁), w₁) →
      (registered? target₂).run w₂ = (.ok (some n₂), w₂) →
      (moveIn n₁).run w₁ = (.ok (), u₁) → (moveIn n₂).run w₂ = (.ok (), u₂) →
      u₂.depot.image? = u₁.depot.image? →
      ∃ (r : Except Fault Unit) (t : Tableau α) (lines : Log),
        t.script.index = 0 ∧ t.script.stateName = c₁.states.head?.map (·.name) ∧
        t.script.timer = 0.0 ∧ t.script.motions.AtStart ∧
        Arrives n₁ u₁ r t lines ((switchTo target₁).run w₁) ∧
        Arrives n₂ u₂ r t lines ((switchTo target₂).run w₂)) := by
  obtain ⟨s, hs, -⟩ := script?_eq_some.1 hc₁
  have hname₁ : w₁.scenes[n₁]?.map (·.name) = some s.name := by rw [hs, Option.map_some]
  have hname₂ := hname.trans hname₁
  constructor
  · intro target i state hn₁ hn₂ himages hfirst hstate hclears
    obtain ⟨r, t, lines, ht, harrives⟩ :=
      exists_arrives_switchToState s.name w₁.depot.image? c₁ hfirst hstate hclears
    refine ⟨r, t, lines, ht.index, ht.stateName, ht.timer,
      ht.atStart (Tableau.bare_atStart _ _ _ _ _), ?_, ?_⟩
    · exact harrives n₁ c₁ w₁ hn₁ (h₁.onstage hn₁ hc₁) hname₁ hc₁ rfl rfl
    · exact harrives n₂ c₂ w₂ hn₂ (h₂.onstage hn₂ hc₂) hname₂ hc₂ hspec himages
  · intro target₁ target₂ u₁ u₂ hreg₁ hreg₂ hmove₁ hmove₂ himages
    obtain ⟨r, t, lines, ht, harrives⟩ := exists_arrives_enter s.name u₁.depot.image? c₁
    refine ⟨r, t, lines, ht.index, ht.stateName, ht.timer,
      ht.atStart (Tableau.bare_atStart _ _ _ _ _), ?_, ?_⟩
    · exact arrives_switchTo h₁ hc₁ hname₁ hreg₁ hmove₁ rfl (harrives n₁ · u₁)
    · exact arrives_switchTo h₂ hc₂ hname₂ hreg₂ hmove₂ himages fun d hd hname hd' =>
        harrives n₂ d u₂ hd hname (hd'.trans hspec)

/-- A scene has the same document in all runs from the same start. -/
theorem Fresh.spec_eq {first : World α} (h : first.Fresh) {os₁ os₂ : List (Operation α)} {n : Nat}
    {c₁ c₂ : Script α} (hc₁ : (play os₁ first).script? n = some c₁)
    (hc₂ : (play os₂ first).script? n = some c₂) : c₂.spec = c₁.spec := by
  obtain ⟨spec, hstart⟩ := h.exists_inOrder n
  obtain ⟨history₁⟩ := (sound_play os₁ h.sound).history
  obtain ⟨history₂⟩ := (sound_play os₂ h.sound).history
  rw [(history₁.inOrder hstart c₁ hc₁).spec, (history₂.inOrder hstart c₂ hc₂).spec]

/-- The hall is left through its door and come back to, and time passes. -/
def roundTrip : List (Operation Rat) :=
  knock ++ [.pass 1, .switchTo (.text "hall"), .pass 1]

/-- The hall gets dark, and the hall is come back to, once it was entered and after a round
trip.  The hypotheses are computed on the two runs; what the two halves say of them is the
theorem. -/
theorem past_forgotten_house : ∃ w₁ w₂ : World Rat, w₁ = play [.switchTo (.text "hall")] house ∧
    w₂ = play roundTrip house ∧ w₁.Reachable ∧ w₂.Reachable ∧
    w₁.current = some 0 ∧ w₂.current = some 0 ∧ w₂.depot.image? = w₁.depot.image? ∧
    (∃ r t lines, t.script.index = 1 ∧
      Arrives 0 w₁ r t lines ((switchToState 0 (.text "dark")).run w₁) ∧
      Arrives 0 w₂ r t lines ((switchToState 0 (.text "dark")).run w₂)) ∧
    ∃ u₁ u₂ r t lines, (moveIn 0).run w₁ = (.ok (), u₁) ∧ (moveIn 0).run w₂ = (.ok (), u₂) ∧
      u₂.depot.image? = u₁.depot.image? ∧
      Arrives 0 u₁ r t lines ((switchTo (.text "hall")).run w₁) ∧
      Arrives 0 u₂ r t lines ((switchTo (.text "hall")).run w₂) := by
  have images {d d' : Depot Rat} (h : d'.images = d.images) : d'.image? = d.image? := by
    funext id
    unfold Depot.image?
    rw [h]
  obtain ⟨c₁, hc₁⟩ : ∃ c, (play [.switchTo (.text "hall")] house).script? 0 = some c :=
    Option.isSome_iff_exists.1 (by decide +kernel)
  obtain ⟨c₂, hc₂⟩ : ∃ c, (play roundTrip house).script? 0 = some c :=
    Option.isSome_iff_exists.1 (by decide +kernel)
  have hfirst : c₁.states.findIdx? (fun state => (.text "dark" : Value Rat).isText state.name) =
      some 1 := by
    have h : ((play [.switchTo (.text "hall")] house).script? 0).map (fun c => c.states.findIdx?
        fun state => (.text "dark" : Value Rat).isText state.name) = some (some 1) := by
      decide +kernel
    rw [hc₁] at h
    exact Option.some.inj h
  obtain ⟨state, hstate, hclears⟩ : ∃ state, c₁.states[1]? = some state ∧ state.clears = true := by
    have h : ((play [.switchTo (.text "hall")] house).script? 0).any (fun c =>
        c.states[1]?.any (·.clears)) = true := by
      decide +kernel
    rw [hc₁] at h
    exact Option.any_eq_true _ _ |>.1 h
  have hreach (os : List (Operation Rat)) : (play os house).Reachable :=
    ⟨house, os, fresh_house, rfl⟩
  have hn₁ : (play [.switchTo (.text "hall")] house).current = some 0 := by decide +kernel
  have hn₂ : (play roundTrip house).current = some 0 := by decide +kernel
  have himages : (play roundTrip house).depot.image? =
      (play [.switchTo (.text "hall")] house).depot.image? := images (by decide +kernel)
  have hreg₁ : (registered? (.text "hall")).run (play [.switchTo (.text "hall")] house) =
      (.ok (some 0), play [.switchTo (.text "hall")] house) := by
    rw [run_registered?_text, show (play [.switchTo (.text "hall")] house).registry.lookup "hall" =
      some 0 by decide +kernel]
  have hreg₂ : (registered? (.text "hall")).run (play roundTrip house) =
      (.ok (some 0), play roundTrip house) := by
    rw [run_registered?_text, show (play roundTrip house).registry.lookup "hall" = some 0 by
      decide +kernel]
  have hmove₁ := run_of_toOption (b := ()) (x := moveIn 0)
    (s := play [.switchTo (.text "hall")] house) (by decide +kernel)
  have hmove₂ := run_of_toOption (b := ()) (x := moveIn 0) (s := play roundTrip house)
    (by decide +kernel)
  have himages' : ((moveIn 0).after (play roundTrip house)).depot.image? =
      ((moveIn 0).after (play [.switchTo (.text "hall")] house)).depot.image? :=
    images (by decide +kernel)
  obtain ⟨hdark, hback⟩ := past_forgotten (hreach _) (hreach _) hc₁ hc₂
    (fresh_house.spec_eq hc₁ hc₂) (by decide +kernel)
  refine ⟨_, _, rfl, rfl, hreach _, hreach _, hn₁, hn₂, himages, ?_, ?_⟩
  · obtain ⟨r, t, lines, hindex, -, -, -, h₁, h₂⟩ :=
      hdark (.text "dark") 1 state hn₁ hn₂ himages hfirst hstate hclears
    exact ⟨r, t, lines, hindex, h₁, h₂⟩
  · obtain ⟨r, t, lines, -, -, -, -, h₁, h₂⟩ :=
      hback (.text "hall") (.text "hall") _ _ hreg₁ hreg₂ hmove₁ hmove₂ himages'
    exact ⟨_, _, r, t, lines, hmove₁, hmove₂, himages', h₁, h₂⟩

end World

end Diorama
