/-
# The images of the current scene

Which images the depot has depends on what the scenes load and give back, and the `World.ledger`
keeps the books of that.  A change of scenes changes it as `Ledger.change` says
(`ledger_changeScene`), and nothing else in a run changes it at all.

So if every manifest lists the ids that its images are loaded under, then the depot has exactly
the images of the current scene, however often scenes come and go, and also after hooks that ended
with a fault.  An image that is loaded under an id that is not listed stays when its scene leaves,
and is still there for the scenes to come.
-/
import Diorama.Proofs.Ledger
import Diorama.Proofs.World.Turns

namespace Diorama

open Act

variable {α : Type}

/-! ## 1. The ledger of a world

A ledger is what of a world matters to the images: which are loaded, which scene is current, and
which assets each scene has.  Everything about ledgers themselves was shown before; here the world
is related to its ledger. -/

/-- The assets of a document; without one there are none. -/
def Script.assets (c : Script α) : Manifest α :=
  match c.spec with
  | some spec => spec.assets
  | none => {}

def Scene.tenant (s : Scene α) : Tenant α where
  bound := s.bound
  started := s.started
  assets := match s.script? with
    | some c => c.assets
    | none => {}

namespace World

/-- The ledger of a world. -/
def ledger (w : World α) : Ledger α where
  has := w.depot.images.has
  current := w.current
  tenant? n := w.scenes[n]?.map Scene.tenant

/-- The ledger is the same. -/
def SameLedger (w v : World α) : Prop := v.ledger = w.ledger

instance : IsPreorder (World α) SameLedger where
  refl _ := rfl
  trans _ _ _ h h' := Eq.trans h' h

/-- The engine has all its parts, and every scene plays a document or waits for one. -/
structure Playhouse (w : World α) : Prop where
  parts : w.missing = []
  scripted : ∀ (n : Nat) (s : Scene α), w.scenes[n]? = some s → ∃ c, s.role = .scripted c

theorem Ages.playhouse {w v : World α} (h : w.Ages v) (hw : w.Playhouse) : v.Playhouse := by
  refine ⟨h.missing.trans hw.parts, fun n t ht => ?_⟩
  have hn : n < w.scenes.size := h.size ▸ (Array.getElem?_eq_some_iff.1 ht).1
  obtain ⟨c, hc⟩ := hw.scripted n _ (Array.getElem?_eq_getElem hn)
  obtain ⟨t', ht', hlast⟩ := h.scenes n _ (Array.getElem?_eq_getElem hn)
  obtain rfl : t = t' := Option.some.inj (ht.symm.trans ht')
  have hrole := hlast.role
  rw [hc] at hrole
  generalize t.role = r at hrole ⊢
  cases hrole with
  | scripted => exact ⟨_, rfl⟩

theorem tenant?_ledger {w : World α} {n : Nat} {s : Scene α} (hs : w.scenes[n]? = some s) :
    w.ledger.tenant? n = some s.tenant := congrArg (Option.map Scene.tenant) hs

theorem tenant?_ledger_none {w : World α} {n : Nat} (hs : w.scenes[n]? = none) :
    w.ledger.tenant? n = none := congrArg (Option.map Scene.tenant) hs

theorem Playhouse.exists_script {w : World α} (hw : w.Playhouse) {n : Nat} {s : Scene α}
    (hs : w.scenes[n]? = some s) : ∃ c, s.role = .scripted c ∧ w.script? n = some c ∧
      w.ledger.tenant? n = some ⟨s.bound, s.started, c.assets⟩ := by
  obtain ⟨c, hr⟩ := hw.scripted n s hs
  refine ⟨c, hr, script?_eq_some.2 ⟨s, hs, hr⟩, (tenant?_ledger hs).trans ?_⟩
  unfold Scene.tenant Scene.script?
  rw [hr]

/-! ## 2. What leaves the ledger alone

Most of what scenes do is not in the books: entities, layers, scripts, input. -/

theorem ledger_modifyScene (w : World α) (n : Nat) {f : Scene α → Scene α}
    {g : Tenant α → Tenant α} (h : ∀ s : Scene α, (f s).tenant = g s.tenant) :
    ({ w with scenes := w.scenes.modify n f } : World α).ledger = w.ledger.set n g := by
  unfold ledger Ledger.set
  congr 1
  funext m
  dsimp only
  rw [Array.getElem?_modify]
  split
  · cases w.scenes[m]? with
    | none => rfl
    | some s => simp only [Option.map_some, h]
  · rfl

theorem sameLedger_modifyScene (n : Nat) {f : Scene α → Scene α}
    (h : ∀ s : Scene α, (f s).tenant = s.tenant) :
    (modifyScene n f : Act (World α) Unit).Moves SameLedger :=
  fun w => (ledger_modifyScene w n (g := id) h).trans (Ledger.set_eq_self fun _ _ => rfl)

theorem sameLedger_modifyScript (n : Nat) {f : Script α → Script α}
    (hspec : ∀ c, (f c).spec = c.spec) :
    (modifyScript n f : Act (World α) Unit).Moves SameLedger := by
  refine sameLedger_modifyScene n fun s => ?_
  obtain ⟨name, bound, started, role⟩ := s
  cases role with
  | scripted c =>
    unfold Scene.tenant Scene.script? Script.assets
    dsimp only
    rw [hspec]
  | _ => rfl

theorem tools_sameLedger (n : Nat) : Tools (α := α) n SameLedger where
  liftLog _ _ := rfl
  device _ _ := rfl
  script hspec _ _ _ := sameLedger_modifyScript n hspec
  animate _ := sameLedger_modifyScript n fun _ => rfl
  game _ := by
    refine sameLedger_modifyScene n fun s => ?_
    obtain ⟨name, bound, started, role⟩ := s
    cases role <;> rfl
  layers _ _ := rfl
  entities _ := rfl

/-! ## 3. What the hooks do to the ledger

Leaving gives back what the manifest lists, and entering loads what it says, unless the scene has
it.  Loading may end with a fault in the middle; `Receives` says that even then nothing has come
in but images of the document, which is what the next scene has to rely on. -/

section Hooks

variable [Scalar α] {n : Nat}

/-- From this world the act brings about a ledger, or it stops with a fault and leaves the ledger as
it was. -/
structure Books (w : World α) (x : Act (World α) Unit) (l : Ledger α) : Prop where
  done : ∀ v, x.run w = (.ok (), v) → v.ledger = l
  stopped : ∀ fault v, x.run w = (.error fault, v) → v.ledger = w.ledger

omit [Scalar α] in
theorem books_of_run {w v : World α} {x : Act (World α) Unit} (h : x.run w = (.ok (), v)) :
    w.Books x v.ledger := by
  refine ⟨fun u hu => ?_, fun fault u hu => ?_⟩
  · cases h.symm.trans hu
    rfl
  · cases h.symm.trans hu

omit [Scalar α] in
theorem books_of_fault {w v : World α} {x : Act (World α) Unit} {fault : Fault} (l : Ledger α)
    (h : x.run w = (.error fault, v)) (hv : v.ledger = w.ledger) : w.Books x l := by
  refine ⟨fun u hu => ?_, fun e u hu => ?_⟩
  · cases h.symm.trans hu
  · cases h.symm.trans hu
    exact hv

/-- The images of a manifest are given back together, or none is: the ids are all written before
the first image is unloaded (`assets.ids`). -/
theorem books_giveBack {w : World α} (hw : w.Playhouse) {s : Scene α}
    (hs : w.scenes[n]? = some s) : w.Books (World.giveBack n) (w.ledger.giveBack n) := by
  obtain ⟨c, -, hc, ht⟩ := hw.exists_script hs
  have hreach : (reaches n .assets).run w = (.ok s.bound, w) := by
    rw [run_reaches, hs]
    simp [hasPart, hw.parts]
  rw [Ledger.giveBack, ht]
  cases hspec : c.spec with
  | none =>
    have hnone : c.assets = {} := by rw [Script.assets, hspec]
    have hrun : (World.giveBack n).run w = (.ok (), w) := by
      unfold World.giveBack
      rw [run_bind_of_ok (by rw [run_scriptAt, hc]), hspec]
      rfl
    have hsame := books_of_run hrun
    rw [hnone]
    cases s.bound <;> exact hsame
  | some spec =>
    have hsome : c.assets = spec.assets := by rw [Script.assets, hspec]
    have hstart {r : Except Fault Unit × World α} (h : (do
        if ← reaches n .assets then
          let ids ← Act.ofExcept spec.assets.writtenIds
          if !ids.isEmpty then
            onDepot (Depot.unloadAssets ids)
            modifyScene n fun s => { s with started := false } : Act (World α) Unit).run w = r) :
        (World.giveBack n).run w = r := by
      unfold World.giveBack
      rw [run_bind_of_ok (by rw [run_scriptAt, hc]), hspec]
      exact h
    rw [hsome]
    dsimp only
    cases hbound : s.bound with
    | false =>
      rw [hbound] at hreach
      exact books_of_run (hstart (run_bind_of_ok hreach))
    | true =>
      rw [hbound] at hreach
      have hreached {r : Except Fault Unit × World α} (h : (do
          let ids ← Act.ofExcept spec.assets.writtenIds
          if !ids.isEmpty then
            onDepot (Depot.unloadAssets ids)
            modifyScene n fun s => { s with started := false } : Act (World α) Unit).run w = r) :
          (World.giveBack n).run w = r := hstart ((run_bind_of_ok hreach).trans h)
      by_cases hname : (spec.assets.images ++ spec.assets.audio).all Manifest.nameable = true
      · have hwritten : spec.assets.writtenIds = .ok spec.assets.ids := if_pos hname
        rw [hwritten] at hreached
        cases hids : spec.assets.ids.isEmpty with
        | true =>
          rw [if_neg (by decide : ¬ (true && !true) = true)]
          refine books_of_run (hreached ?_)
          rw [run_bind_of_ok (run_ofExcept _ _), hids]
          rfl
        | false =>
          obtain ⟨_, d, hd⟩ := (Depot.faultsIn_unloadAssets spec.assets.ids).exists_run w.depot
          have hunload : (onDepot (Depot.unloadAssets spec.assets.ids)).run w =
              (.ok (), { w with depot := d }) := by
            unfold onDepot
            rw [run_zoom, hd]
          have hhas : d.images.has =
              fun id => w.ledger.has id && !spec.assets.ids.contains id := by
            funext id
            rw [← after_eq_of_run hd, Bool.eq_iff_iff, Depot.has_after_unloadAssets]
            simp [ledger]
          have hrun := hreached (by
            rw [run_bind_of_ok (run_ofExcept _ _), hids, if_pos (by decide), run_bind_of_ok hunload])
          have hbooks := books_of_run hrun
          rw [ledger_modifyScene _ n (g := fun t => { t with started := false }) fun _ => rfl]
            at hbooks
          rw [if_pos (by decide : (true && !false) = true), ← hhas]
          exact hbooks
      · have hlong : spec.assets.writtenIds = .error .notANumber := if_neg hname
        rw [hlong] at hreached
        exact books_of_fault _ (hreached (run_bind_of_error (run_ofExcept _ _))) rfl

/-- A scene that leaves gives back what its manifest lists.  Three cases: nobody is on, the
current number has no scene, or a scene leaves.  The last one drops its tracking before it gives
anything back, so the ledger of what follows is still the old one. -/
theorem books_dismiss {w : World α} (hw : w.Playhouse) : w.Books dismiss w.ledger.dismiss := by
  cases hn : w.current with
  | none =>
    have hcurrent : w.ledger.current = none := hn
    rw [Ledger.dismiss, hcurrent]
    refine books_of_run ?_
    unfold World.dismiss
    rw [run_bind_of_ok (run_get w), hn]
    rfl
  | some n =>
    have hcurrent : w.ledger.current = some n := hn
    have hleave {r : Except Fault Unit × World α} (h : (ifHas n .leave (callLeave n)).run w = r) :
        dismiss.run w = r := by
      unfold World.dismiss
      rw [run_bind_of_ok (run_get w), hn]
      exact h
    rw [Ledger.dismiss, hcurrent]
    cases hs : w.scenes[n]? with
    | none =>
      have hrun : (ifHas n .leave (callLeave n)).run w = (.error .absent, w) := by
        unfold ifHas
        exact run_bind_of_error (by rw [run_sceneAt, hs])
      exact books_of_fault _ (hleave hrun) rfl
    | some s =>
      obtain ⟨c, hr, hc, -⟩ := hw.exists_script hs
      -- dropping what was tracked is no matter of the ledger
      have hdrop : w.SameLedger (w.mapScript n (·.dropTracking)) :=
        (tools_sameLedger n).script (f := (·.dropTracking)) (fun _ => rfl) (fun _ => rfl)
          (fun c => Nat.le_succ c.activations) (fun _ => .inr rfl) w
      have hages : w.Ages (w.mapScript n (·.dropTracking)) :=
        (OwnWork.mapScript (n := n) (f := (·.dropTracking)) (fun _ => rfl) (fun _ => rfl)
          fun c => Nat.le_succ c.activations).toAges
      obtain ⟨t, ht, -⟩ := hages.scenes n s hs
      have hrun : (ifHas n .leave (callLeave n)).run w =
          (World.giveBack n).run (w.mapScript n (·.dropTracking)) := by
        rw [run_ifHas hc]
        unfold callLeave leaveScript
        rw [run_bind_of_ok (by rw [run_sceneAt, hs]), hr]
        exact run_bind_of_ok (run_modifyScript n w _)
      have hbooks := books_giveBack (hages.playhouse hw) ht
      refine ⟨fun v hv => ?_, fun fault v hv => ?_⟩
      · rw [hleave hrun] at hv
        exact (hbooks.done v hv).trans (congrArg (Ledger.giveBack n) hdrop)
      · rw [hleave hrun] at hv
        exact (hbooks.stopped fault v hv).trans hdrop

omit [Scalar α] in
/-- A scene that comes next is bound. -/
theorem ledger_bindNext {w : World α} (hw : w.Playhouse) (n : Nat) :
    ((bindNext (some n)).after w).ledger = w.ledger.set n fun t => { t with bound := true } := by
  unfold bindNext
  cases hs : w.scenes[n]? with
  | none =>
    unfold ifHas
    rw [after_bind_of_error (by rw [run_sceneAt, hs])]
    refine (Ledger.set_eq_self fun t ht => ?_).symm
    rw [tenant?_ledger_none hs] at ht
    cases ht
  | some s =>
    obtain ⟨c, -, hc, -⟩ := hw.exists_script hs
    obtain ⟨-, -, hbind⟩ := run_callBind hc
    rw [after_eq_of_run ((run_ifHas hc .bind (callBind n)).trans hbind)]
    exact ledger_modifyScene w n fun _ => rfl

omit [Scalar α] in
/-- Only a scene that there is can be bound. -/
theorem exists_bound_of_bindNext {w v : World α} (hw : w.Playhouse)
    (h : (bindNext (some n)).run w = (.ok (), v)) :
    ∃ s, v.scenes[n]? = some s ∧ s.bound = true := by
  unfold bindNext at h
  cases hs : w.scenes[n]? with
  | none =>
    unfold ifHas at h
    rw [run_bind_of_error (by rw [run_sceneAt, hs])] at h
    cases h
  | some s =>
    obtain ⟨c, -, hc, -⟩ := hw.exists_script hs
    obtain ⟨-, -, hbind⟩ := run_callBind hc
    rw [run_ifHas hc, hbind] at h
    cases h
    refine ⟨{ s with bound := true }, ?_, rfl⟩
    rw [Array.getElem?_modify, if_pos rfl, hs, Option.map_some]

/-- Of some ids, and of no others, images may have come into the depot. -/
def Receives (ids : List String) (w v : World α) : Prop := Depot.TakesIn ids w.depot v.depot

instance (ids : List String) : IsPreorder (World α) (Receives ids) where
  refl w := refl (r := Depot.TakesIn ids) w.depot
  trans _ _ _ h h' := Trans.trans (r := Depot.TakesIn ids) (s := Depot.TakesIn ids) h h'

omit [Scalar α] in
theorem receives_onDepot {β : Type} {ids : List String} {x : Act (Depot α) β}
    (hx : x.Moves (Depot.TakesIn ids)) : (onDepot x).Moves (Receives ids) := fun w => hx w.depot

omit [Scalar α] in
theorem receives_sayFor (ids : List String) (n : Nat) (line : String) :
    (sayFor n line : Act (World α) Unit).Moves (Receives ids) :=
  moves_bind (moves_sceneAt n).of_eq fun _ => receives_onDepot fun _ =>
    Depot.SameImages.takesIn rfl

/-- What is left to do when the images of a document have been loaded. -/
theorem receives_loadSounds (ids : List String) (n images : Nat) (spec : SceneSpec α) :
    (do
      let sounds ← onDepot (Depot.loadSounds spec.folder spec.assets.audio)
      if !spec.assets.videos.isEmpty then
        sayFor n ("Skipping " ++ toString spec.assets.videos.length ++
          " video asset(s): not supported")
      sayFor n ("Assets loaded: images=" ++ toString images ++ " audio=" ++
        toString sounds.length) : Act (World α) Unit).Moves (Receives ids) := by
  refine moves_bind (receives_onDepot fun d =>
    (Depot.listens_sameImages.loadSounds _ _ d).takesIn) fun _ =>
      moves_ite ?_ (receives_sayFor ids n _)
  exact moves_bind (receives_sayFor ids n _) fun _ => receives_sayFor ids n _

/-- However loading the assets ends, only images of the document have come in. -/
theorem receives_preload [Host α] {w : World α} {c : Script α} (hc : w.script? n = some c) :
    w.Receives c.assets.loadedIds ((preload n).after w) := by
  unfold preload
  rw [after_bind_of_ok (by rw [run_scriptAt, hc])]
  cases hspec : c.spec with
  | none => exact receives_sayFor _ n _ w
  | some spec =>
    have hassets : c.assets = spec.assets := by rw [Script.assets, hspec]
    rw [hassets]
    refine moves_bind (moves_reaches n _).of_eq (fun _ => moves_ite (receives_sayFor _ n _) ?_) w
    refine moves_bind (receives_onDepot ?_) fun images => receives_loadSounds _ n _ spec
    exact Depot.takesIn_loadImages _ _ _ fun _ h => h

/-- When the assets were loaded, all images of the document are there.  The loop over the manifest
gives back the identifiers in the order of the list, and loading sounds afterwards takes no image
away. -/
theorem has_of_preload [Host α] {w v : World α} (hw : w.Playhouse) {s : Scene α}
    (hs : w.scenes[n]? = some s) (hbound : s.bound = true) {c : Script α}
    (hc : w.script? n = some c) (h : (preload n).run w = (.ok (), v)) :
    ∀ id ∈ c.assets.loadedIds, v.ledger.has id = true := by
  intro id hid
  unfold preload at h
  rw [run_bind_of_ok (by rw [run_scriptAt, hc])] at h
  cases hspec : c.spec with
  | none =>
    have hassets : c.assets = {} := by rw [Script.assets, hspec]
    rw [hassets] at hid
    cases hid
  | some spec =>
    have hassets : c.assets = spec.assets := by rw [Script.assets, hspec]
    have hreach : (reaches n .assets).run w = (.ok true, w) := by
      rw [run_reaches, hs]
      simp [hasPart, hw.parts, hbound]
    rw [hspec] at h
    dsimp only at h
    rw [run_bind_of_ok hreach, if_neg (by decide)] at h
    obtain ⟨images, u, hload, h⟩ := run_bind_eq_ok.1 h
    have hspec := (Depot.spec_loadImages spec.folder spec.assets.images w.depot trivial).1 images
      u.depot (by
        unfold onDepot at hload
        rw [run_zoom, Prod.mk.injEq] at hload
        rw [← hload.2]
        exact Prod.ext hload.1 rfl)
    have hkept := receives_loadSounds [] n images.length spec u
    rw [after_eq_of_run h] at hkept
    rw [hassets] at hid
    exact hkept.kept id (hspec.2 id (hspec.1 ▸ hid))

omit [Scalar α] in
/-- At most the images differ. -/
theorem OffDepot.ledger {w v : World α} (h : w.OffDepot v) :
    v.ledger = { w.ledger with has := v.ledger.has } := by
  rw [h]
  rfl

/-- A scene that is entered loads its images unless it has them.  A scene that has started keeps
what it has; another one has loaded all images of its document once the call returns, which gives
both directions of the equation. -/
theorem ledger_start [Host α] {w v : World α} (hw : w.Playhouse) {s : Scene α}
    (hs : w.scenes[n]? = some s) (hbound : s.bound = true) (h : (start n).run w = (.ok (), v)) :
    v.ledger = w.ledger.setUp n := by
  obtain ⟨c, hr, hc, ht⟩ := hw.exists_script hs
  rw [Ledger.setUp, ht]
  cases hnew : s.started with
  | true =>
    unfold start at h
    rw [run_bind_of_ok (by rw [run_sceneAt, hs]), hnew, if_neg (by decide)] at h
    cases h
    rfl
  | false =>
    rw [run_start_of_new hs hr hnew] at h
    obtain ⟨_, u, hload, h⟩ := run_bind_eq_ok.1 h
    cases h
    have hoff : w.OffDepot u := after_eq_of_run hload ▸ moves_preload n w
    have hnew := receives_preload hc
    rw [after_eq_of_run hload] at hnew
    have hall := has_of_preload hw hs hbound hc hload
    have hhas : u.ledger.has = fun id => w.ledger.has id || c.assets.loadedIds.contains id := by
      funext id
      rw [Bool.eq_iff_iff, Bool.or_eq_true, List.contains_iff_mem]
      constructor
      · exact hnew.new id
      · rintro (hid | hid)
        · exact hnew.kept id hid
        · exact hall id hid
    refine (ledger_modifyScene u n (g := fun t => { t with started := true }) fun _ => rfl).trans ?_
    rw [hoff.ledger, hhas]
    rfl

/-- **A change of scenes changes the ledger as described.** Step by step: the old scene leaves, the
new one is bound, the stage is handed over, and the new scene is started.  What it shows afterwards
is no matter of the ledger. -/
theorem ledger_changeScene [Host α] {w v : World α} (hw : w.Playhouse) {next : Option Nat}
    (h : (changeScene next).run w = (.ok (), v)) : v.ledger = w.ledger.change next := by
  unfold changeScene at h
  obtain ⟨_, t, ht, h⟩ := run_bind_eq_ok.1 h
  obtain ⟨_, u, hu, h⟩ := run_bind_eq_ok.1 h
  have hages : w.Ages t := after_eq_of_run ht ▸ moves_dismiss w
  have htw : t.Playhouse := hages.playhouse hw
  have hages : t.Ages u := after_eq_of_run hu ▸ moves_bindNext next t
  have huw : u.Playhouse := hages.playhouse htw
  have hleave : t.ledger = w.ledger.dismiss := (books_dismiss hw).done t ht
  rw [run_bind_of_ok (run_handOver huw.parts next)] at h
  cases next with
  | none =>
    cases hu
    cases h
    rw [Ledger.change, ← hleave]
    rfl
  | some n =>
    have hbind : u.ledger = t.ledger.set n fun t => { t with bound := true } :=
      after_eq_of_run hu ▸ ledger_bindNext htw n
    obtain ⟨s, hs, hbound⟩ := exists_bound_of_bindNext htw hu
    obtain ⟨c, -, hc, -⟩ := huw.exists_script hs
    have hhand : (u.handedTo (some n)).ledger = { u.ledger with current := some n } := rfl
    have hcu : (u.handedTo (some n)).script? n = some c := hc
    rw [run_bringUp hcu] at h
    obtain ⟨_, x, hx, h⟩ := run_bind_eq_ok.1 h
    have hshow : (do enterScript n; populateScript n : Act (World α) Unit).Moves SameLedger :=
      moves_bind (tools_sameLedger n).enterScript fun _ => (tools_sameLedger n).places.populateScript
    have hstart := ledger_start (w := u.handedTo (some n)) ⟨huw.parts, huw.scripted⟩ hs hbound hx
    have hx' : x.SameLedger v := after_eq_of_run h ▸ hshow x
    rw [hx', hstart, hhand, hbind, hleave]
    rfl

end Hooks

end World

namespace World

variable [Scalar α]

/-! ## 4. Balance in every run

The books are balanced if the images are those of the current scene.  It is followed through a
change of scenes, in the middle of which no image is loaded at all. -/

/-- A playhouse whose ledger is balanced. -/
structure Stocked (w : World α) : Prop where
  house : w.Playhouse
  balanced : w.ledger.Balanced

/-- A playhouse whose ledger is cleared. -/
structure Emptied (w : World α) : Prop where
  house : w.Playhouse
  cleared : w.ledger.Cleared

theorem Emptied.stocked {w : World α} (h : w.Emptied) : w.Stocked := ⟨h.house, h.cleared.balanced⟩

/-- The scene that comes next takes over. -/
theorem Emptied.handedTo {w : World α} (h : w.Emptied) {next : Option Nat}
    (hnext : ∀ n s, next = some n → w.scenes[n]? = some s → s.bound = true) :
    (w.handedTo next).Emptied where
  house := ⟨h.house.parts, h.house.scripted⟩
  cleared := by
    refine ⟨h.cleared.listed, fun n t hn ht => ?_, h.cleared.none, h.cleared.idle⟩
    obtain ⟨s, hs, rfl⟩ := Option.map_eq_some_iff.1 ht
    exact hnext n s hn hs

/-- Loading a scene for the first time keeps the ledger balanced, also where it ends with a fault:
the images that were loaded up to there are all of the current tenant.

The mark that it has started is set only after all of them are there, so what it promises holds. -/
theorem stocked_start [Host α] {n : Nat} {w : World α} (hw : w.Stocked) (hn : w.current = some n)
    {s : Scene α} (hs : w.scenes[n]? = some s) (hbound : s.bound = true) :
    ((start n).after w).Stocked := by
  refine ⟨(moves_start n w).toAges.playhouse hw.house, ?_⟩
  obtain ⟨c, hr, hc, ht⟩ := hw.house.exists_script hs
  cases hnew : s.started with
  | true =>
    unfold start
    rw [after_bind_of_ok (by rw [run_sceneAt, hs]), hnew, if_neg (by decide)]
    exact hw.balanced
  | false =>
    have hload : ((preload n).after w).ledger.Balanced := by
      have hnew := receives_preload hc
      rw [(moves_preload n w).ledger]
      exact hw.balanced.receive hn ht hnew.kept hnew.new
    rw [Act.after, run_start_of_new hs hr hnew]
    refine after_bind_cases (P := fun v : World α => v.ledger.Balanced) hload fun _ u hu => ?_
    have hoff : w.OffDepot u := after_eq_of_run hu ▸ moves_preload n w
    rw [after_eq_of_run hu] at hload
    have hmark := ledger_modifyScene u n (f := fun s => { s with started := true })
      (g := fun t => { t with started := true }) fun _ => rfl
    rw [show ((modifyScene n fun s => { s with started := true }).after u).ledger = _ from hmark]
    refine hload.start (hoff.outside.current.trans hn) fun t ht' => ?_
    have hsame : u.ledger.tenant? n = w.ledger.tenant? n := by rw [hoff.ledger]
    rw [hsame, ht] at ht'
    cases ht'
    exact has_of_preload hw.house hs hbound hc hu

/-- **A change of scenes leaves the ledger balanced, also one that ends with a fault.** Between
the two scenes nothing is held, which `Emptied` says; from there on a fault may come at any step. -/
theorem stocked_changeScene [Host α] (next : Option Nat) :
    (changeScene next : Act (World α) Unit).Keeps Stocked := by
  intro w hw
  have hhouse : (dismiss.after w).Playhouse := (moves_dismiss w).playhouse hw.house
  unfold changeScene
  -- The scene that leaves may fail to, and then it keeps what it has.
  refine after_bind_cases ?_ fun _ t ht => ?_
  · cases hrun : (dismiss : Act (World α) Unit).run w with
    | mk r v =>
      rw [after_eq_of_run hrun] at hhouse ⊢
      cases r with
      | ok _ =>
        refine ⟨hhouse, ?_⟩
        rw [(books_dismiss hw.house).done v hrun]
        exact hw.balanced.dismiss.balanced
      | error fault =>
        refine ⟨hhouse, ?_⟩
        rw [(books_dismiss hw.house).stopped fault v hrun]
        exact hw.balanced
  -- from here on the old scene has left
  have hleft : t.Emptied := by
    rw [after_eq_of_run ht] at hhouse
    exact ⟨hhouse, (books_dismiss hw.house).done t ht ▸ hw.balanced.dismiss⟩
  have hbound : ((bindNext next).after t).Emptied := by
    refine ⟨(moves_bindNext next t).playhouse hleft.house, ?_⟩
    cases next with
    | none => exact hleft.cleared
    | some n =>
      rw [ledger_bindNext hleft.house]
      exact hleft.cleared.bind n
  refine after_bind_cases hbound.stocked fun _ u hu => ?_
  rw [after_eq_of_run hu] at hbound
  rw [after_bind_of_ok (run_handOver hbound.house.parts next)]
  cases next with
  | none =>
    have hhand : (u.handedTo none).Emptied := hbound.handedTo fun _ _ hn => by cases hn
    exact hhand.stocked
  | some n =>
    obtain ⟨s, hs, hsb⟩ := exists_bound_of_bindNext hleft.house hu
    have hhand : (u.handedTo (some n)).Emptied := hbound.handedTo fun m s' hm hs' => by
      obtain rfl : n = m := Option.some.inj hm
      obtain rfl : s = s' := Option.some.inj (hs.symm.trans hs')
      exact hsb
    obtain ⟨c, -, hc, -⟩ := hhand.house.exists_script (n := n) hs
    have hstart := stocked_start hhand.stocked (n := n) rfl hs hsb
    rw [Act.after, run_bringUp hc]
    refine after_bind_cases hstart fun _ x hx => ?_
    rw [after_eq_of_run hx] at hstart
    have hshow : (do enterScript n; populateScript n : Act (World α) Unit).Moves
        fun w v => w.OwnWork n v ∧ w.SameLedger v := fun w =>
      ⟨moves_bind (moves_enterScript n) (fun _ => moves_populateScript n) w,
        moves_bind (tools_sameLedger n).enterScript
          (fun _ => (tools_sameLedger n).places.populateScript) w⟩
    obtain ⟨hown, hsame⟩ := hshow x
    exact ⟨hown.toAges.playhouse hstart.house, hsame ▸ hstart.balanced⟩

/-- If the first world is stocked, so is the second. -/
def StaysStocked (w v : World α) : Prop := w.Stocked → v.Stocked

instance : IsPreorder (World α) StaysStocked where
  refl _ := id
  trans _ _ _ h h' := h' ∘ h

theorem spans_staysStocked [Host α] : Spans (α := α) StaysStocked where
  tools n := ((tools_ownWork n).and (tools_sameLedger n)).mono fun _ _ h hw =>
    ⟨h.1.toAges.playhouse hw.house, h.2 ▸ hw.balanced⟩
  sound key volume w hw := by
    have hoff : w.OffDepot ((onDepot (Depot.playSound key volume)).after w) := moves_onDepot _ w
    refine ⟨(hoff.ownWork 0).toAges.playhouse hw.house, ?_⟩
    have hhas : ((onDepot (Depot.playSound key volume)).after w).ledger.has = w.ledger.has :=
      congrArg Table.has (Depot.listens_sameImages.playSound key volume w.depot)
    rw [hoff.ledger, hhas]
    exact hw.balanced
  wish hs hr hw := by
    obtain ⟨c, hc⟩ := hw.house.scripted _ _ hs
    rw [hr] at hc
    cases hc
  input _ _ hw := ⟨⟨hw.house.parts, hw.house.scripted⟩, hw.balanced⟩
  register _ _ _ hw := ⟨⟨hw.house.parts, hw.house.scripted⟩, hw.balanced⟩
  change := stocked_changeScene

/-- All scenes play documents, none was ever set up, and the depot has no images. -/
structure Unstocked (w : World α) : Prop where
  scripted : ∀ (n : Nat) (s : Scene α), w.scenes[n]? = some s →
    s.started = false ∧ ∃ c, s.role = .scripted c
  bare : w.depot.images = []

omit [Scalar α] in
theorem Unstocked.playhouse {w : World α} (h : w.Unstocked) (hparts : w.missing = []) :
    w.Playhouse := ⟨hparts, fun n s hs => (h.scripted n s hs).2⟩

omit [Scalar α] in
/-- What is known of a scene of an unstocked world. -/
theorem Unstocked.tenant? {w : World α} (h : w.Unstocked) {n : Nat} {t : Tenant α}
    (ht : w.ledger.tenant? n = some t) :
    t.started = false ∧ ∃ c, w.script? n = some c ∧ t.assets = c.assets := by
  obtain ⟨s, hs, rfl⟩ := Option.map_eq_some_iff.1 ht
  obtain ⟨hnew, c, hr⟩ := h.scripted n s hs
  refine ⟨hnew, c, script?_eq_some.2 ⟨s, hs, hr⟩, ?_⟩
  unfold Scene.tenant Scene.script?
  rw [hr]

theorem Unstocked.stocked {w : World α} (h : w.Unstocked) (hw : w.Fresh)
    (hlisted : ∀ n c, w.script? n = some c → c.assets.Listed) : w.Stocked := by
  have hnone : w.ledger.current = none := hw.idle
  have hcleared : w.ledger.Cleared := by
    refine ⟨fun n t ht => ?_, fun n t hn => ?_, fun id hid => ?_, fun n t ht hs => ?_⟩
    · obtain ⟨-, c, hc, hassets⟩ := h.tenant? ht
      exact hassets ▸ hlisted n c hc
    · rw [hnone] at hn
      cases hn
    · change w.depot.images.has id = true at hid
      rw [h.bare] at hid
      cases hid
    · rw [(h.tenant? ht).1] at hs
      cases hs
  exact ⟨h.playhouse hw.parts, hcleared.balanced⟩

omit [Scalar α] in
/-- The manifests of the scenes stay the same. -/
theorem Ages.exists_tenant {w v : World α} (h : w.Ages v) (hw : w.Playhouse) {n : Nat}
    {c : Script α} (hc : w.script? n = some c) :
    ∃ t, v.ledger.tenant? n = some t ∧ t.assets = c.assets := by
  obtain ⟨d, hd, hspec, -⟩ := h.script? hc
  obtain ⟨s, hs, hr⟩ := script?_eq_some.1 hd
  obtain ⟨d', -, hd', ht⟩ := (h.playhouse hw).exists_script hs
  obtain rfl : d = d' := Option.some.inj (hd.symm.trans hd')
  refine ⟨_, ht, ?_⟩
  unfold Script.assets
  rw [hspec]

omit [Scalar α] in
theorem Ages.exists_script {w v : World α} (h : w.Ages v) (hw : w.Playhouse) {n : Nat}
    {t : Tenant α} (ht : v.ledger.tenant? n = some t) :
    ∃ c, w.script? n = some c ∧ t.assets = c.assets := by
  obtain ⟨s, hs, -⟩ := Option.map_eq_some_iff.1 ht
  have hn : n < w.scenes.size := h.size ▸ (Array.getElem?_eq_some_iff.1 hs).1
  obtain ⟨c, -, hc, -⟩ := hw.exists_script (Array.getElem?_eq_getElem hn)
  obtain ⟨t', ht', hassets⟩ := h.exists_tenant hw hc
  obtain rfl : t = t' := Option.some.inj (ht.symm.trans ht')
  exact ⟨c, hc, hassets⟩

/-- **The images in the depot are those of the current scene, if all manifests list theirs.**  A
world in which all scenes play documents starts without images.  Then every change of scenes
changes its ledger as described, and:

* If every image is listed under the id that it is loaded under, then the ledger is balanced at
  the end of every run, and after every change the images are exactly those that are loaded for
  the document of the new scene.
* Otherwise, when a scene comes and leaves again, exactly the images that it does not list are
  left behind. -/
theorem images_of_current_scene [Host α] {start : World α} (hstart : start.Fresh)
    (hnew : start.Unstocked)
    (os : List (Operation α)) :
    (∀ next v, (changeScene next).run (play os start) = (.ok (), v) →
      v.ledger = (play os start).ledger.change next) ∧
    ((∀ n c, start.script? n = some c → c.assets.Listed) → (play os start).ledger.Balanced ∧
      ∀ next v, (changeScene next).run (play os start) = (.ok (), v) → ∀ id,
        v.depot.images.has id = true ↔
          ∃ n c, next = some n ∧ start.script? n = some c ∧ id ∈ c.assets.loadedIds) ∧
    ∀ n c, start.script? n = some c → ∀ u v, (changeScene (some n)).run start = (.ok (), u) →
      (changeScene none).run u = (.ok (), v) → ∀ id,
        v.depot.images.has id = true ↔ id ∈ c.assets.loadedIds ∧ id ∉ c.assets.ids := by
  have hhouse : start.Playhouse := hnew.playhouse hstart.parts
  refine ⟨fun next v h => ?_, fun hlisted => ?_, fun n c hc u v hu hv id => ?_⟩
  · exact ledger_changeScene ((ages_play os start).playhouse hhouse) h
  · have hstocked : (play os start).Stocked :=
      moved_play spans_staysStocked os start (hnew.stocked hstart hlisted)
    refine ⟨hstocked.balanced, fun next v h id => ?_⟩
    have hages : start.Ages v := (ages_play os start).trans
      (after_eq_of_run h ▸ (moves_changeScene 0 next (play os start)).ages)
    have hledger := ledger_changeScene hstocked.house h
    have hbalanced : v.ledger.Balanced :=
      after_eq_of_run h ▸ (stocked_changeScene next _ hstocked).balanced
    have hcurrent : v.ledger.current = next := by rw [hledger, Ledger.current_change]
    constructor
    · intro hid
      obtain ⟨n, t, hn, ht, hload⟩ := hbalanced.own id hid
      obtain ⟨c, hc, hassets⟩ := hages.exists_script hhouse ht
      exact ⟨n, c, hcurrent.symm.trans hn, hc, hassets ▸ hload⟩
    · rintro ⟨n, c, rfl, hc, hload⟩
      obtain ⟨t, ht, hassets⟩ := hages.exists_tenant hhouse hc
      have hstarted : t.started = true := Ledger.started_change (hledger ▸ ht)
      exact hbalanced.full n t hcurrent ht hstarted id (hassets ▸ hload)
  · obtain ⟨t, ht, hassets⟩ := (refl start : start.Ages start).exists_tenant hhouse hc
    have hages : start.Ages u := after_eq_of_run hu ▸ (moves_changeScene 0 _ start).ages
    have hnone : start.ledger.has id = false := by
      change start.depot.images.has id = false
      rw [hnew.bare]
      rfl
    have hledger : v.ledger = (start.ledger.change (some n)).change none := by
      rw [ledger_changeScene (hages.playhouse hhouse) hv, ledger_changeScene hhouse hu]
    have hhas := Ledger.has_change_change (l := start.ledger) hstart.idle ht (hnew.tenant? ht).1 id
    change v.ledger.has id = true ↔ _
    rw [hledger, hhas, hnone, hassets]
    simp

/-- A gallery with one image. -/
def gallery (image : Value Rat) : World Rat :=
  { house with
    scenes := #[(Scene.scripted "gallery" false).adopt
      { name := "gallery", assets := { images := [image] } }] }

theorem fresh_gallery (image : Value Rat) : (gallery image).Fresh where
  parts := rfl
  idle := rfl
  blank := rfl
  untouched
    | 0, _, h => by cases h; rfl
    | _ + 1, _, h => by simp [script?, gallery] at h

theorem unstocked_gallery (image : Value Rat) : (gallery image).Unstocked where
  scripted
    | 0, _, h => by cases h; exact ⟨rfl, _, rfl⟩
    | _ + 1, _, h => by simp [gallery] at h
  bare := rfl

/-- An image that is a path is there while its scene is current.  An image that has a source and no
id is still there when its scene has left. -/
theorem images_of_current_scene_gallery :
    (gallery (.text "logo.png")).Fresh ∧ (gallery (.text "logo.png")).Unstocked ∧
    (∃ v, (changeScene (some 0)).run (gallery (.text "logo.png")) = (.ok (), v) ∧
      v.depot.images.has "logo" = true) ∧
    ∃ u v, (changeScene (some 0)).run (gallery (.map [(.text "src", .text "logo.png")])) =
        (.ok (), u) ∧ (changeScene none).run u = (.ok (), v) ∧ v.current = none ∧
      v.depot.images.has "logo" = true := by
  refine ⟨fresh_gallery _, unstocked_gallery _, ?_, ?_⟩
  · obtain ⟨-, hbalance, -⟩ := images_of_current_scene (fresh_gallery (.text "logo.png"))
      (unstocked_gallery _) []
    have hlisted : ∀ n c, (gallery (.text "logo.png")).script? n = some c → c.assets.Listed := by
      intro n c hc
      cases n with
      | zero =>
        cases hc
        refine Manifest.listed_of_ids fun fields hmem => ?_
        cases List.mem_singleton.1 hmem
      | succ n => simp [script?, gallery] at hc
    have hv := run_of_toOption (b := ()) (x := changeScene (some 0))
      (s := gallery (.text "logo.png")) (by decide +kernel)
    exact ⟨_, hv, ((hbalance hlisted).2 _ _ hv "logo").2 ⟨0, _, rfl, rfl, by decide +kernel⟩⟩
  · obtain ⟨-, -, hleave⟩ := images_of_current_scene
      (fresh_gallery (.map [(.text "src", .text "logo.png")])) (unstocked_gallery _) []
    have hu := run_of_toOption (b := ()) (x := changeScene (some 0))
      (s := gallery (.map [(.text "src", .text "logo.png")])) (by decide +kernel)
    have hv := run_of_toOption (b := ()) (x := changeScene none)
      (s := (changeScene (some 0)).after (gallery (.map [(.text "src", .text "logo.png")])))
      (by decide +kernel)
    exact ⟨_, _, hu, hv, by decide +kernel,
      (hleave 0 _ rfl _ _ hu hv "logo").2 ⟨by decide +kernel, by decide +kernel⟩⟩

end World

end Diorama
