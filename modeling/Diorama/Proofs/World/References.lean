/-
# References

A document gives names to four kinds of things: its states, its scene, its images and its sounds.
Where they are defined, every name is turned into a text.  Where they are referred to, by a
transition, an action or a sprite, a value stays what it is, and only a text is the name of
anything.  So a name that is a number or a truth value cannot be referred to by the very value
that defines it: a state named 5 is found by the text "5" and not by the number 5.  A number of too
many digits has no text at all; what would get its name from one is refused before anything can refer
to it (`ReadsAs.written`, `ReadsParts.written`).

This module says what a reference comes to when the thing that it refers to is there.

* A text finds it: the state is activated, the scene becomes current, the sprite gets the image
  of the last entry with that id, the sound of the last entry that was loaded under it is played.
* Any other scalar misses it, which is reported, and nothing else happens.
* A list or a mapping misses a state as well.  In the other cases nothing can be looked up by
  it, and that is a fault.

`references_resolve` states this for the four kinds, from the raw values on both sides.
-/
import Diorama.Proofs.Accepting
import Diorama.Proofs.Shelves
import Diorama.Proofs.World.Turns

namespace Diorama

open Act

variable {α : Type}

/-! ## 1. Looking up by a value

`nameKey` decides what a value finds: a text finds what has this name, another scalar finds
nothing, and a list or a mapping is a fault because nothing can be looked up by it.  `Value.finds`
is this decision as an act. -/

/-- Whether the value can be the name of anything. -/
def Value.isName : Value α → Bool
  | .text _ => true
  | _ => false

theorem Value.isName_iff {v : Value α} : v.isName = true ↔ ∃ name, v = .text name := by
  cases v <;> simp [isName]

/-- Looks up by a value something that is there under its text: a text finds it, another scalar
misses it, and by a list or a mapping nothing can be looked up. -/
def Value.finds {σ β : Type} (v : Value α) (found missed : Act σ β) : Act σ β :=
  match v.nameKey with
  | .ok (some _) => found
  | .ok none => missed
  | .error e => throw e

variable [Scalar α]

/-- A name is its own text. -/
theorem Value.nameKey_plain {v : Value α} {name : String} (h : v.nameKey = .ok (some name)) :
    v.plain = name := by
  rw [Value.nameKey_iff.1 h]
  rfl

/-- The action that is read from a mapping. -/
def ReadsAction (fields : Fields α) (a : ActionSpec α) : Prop :=
  ∃ log log', (readAction (.map fields)).run log = (.ok (some a), log')

theorem ReadsAction.raw {fields : Fields α} {a : ActionSpec α} (h : ReadsAction fields a) :
    a.target = Fields.get fields "target" ∧ a.sound = Fields.get fields "sound" := by
  obtain ⟨log, log', h⟩ := h
  obtain ⟨_, hfields, -, htarget, hsound, -⟩ := resultsIn_readAction _ log _ log' h a rfl
  cases hfields
  exact ⟨htarget, hsound⟩

theorem transitionOf_map {fields : Fields α} {t : TransitionSpec α}
    (h : transitionOf (.map fields) = some t) :
    t.nextState = Fields.get fields "nextState" ∧ t.nextScene = Fields.get fields "nextScene" := by
  unfold transitionOf at h
  dsimp only at h
  split at h
  · cases h
    exact ⟨rfl, rfl⟩
  · cases h

/-! ## 2. States

States are looked up in a list, by comparing names, so here even a list or a mapping merely finds
nothing. -/

/-- The value is the name of this state of the document, and no earlier state has the same text for
its name. -/
structure NamesState (doc : Fields α) (i : Nat) (fields : Fields α) (v : Value α) : Prop where
  item : (stateItems doc)[i]? = some (.map fields)
  name : Fields.get fields "name" = v
  first : ∀ j < i, ∀ other, (stateItems doc)[j]? = some (.map other) →
    (Fields.get other "name").plain ≠ v.plain

/-- A state that is named in a document is the first of its name in the scene.  The states are
read one by one in their order, so the first item of a name becomes the first state of that name. -/
theorem NamesState.exists_state {folder : Option String} {doc fields : Fields α}
    {spec : SceneSpec α} {i : Nat} {v : Value α} (h : NamesState doc i fields v)
    (hspec : ReadsParts folder doc spec) :
    ∃ state, spec.states[i]? = some state ∧ ReadsAs fields state ∧ state.name = v.plain ∧
      v.writable = true ∧ ∀ j < i, ∀ other, spec.states[j]? = some other → other.name ≠ v.plain := by
  obtain ⟨hlength, hreads⟩ := List.forall₂_iff_get.1 hspec.states
  obtain ⟨hi, hitem⟩ := List.getElem?_eq_some_iff.1 h.item
  obtain ⟨fields', hfields, hread⟩ := hreads i hi (hlength ▸ hi)
  rw [List.get_eq_getElem, hitem] at hfields
  cases hfields
  refine ⟨_, List.getElem?_eq_getElem (hlength ▸ hi), hread, ?_, ?_,
    fun j hj other hother => ?_⟩
  · rw [← h.name]
    exact hread.name
  · rw [← h.name]
    exact hread.written
  · obtain ⟨hj', rfl⟩ := List.getElem?_eq_some_iff.1 hother
    obtain ⟨fields', hfields, hread'⟩ := hreads j (by omega) hj'
    rw [List.get_eq_getElem] at hfields hread'
    rw [hread'.name]
    exact h.first j hj fields' (by rw [List.getElem?_eq_getElem (by omega), hfields])

namespace World

/-- Goes to a state of a scene. -/
def goTo (n i : Nat) (state : StateSpec α) : Act (World α) Unit := do
  sayFor n ("Switching to state: " ++ state.name)
  modifyScript n fun s => { s with index := i, stateName := some state.name, timer := 0.0 }
  activate n state

/-- What a reference to a state comes to. -/
def reachState (n i : Nat) (state : StateSpec α) (v : Value α) : Act (World α) Unit :=
  if v.isName then goTo n i state else sayFor n ("Warning: state not found: " ++ v.plain)

/-- A switch goes to the first state of the name if it is asked for by a text.  A value that is no
text is never found, even if its text is the name of a state; `reachState` says the same in terms
of the document. -/
theorem run_switchToState_eq {n i : Nat} {v : Value α} {state : StateSpec α} {c : Script α}
    {w : World α} (hc : w.script? n = some c) (hstate : c.states[i]? = some state)
    (hname : state.name = v.plain) (hwritten : v.writable = true)
    (hfirst : ∀ j < i, ∀ other, c.states[j]? = some other → other.name ≠ v.plain) :
    (switchToState n v).run w = (reachState n i state v).run w := by
  unfold switchToState reachState
  rw [run_bind_of_ok (by rw [run_scriptAt, hc])]
  cases hv : v.isName with
  | true =>
    obtain ⟨name, rfl⟩ := Value.isName_iff.1 hv
    obtain ⟨hi, hget⟩ := List.getElem?_eq_some_iff.1 hstate
    change state.name = name at hname
    have hfind : c.states.findIdx? (fun s => (Value.text name : Value α).isText s.name) =
        some i := by
      refine List.findIdx?_eq_some_iff_getElem.2 ⟨hi, ?_, fun j hj htext => ?_⟩
      · rw [hget, hname, Value.isText_iff]
      · have hother := List.getElem?_eq_getElem (l := c.states) (i := j) (by omega)
        exact hfirst j hj _ hother (Value.text.inj (Value.isText_iff.1 htext)).symm
    rw [hfind, if_pos rfl, goTo, hname]
    dsimp only
    rw [hstate]
    rfl
  | false =>
    have hfind : c.states.findIdx? (fun s => v.isText s.name) = none := by
      refine List.findIdx?_eq_none_iff.2 fun s _ => Bool.eq_false_iff.2 fun htext => ?_
      rw [Value.isName_iff.2 ⟨_, Value.isText_iff.1 htext⟩] at hv
      cases hv
    rw [hfind, if_neg (by decide)]
    dsimp only
    rw [Value.written, Value.told_of_writable hwritten]
    rfl

/-! ## 3. Scenes

Scenes are looked up in the registry, which is a table. -/

variable [Host α]

/-- What a reference to a registered scene comes to. -/
def reachScene (m : Nat) (v : Value α) : Act (World α) Unit :=
  v.finds (changeScene (some m))
    (say ("[SceneManager] Warning: scene '" ++ v.plain ++ "' not registered"))

theorem run_switchTo_eq {m : Nat} {v : Value α} {w : World α} (hwritten : v.writable = true)
    (hm : w.registry.lookup v.plain = some m) :
    (switchTo v).run w = (reachScene m v).run w := by
  unfold switchTo reachScene Value.finds
  cases hkey : v.nameKey with
  | error e => rw [run_bind_of_error (by rw [run_registered?, hkey]), run_throw]
  | ok key =>
    rw [run_bind_of_ok (by rw [run_registered?, hkey])]
    cases key with
    | none =>
      rw [Option.bind_none, Value.written, Value.told_of_writable hwritten]
      rfl
    | some name =>
      rw [Value.nameKey_plain hkey] at hm
      rw [Option.bind_some, hm]

/-! ## 4. Images and sounds

So are images and sounds, in the tables of the depot. -/

omit [Host α] in
/-- What a sprite shows that refers to an image.  The key under which the image is looked up is
its text, so the image that the loader put there is the one that is shown. -/
theorem form_buildSprite {shop : Workshop} {image? : String → Option Surface}
    (hshop : shop.image? = some image?) {v : Value α} (hv : v.truthy = true) {s : Surface}
    (hs : image? v.plain = some s) {fields : Fields α} (hid : Fields.get fields "assetId" = v)
    {log log' : Log} {e : Entity α} (h : (shop.buildSprite fields).run log = (.ok e, log')) :
    ∃ key, v.nameKey = .ok key ∧ e.form = .sprite (key.map fun _ => s) := by
  obtain ⟨place, _, -, h⟩ := run_bind_eq_ok.1 h
  obtain ⟨image, _, himage, h⟩ := run_bind_eq_ok.1 h
  obtain ⟨look, _, -, h⟩ := run_bind_eq_ok.1 h
  cases h
  unfold Workshop.findImage at himage
  rw [hshop, hid] at himage
  dsimp only at himage
  rw [if_neg (by rw [hv]; decide)] at himage
  obtain ⟨key, _, hkey, himage⟩ := run_bind_eq_ok.1 himage
  rw [run_ofExcept, Prod.mk.injEq] at hkey
  refine ⟨key, hkey.1, ?_⟩
  cases key with
  | none =>
    obtain ⟨_, _, -, himage⟩ := run_bind_eq_ok.1 himage
    cases himage
    rfl
  | some name =>
    rw [Value.nameKey_plain hkey.1] at hs
    rw [Option.bind_some, hs] at himage
    cases himage
    rfl

end World

namespace Depot

/-- Plays a sound that is there, if a channel can be had. -/
def playPath (path : String) : Act (Depot α) Bool := do
  if !(← onDevice Device.findChannel) then return false
  onDevice (Device.call (.channelVolume 1.0))
  onDevice (Device.call (.playSound path))
  return true

/-- What a reference to a loaded sound comes to. -/
def reachSound (path : String) (v : Value α) : Act (Depot α) Bool :=
  v.finds (playPath path) do
    reportSound v
    return false

theorem run_playSound_eq {path : String} {v : Value α} {d : Depot α} (hd : d.Sounding)
    (hmuted : d.sounds.muted = false) (hpath : d.sounds.effects.lookup v.plain = some path) :
    (playSound v .null).run d = (reachSound path v).run d := by
  unfold playSound reachSound Value.finds
  rw [run_bind_of_ok (run_get d), hmuted, if_neg (by decide), run_bind_of_ok (run_mixerReady hd),
    if_neg (by decide)]
  cases hkey : v.nameKey with
  | error e => rfl
  | ok key =>
    rw [run_bind_of_ok (run_ofExcept _ d), run_bind_of_ok (run_get d)]
    cases key with
    | none => rfl
    | some name =>
      rw [Value.nameKey_plain hkey] at hpath
      dsimp only
      rw [Option.bind_some, hpath]
      rfl

end Depot

namespace World

/-! ## 5. Loading

What the tables of the depot have in them when the assets of a scene were loaded: for each id what
the last entry under it has led to. -/

/-- Nothing but lines were printed. -/
def Printed (w v : World α) : Prop := ∃ log, v = w.withLog log

omit [Scalar α] in
instance : IsPreorder (World α) Printed where
  refl w := ⟨w.depot.device.log, rfl⟩
  trans _ _ _ h h' := by
    obtain ⟨log, rfl⟩ := h
    obtain ⟨log', rfl⟩ := h'
    exact ⟨log', rfl⟩

omit [Scalar α] in
theorem printed_sayFor (n : Nat) (line : String) :
    (sayFor n line : Act (World α) Unit).Moves Printed :=
  moves_bind (moves_sceneAt n).of_eq fun _ => fun _ => ⟨_, rfl⟩

variable [Host α] {n : Nat} {w u : World α} {c : Script α} {spec : SceneSpec α}

/-- Loading the assets of a document loads its images, then its sounds, and prints.  The depot is
passed from one to the other; the lines at the end are all that happens to it afterwards. -/
theorem run_preload_eq_ok (hstage : w.Onstage n) (hc : w.script? n = some c)
    (hspec : c.spec = some spec) (h : (preload n).run w = (.ok (), u)) :
    ∃ images sounds d e, (Depot.loadImages spec.folder spec.assets.images).run w.depot =
        (.ok images, d) ∧
      (Depot.loadSounds spec.folder spec.assets.audio).run d = (.ok sounds, e) ∧
      ∃ log, u = { w with depot := e }.withLog log := by
  unfold preload at h
  rw [run_bind_of_ok (by rw [run_scriptAt, hc]), hspec] at h
  dsimp only at h
  rw [run_bind_of_ok (hstage.run_reaches .assets), if_neg (by decide)] at h
  obtain ⟨images, t, hfirst, h⟩ := run_bind_eq_ok.1 h
  obtain ⟨d, himages, rfl⟩ := run_zoom_eq_ok hfirst
  obtain ⟨sounds, t, hsecond, h⟩ := run_bind_eq_ok.1 h
  obtain ⟨e, hsounds, rfl⟩ := run_zoom_eq_ok hsecond
  refine ⟨images, sounds, d, e, himages, hsounds, ?_⟩
  have hprinted : ({ w with depot := e } : World α).Printed u := by
    rw [← after_eq_of_run h]
    exact moves_ite (moves_bind (printed_sayFor n _) fun _ => printed_sayFor n _)
      (printed_sayFor n _) _
  exact hprinted

/-- When the assets are loaded, this entry is the last of the sounds of the document that is loaded
under the id. -/
def SoundFrom (spec : SceneSpec α) (w : World α) (id : String) (entry : Value α) : Prop :=
  ∃ images d e, (Depot.loadImages spec.folder spec.assets.images).run w.depot = (.ok images, d) ∧
    d.takesSounds = true ∧
    Depot.LastUnder (Depot.loadSoundEntry spec.folder) id entry spec.assets.audio d e

/-- Of several images with an id the last one is found. -/
theorem image_of_preload (hstage : w.Onstage n) (hc : w.script? n = some c)
    (hspec : c.spec = some spec) (h : (preload n).run w = (.ok (), u)) {id : String}
    {before after : List (Value α)} {entry : Value α}
    (hsplit : spec.assets.images = before ++ entry :: after)
    (hentry : Manifest.loadedId? entry = some id)
    (hafter : ∀ later ∈ after, Manifest.loadedId? later ≠ some id) :
    ∃ s, Depot.IsImageOf spec.folder entry s ∧ u.depot.image? id = some s := by
  obtain ⟨images, sounds, d, e, himages, hsounds, log, rfl⟩ :=
    run_preload_eq_ok hstage hc hspec h
  rw [hsplit] at himages
  obtain ⟨⟨s, hs, hlookup⟩, -⟩ := (Depot.fills_loadImage spec.folder).lookup_of_last
    (Depot.lastUnder_loadImage hentry hafter himages)
  have hsame : e.images = d.images := by
    rw [← after_eq_of_run hsounds]
    exact Depot.listens_sameImages.loadSounds _ _ d
  refine ⟨s, hs, ?_⟩
  change e.images.lookup id = some s
  rw [hsame, hlookup]

/-- Of several sounds that were loaded under an id the last one is found. -/
theorem sound_of_preload (hstage : w.Onstage n) (hc : w.script? n = some c)
    (hspec : c.spec = some spec) (h : (preload n).run w = (.ok (), u)) {id : String}
    {entry : Value α} (hentry : SoundFrom spec w id entry) :
    u.depot.Sounding ∧ u.depot.sounds.effects.lookup id =
      some (assetPath (Manifest.file entry) spec.folder) := by
  obtain ⟨images, sounds, d, e, himages, hsounds, log, rfl⟩ :=
    run_preload_eq_ok hstage hc hspec h
  obtain ⟨images', d', e', himages', htakes, hlast⟩ := hentry
  cases himages.symm.trans himages'
  obtain ⟨ids, hrun, -⟩ := hlast.exists_run
  unfold Depot.loadSounds at hsounds
  rw [run_bind_of_ok (run_get d), if_pos htakes, Depot.loadSoundEntries_eq, hrun] at hsounds
  cases hsounds
  obtain ⟨⟨path, hpath, hlookup⟩, hsounding⟩ :=
    (Depot.fills_loadSoundEntry spec.folder).lookup_of_last hlast
  exact ⟨hsounding, hpath ▸ hlookup⟩

/-! ## 6. References

The four kinds side by side, from the value where the thing is defined and the value where it is
referred to. -/

/-- Whether a state is found that has the value for its name: by a timer that leads to no scene
first, and by an action. -/
def FindsState (doc : Fields α) (spec : SceneSpec α) (v : Value α) (n : Nat) (w : World α) : Prop :=
  ∀ i fields, NamesState doc i fields v → ∃ state, spec.states[i]? = some state ∧
    ReadsAs fields state ∧
    (∀ timer t, transitionOf (.map timer) = some t → Fields.get timer "nextState" = v →
      (Fields.get timer "nextScene").truthy = false →
      (follow n t).run w = (reachState n i state v).run w) ∧
    ∀ click a, ReadsAction click a → a.kind = .switchState → Fields.get click "target" = v →
      (perform n a).run w =
        (do sayFor n "Button action: switchState"; reachState n i state v).run w

/-- Whether the scene is found if it has the value for its name and is registered under the name
that was read: by a timer and by an action. -/
def FindsScene (doc : Fields α) (spec : SceneSpec α) (v : Value α) (n : Nat) (w : World α) : Prop :=
  Fields.get doc "sceneName" = v → ∀ m, w.registry.lookup spec.name = some m →
    (∀ timer t, transitionOf (.map timer) = some t → Fields.get timer "nextScene" = v →
      (follow n t).run w = (reachScene m v).run w) ∧
    ∀ click a, ReadsAction click a → a.kind = .switchScene → Fields.get click "target" = v →
      (perform n a).run w = (do sayFor n "Button action: switchScene"; reachScene m v).run w

/-- Whether an image is found if an entry has the value for its id, once the assets are loaded:
an image with a source has its id for a text, and the last one of those with the same text is what
a sprite shows. -/
def FindsImage (doc : Fields α) (folder : Option String) (v : Value α) (n : Nat) (u : World α) :
    Prop :=
  (∀ fields, (Manifest.source fields).truthy = true → Fields.get fields "id" = v →
    Manifest.loadedId? (.map fields) = some v.plain) ∧
  ∀ before entry after, assetItems doc "images" = before ++ entry :: after →
    Manifest.loadedId? entry = some v.plain →
    (∀ later ∈ after, Manifest.loadedId? later ≠ some v.plain) →
    ∃ s, Depot.IsImageOf folder entry s ∧
      ∃ shop, (workshopOf n).run u = (.ok shop, u) ∧
        ∀ sprite log log' e, Fields.get sprite "assetId" = v →
          (shop.buildSprite sprite).run log = (.ok e, log') →
          ∃ key, v.nameKey = .ok key ∧ e.form = .sprite (key.map fun _ => s)

/-- Whether a sound is found that was loaded under the text of the value, once the assets are
loaded and unless sounds are muted: by an action. -/
def FindsSound (spec : SceneSpec α) (v : Value α) (n : Nat) (w u : World α) : Prop :=
  ∀ entry, SoundFrom spec w v.plain entry → u.depot.sounds.muted = false →
    ∀ click a, ReadsAction click a → a.kind = .playSound → Fields.get click "sound" = v →
      (perform n a).run u = (do
        sayFor n "Button action: playSound"
        let _ ← onDepot (Depot.reachSound (assetPath (Manifest.file entry) spec.folder) v)).run u

section Find

variable {doc : Fields α} {folder : Option String} {v : Value α}

/-- A reference to a state of a document reaches the first state of that name, through a timer as
through a button.

Both ways come to `switchToState`, which looks at the script alone; a line that was printed before
does not matter. -/
theorem findsState (hspec : ReadsParts folder doc spec) (hv : v.truthy = true)
    (hc : w.script? n = some c) (hplays : c.spec = some spec) : FindsState doc spec v n w := by
  intro i fields hnames
  obtain ⟨state, hstate, hreads, hname, hwritten, hfirst⟩ := hnames.exists_state hspec
  have hstates : c.states = spec.states := by rw [Script.states, hplays]
  have hswitch {t : World α} (ht : w.OffDepot t) :
      (switchToState n v).run t = (reachState n i state v).run t :=
    run_switchToState_eq ((ht.sameScripts n).trans hc) (hstates ▸ hstate) hname hwritten
      (hstates ▸ hfirst)
  refine ⟨state, hstate, hreads, fun timer t ht hnext hscene => ?_,
    fun click a ha hkind htarget => ?_⟩
  · obtain ⟨hnextState, hnextScene⟩ := transitionOf_map ht
    unfold follow
    rw [hnextScene, hscene, if_neg (by decide), hnextState, hnext, if_pos hv]
    exact hswitch rfl
  · rw [← ha.raw.1] at htarget
    unfold perform
    rw [hkind]
    refine run_bind_congr fun _ t ht => ?_
    dsimp only
    rw [htarget, if_pos hv]
    exact hswitch (after_eq_of_run ht ▸ moves_sayFor n _ w)

/-- A reference to the scene of a document reaches the scene that is registered under the name of
the document, through a timer as through a button.

Both ways come to `switchScene`, which prints nothing before it asks for the scene. -/
theorem findsScene (hspec : ReadsParts folder doc spec) (hv : v.truthy = true)
    (hstage : w.Onstage n) : FindsScene doc spec v n w := by
  intro hname m hm
  have hplain : spec.name = v.plain := by
    rw [hspec.name, nameValue, hname, Value.orElse, if_pos hv]
  have hwritten : v.writable = true := by
    have hwritten := hspec.written
    rwa [nameValue, hname, Value.orElse, if_pos hv] at hwritten
  have hswitch {t : World α} (ht : w.OffDepot t) :
      (switchScene n v).run t = (reachScene m v).run t := by
    unfold switchScene
    rw [run_bind_of_ok ((hstage.ownWork (ht.ownWork n)).run_reaches .director), if_pos rfl]
    refine run_switchTo_eq hwritten ?_
    rw [ht]
    exact hplain ▸ hm
  refine ⟨fun timer t ht hnext => ?_, fun click a ha hkind htarget => ?_⟩
  · obtain ⟨-, hnextScene⟩ := transitionOf_map ht
    unfold follow
    rw [hnextScene, hnext, if_pos hv]
    exact hswitch rfl
  · rw [← ha.raw.1] at htarget
    unfold perform
    rw [hkind]
    refine run_bind_congr fun _ t ht => ?_
    dsimp only
    rw [htarget, if_pos hv]
    exact hswitch (after_eq_of_run ht ▸ moves_sayFor n _ w)

theorem findsImage (hspec : ReadsParts folder doc spec) (hv : v.truthy = true)
    (hstage : w.Onstage n) (hc : w.script? n = some c) (hplays : c.spec = some spec)
    (hload : (preload n).run w = (.ok (), u)) : FindsImage doc folder v n u := by
  refine ⟨fun fields hsource hid => ?_, fun before entry after hsplit hentry hafter => ?_⟩
  · unfold Manifest.loadedId?
    dsimp only
    rw [if_pos hsource, hid, Value.orElse, if_pos hv]
  · rw [← hspec.images] at hsplit
    obtain ⟨s, hs, hfound⟩ := image_of_preload hstage hc hplays hload hsplit hentry hafter
    have hstage' : u.Onstage n :=
      hstage.ownWork ((after_eq_of_run hload ▸ moves_preload n w : w.OffDepot u).ownWork n)
    refine ⟨s, hspec.folder ▸ hs, { image? := some u.depot.image?, lettering := .engine }, ?_,
      fun sprite log log' e hid hbuild => ?_⟩
    · unfold workshopOf
      rw [run_bind_of_ok (run_get u), run_bind_of_ok (hstage'.run_reaches _),
        run_bind_of_ok (hstage'.run_reaches _)]
      rfl
    · exact form_buildSprite rfl hv hfound hid hbuild

theorem findsSound (hv : v.truthy = true) (hstage : w.Onstage n) (hc : w.script? n = some c)
    (hplays : c.spec = some spec) (hload : (preload n).run w = (.ok (), u)) :
    FindsSound spec v n w u := by
  intro entry hentry hmuted click a ha hkind hsound
  obtain ⟨hsounding, hpath⟩ := sound_of_preload hstage hc hplays hload hentry
  have hstage' : u.Onstage n :=
    hstage.ownWork ((after_eq_of_run hload ▸ moves_preload n w : w.OffDepot u).ownWork n)
  rw [← ha.raw.2] at hsound
  unfold perform
  rw [hkind]
  refine run_bind_congr fun _ t ht => ?_
  obtain ⟨log, rfl⟩ : u.Printed t := after_eq_of_run ht ▸ printed_sayFor n _ u
  have hreach : (reaches n .sounds).run (u.withLog log) = (.ok true, u.withLog log) :=
    Onstage.run_reaches (w := u.withLog log) hstage' .sounds
  have hplay := Depot.run_playSound_eq (d := (u.withLog log).depot) hsounding hmuted hpath
  dsimp only
  rw [hsound, if_pos hv, run_bind_of_ok hreach, if_pos rfl, run_bind, run_bind, onDepot, onDepot,
    run_zoom, run_zoom, hplay]

/-- **What a reference comes to when the thing is there.**  A document is accepted, its scene can
reach every part of the engine, and a value that is not empty is the name of something in it.  If
the value is a text, a reference by it finds that thing.  If it is anything else, it never does,
although the thing has its name from this very value. -/
theorem references_resolve {log log' : Log}
    (hread : (readScene folder (.map doc)).run log = (.ok spec, log')) (hv : v.truthy = true)
    (hstage : w.Onstage n) (hc : w.script? n = some c) (hplays : c.spec = some spec) :
    FindsState doc spec v n w ∧ FindsScene doc spec v n w ∧
    ∀ u, (preload n).run w = (.ok (), u) → FindsImage doc folder v n u ∧ FindsSound spec v n w u := by
  obtain ⟨fields, hfields, hspec⟩ := resultsIn_readScene folder _ log spec log' hread
  cases hfields
  refine ⟨findsState hspec hv hc hplays, findsScene hspec hv hstage, fun u hload => ⟨?_, ?_⟩⟩
  · exact findsImage hspec hv hstage hc hplays hload
  · exact findsSound hv hstage hc hplays hload

end Find

/-- A document whose scene and only state have the value for their name. -/
def named (v : Value Rat) : Fields Rat :=
  [(.text "sceneName", v), (.text "states", .list [.map [(.text "name", v)]])]

/-- A timer that leads to a state. -/
def timerTo (v : Value Rat) : Fields Rat :=
  [(.text "type", .text "timer"), (.text "duration", .int 0), (.text "nextState", v)]

/-- A state named by a text is found by it; a state named by a number is not found by the
number.  In both documents the reference is spelled exactly as the name is; only the text is
found. -/
theorem references_resolve_named :
    (∃ spec log t state, (readScene none (.map (named (.text "five")))).run #[] = (.ok spec, log) ∧
      transitionOf (.map (timerTo (.text "five"))) = some t ∧ spec.states[0]? = some state ∧
      (follow 0 t).run (playing spec) = (goTo 0 0 state).run (playing spec)) ∧
    ∃ spec log t, (readScene none (.map (named (.int 5)))).run #[] = (.ok spec, log) ∧
      transitionOf (.map (timerTo (.int 5))) = some t ∧
      (follow 0 t).run (playing spec) =
        (sayFor 0 "Warning: state not found: 5").run (playing spec) := by
  have hreads (v : Value Rat)
      (h : ((readScene none (.map (named v))).run #[]).1.toOption.isSome = true)
      (hv : v.truthy = true) (ht : (transitionOf (.map (timerTo v))).isSome = true) :
      ∃ spec log t state, (readScene none (.map (named v))).run #[] = (.ok spec, log) ∧
        transitionOf (.map (timerTo v)) = some t ∧ spec.states[0]? = some state ∧
        (follow 0 t).run (playing spec) = (reachState 0 0 state v).run (playing spec) := by
    obtain ⟨spec, hspec⟩ := Option.isSome_iff_exists.1 h
    obtain ⟨t, ht⟩ := Option.isSome_iff_exists.1 ht
    obtain ⟨hstate, -⟩ := references_resolve (run_of_toOption hspec) hv
      (w := playing spec) (n := 0) ⟨rfl, _, rfl, rfl⟩ rfl rfl
    obtain ⟨state, hfirst, -, htimer, -⟩ := hstate 0 [(.text "name", v)] ⟨rfl, rfl, nofun⟩
    exact ⟨spec, _, t, state, run_of_toOption hspec, ht, hfirst, htimer _ t ht rfl rfl⟩
  refine ⟨hreads (.text "five") (by decide +kernel) rfl (by decide +kernel), ?_⟩
  obtain ⟨spec, log, t, _, hread, ht, -, hfollow⟩ :=
    hreads (.int 5) (by decide +kernel) rfl (by decide +kernel)
  exact ⟨spec, log, t, hread, ht, hfollow⟩

end World

end Diorama
