/-
# What is found under an id

Images and sounds are loaded entry by entry and put on a shelf under their ids, and what is put
under an id takes the place of what was there.  So what is found under an id in the end is what
came from the last entry that was loaded under it (`Depot.LastUnder`), and from that entry alone.

The two shelves differ in when an entry is loaded: an image with a source always is, a sound only
if its file can be played.  `Depot.Fills` is what they have in common.
-/
import Diorama.Proofs.Images

namespace Diorama

open Act

variable {α : Type}

namespace Depot

/-! ## 1. Loading one after the other

Loading goes through the entries in order, and an entry without an id or source leads to
nothing.  `LastUnder` follows a run of it to the last entry that was loaded under an id, because
which entry that is can depend on the depot: a sound counts only if its file could be played when
its turn came. -/

/-- Loads entries one after the other; the result lists the ids that they were loaded under. -/
def loadEach (load : Value α → Act (Depot α) (Option String)) :
    List (Value α) → Act (Depot α) (List String)
  | [] => pure []
  | entry :: rest => do
    let id ← load entry
    let ids ← loadEach load rest
    return id.toList ++ ids

section Shelf

variable {load : Value α → Act (Depot α) (Option String)} {id : String} {entry : Value α}

/-- When entries are loaded from the first depot to the second, this one is loaded under the id and
none after it is. -/
inductive LastUnder (load : Value α → Act (Depot α) (Option String)) (id : String)
    (entry : Value α) : List (Value α) → Depot α → Depot α → Prop where
  | here {rest : List (Value α)} {ids : List String} {d d' e : Depot α}
      (hload : (load entry).run d = (.ok (some id), d'))
      (hrest : (loadEach load rest).run d' = (.ok ids, e)) (hids : id ∉ ids) :
      LastUnder load id entry (entry :: rest) d e
  | later {first : Value α} {rest : List (Value α)} {r : Option String} {d d' e : Depot α}
      (hload : (load first).run d = (.ok r, d')) (hrest : LastUnder load id entry rest d' e) :
      LastUnder load id entry (first :: rest) d e

/-- Where an entry is the last of its id, the run of all entries came to its end, and the id is in
its list. -/
theorem LastUnder.exists_run {entries : List (Value α)} {d e : Depot α}
    (h : LastUnder load id entry entries d e) :
    ∃ ids, (loadEach load entries).run d = (.ok ids, e) ∧ id ∈ ids := by
  induction h with
  | @here rest ids d d' e hload hrest _ =>
    refine ⟨id :: ids, ?_, List.mem_cons_self⟩
    unfold loadEach
    rw [run_bind_of_ok hload, run_bind_of_ok hrest]
    rfl
  | @later first rest r d d' e hload _ ih =>
    obtain ⟨ids, hrest, hid⟩ := ih
    refine ⟨r.toList ++ ids, ?_, List.mem_append_right _ hid⟩
    unfold loadEach
    rw [run_bind_of_ok hload, run_bind_of_ok hrest]
    rfl

variable {β : Type} {shelf : Depot α → Table β} {good : Value α → β → Prop} {I : Depot α → Prop}

/-- An entry that is loaded puts something good on the shelf, under its id, and then the condition
holds; an entry that is not loaded puts nothing there; and the condition lasts. -/
structure Fills (load : Value α → Act (Depot α) (Option String)) (shelf : Depot α → Table β)
    (good : Value α → β → Prop) (I : Depot α → Prop) : Prop where
  cases : ∀ {entry r d e}, (load entry).run d = (.ok r, e) → (r = none ∧ shelf e = shelf d) ∨
    ∃ id b, r = some id ∧ good entry b ∧ shelf e = (shelf d).put id b ∧ I e
  lasts : ∀ entry, (load entry).Keeps I

namespace Fills

/-- A condition that one entry keeps, all of them keep. -/
theorem keeps_loadEach (h : Fills load shelf good I) :
    ∀ entries : List (Value α), (loadEach load entries).Keeps I
  | [] => keeps_pure _
  | entry :: rest => keeps_bind (h.lasts entry) fun _ =>
      keeps_bind (h.keeps_loadEach rest) fun _ => keeps_pure _

/-- Under an id that is not listed nothing has changed. -/
theorem lookup_of_not_mem (h : Fills load shelf good I) :
    ∀ {entries : List (Value α)} {ids : List String} {d e : Depot α},
    (loadEach load entries).run d = (.ok ids, e) → id ∉ ids →
    (shelf e).lookup id = (shelf d).lookup id
  | [], ids, d, e, hrun, _ => by
    cases hrun
    rfl
  | first :: rest, ids, d, e, hrun, hid => by
    obtain ⟨r, d', hfirst, hrun⟩ := run_bind_eq_ok.1 hrun
    obtain ⟨ids', e', hrest, hrun⟩ := run_bind_eq_ok.1 hrun
    cases hrun
    rw [List.mem_append, not_or] at hid
    rw [h.lookup_of_not_mem hrest hid.2]
    rcases h.cases hfirst with ⟨-, hsame⟩ | ⟨other, b, rfl, -, hput, -⟩
    · rw [hsame]
    · have hne : id ≠ other := fun heq => hid.1 (Option.mem_toList.2 (by rw [heq]))
      rw [hput, Table.lookup_put, if_neg hne]

/-- **What is found under an id came from the last entry that was loaded under it.** -/
theorem lookup_of_last (h : Fills load shelf good I) {entries : List (Value α)} {d e : Depot α}
    (hlast : LastUnder load id entry entries d e) :
    (∃ b, good entry b ∧ (shelf e).lookup id = some b) ∧ I e := by
  induction hlast with
  | @here rest ids d d' e hload hrest hids =>
    obtain ⟨hnone, -⟩ | ⟨id', b, hid, hb, hput, hI⟩ := h.cases hload
    · cases hnone
    cases hid
    refine ⟨⟨b, hb, ?_⟩, ?_⟩
    · rw [h.lookup_of_not_mem hrest hids, hput, Table.lookup_put, if_pos rfl]
    · rw [← after_eq_of_run hrest]
      exact h.keeps_loadEach rest _ hI
  | later _ _ ih => exact ih

end Fills

end Shelf

variable [Scalar α]

/-! ## 2. Images

An image entry with an id and a source always puts something on the shelf: the image of its file,
or the placeholder if there is none.  So here the last entry of an id is told from the list alone
(`lastUnder_loadImage`). -/

/-- `load_images` is loading one after the other. -/
theorem loadImages_eq [Host α] (folder : Option String) (entries : List (Value α)) :
    loadImages folder entries = loadEach (loadImage folder) entries := by
  induction entries with
  | nil => rfl
  | cons entry rest ih =>
    unfold loadImages loadEach
    rw [ih]

/-- The surface is the image of an entry: what is read from its file, or the placeholder. -/
def IsImageOf [Host α] (folder : Option String) (entry : Value α) (s : Surface) : Prop :=
  ∃ d e : Device α, (Device.image (assetPath (Manifest.file entry) folder)).run d = (.ok s, e)

/-- An entry that is loaded puts its own image under its own id, whether or not the line that
reports a missing file comes before it. -/
theorem fills_loadImage [Host α] (folder : Option String) :
    Fills (loadImage folder) Depot.images (IsImageOf folder) fun _ : Depot α => True where
  cases {entry r d e} h := by
    obtain ⟨read, u, hread, h⟩ := run_bind_eq_ok.1 h
    have hu : u.images = d.images := by
      rw [← after_eq_of_run hread]
      rfl
    obtain ⟨-, hfile⟩ := resultsIn_liftLog (resultsIn_readAsset entry) d read u hread
    cases read with
    | none =>
      cases h
      exact .inl ⟨rfl, hu⟩
    | some p =>
      obtain ⟨id, source⟩ := p
      obtain rfl : source = Manifest.file entry := hfile _ rfl
      have hput {w : Depot α} (hw : w.images = d.images) (h : (do
          let s ← onDevice (Device.image (assetPath (Manifest.file entry) folder))
          modify fun d => { d with images := d.images.put id s }
          return some id : Act (Depot α) (Option String)).run w = (.ok r, e)) :
          ∃ id s, r = some id ∧ IsImageOf folder entry s ∧ e.images = d.images.put id s ∧ True := by
        obtain ⟨s, w', hs, h⟩ := run_bind_eq_ok.1 h
        obtain ⟨device, himage, rfl⟩ := run_zoom_eq_ok hs
        cases h
        exact ⟨id, s, rfl, ⟨_, _, himage⟩, congrArg (Table.put · id s) hw, trivial⟩
      rw [run_bind_of_ok (run_get u)] at h
      split at h
      · obtain ⟨_, v, hsay, h⟩ := run_bind_eq_ok.1 h
        have hv : v.images = u.images := by
          rw [← after_eq_of_run hsay]
          rfl
        exact .inr (hput (hv.trans hu) h)
      · exact .inr (hput hu h)
  lasts _ _ _ := trivial

/-- Which image is the last to be loaded under an id can be told from the entries.  By induction
on the entries before it.  That none of those after it loads under the same id is read off their
ids alone. -/
theorem lastUnder_loadImage [Host α] {folder : Option String} {id : String} {entry : Value α}
    {after : List (Value α)} (hentry : Manifest.loadedId? entry = some id)
    (hafter : ∀ later ∈ after, Manifest.loadedId? later ≠ some id) :
    ∀ {before : List (Value α)} {ids : List String} {d e : Depot α},
    (loadImages folder (before ++ entry :: after)).run d = (.ok ids, e) →
    LastUnder (loadImage folder) id entry (before ++ entry :: after) d e
  | [], ids, d, e, h => by
    obtain ⟨r, d', hload, h⟩ := run_bind_eq_ok.1 h
    obtain ⟨ids', e', hrest, h⟩ := run_bind_eq_ok.1 h
    cases h
    have hr : r = some id := by
      rw [((spec_loadImage folder entry d trivial).1 r d' hload).1, hentry]
    have hids : id ∉ ids' := by
      rw [((spec_loadImages folder after d' trivial).1 ids' e hrest).1]
      intro hmem
      obtain ⟨later, hlater, hid⟩ := List.mem_filterMap.1 hmem
      exact hafter later hlater hid
    rw [loadImages_eq] at hrest
    exact .here (hr ▸ hload) hrest hids
  | first :: before, ids, d, e, h => by
    obtain ⟨r, d', hload, h⟩ := run_bind_eq_ok.1 h
    obtain ⟨ids', e', hrest, h⟩ := run_bind_eq_ok.1 h
    cases h
    exact .later hload (lastUnder_loadImage hentry hafter hrest)

/-! ## 3. Sounds

A sound is on the shelf only if it was decoded, and for that the hardware has to run; `Sounding`
is what is known of a depot from then on. -/

/-- `load_audio_files` is loading one after the other, too. -/
theorem loadSoundEntries_eq (folder : Option String) (entries : List (Value α)) :
    loadSoundEntries folder entries = loadEach (loadSoundEntry folder) entries := by
  induction entries with
  | nil => rfl
  | cons entry rest ih =>
    unfold loadSoundEntries loadEach
    rw [ih]

/-- The sound hardware came up and still runs. -/
def Sounding (d : Depot α) : Prop := d.sounds.ready = some true ∧ d.device.mixerOn = true

section Sounding

omit [Scalar α]

/-- Once the hardware runs it is not looked for again, and nothing changes. -/
theorem run_mixerReady {d : Depot α} (h : d.Sounding) : mixerReady.run d = (.ok true, d) := by
  unfold mixerReady
  rw [run_bind_of_ok (run_get d), h.1]
  change (Except.ok (true && d.device.mixerOn), d) = _
  rw [h.2]
  rfl

/-- If the hardware is said to run, it does. -/
theorem sounding_of_mixerReady {d e : Depot α} (h : mixerReady.run d = (.ok true, e)) :
    e.Sounding := by
  have hrest {came : Bool} {w : Depot α} (hw : w.sounds.ready = some came)
      (h : (do return came && (← get).device.mixerOn : Act (Depot α) Bool).run w =
        (.ok true, e)) : e.Sounding := by
    rw [run_bind_of_ok (run_get w), run_pure, Prod.mk.injEq, Except.ok.injEq,
      Bool.and_eq_true] at h
    obtain ⟨⟨rfl, hon⟩, rfl⟩ := h
    exact ⟨hw, hon⟩
  unfold mixerReady at h
  rw [run_bind_of_ok (run_get d)] at h
  cases hready : d.sounds.ready with
  | some came =>
    rw [hready] at h
    exact hrest hready h
  | none =>
    rw [hready] at h
    obtain ⟨came, u, -, h⟩ := run_bind_eq_ok.1 h
    exact hrest (w := { u with sounds := { u.sounds with ready := some came } }) rfl h

/-- What the device does keeps the hardware running, if it does not turn it off. -/
theorem keeps_onDevice {β : Type} {x : Act (Device α) β}
    (hx : x.Moves fun d e => e.mixerOn = d.mixerOn) : (onDevice x).Keeps Sounding :=
  fun d h => ⟨h.1, (hx d.device).trans h.2⟩

/-- To ask whether sounds can be played turns nothing off. -/
theorem sounding_mixerReady : (mixerReady : Act (Depot α) Bool).Keeps Sounding := by
  intro d h
  rw [after_eq_of_run (run_mixerReady h)]
  exact h

/-- A line that is printed turns nothing off. -/
theorem sounding_say (line : String) :
    (liftM (say line) : Act (Depot α) Unit).Keeps Sounding := fun _ h => h

/-- A request turns nothing off, whatever it asks for. -/
theorem sounding_call (c : Call α) : (onDevice (Device.call c)).Keeps Sounding := fun _ h => h

/-- To decode a sound turns nothing off, whether its file is good or not. -/
theorem sounding_decode (path : String) :
    (onDevice (Device.loadSound path : Act (Device α) Unit)).Keeps Sounding := by
  refine keeps_onDevice fun d => ?_
  unfold Device.loadSound
  rw [after_bind_of_ok (run_get d)]
  split <;> rfl

end Sounding

/-- The same sounds are loaded. -/
def SameSounds (d e : Depot α) : Prop := e.sounds.effects = d.sounds.effects

omit [Scalar α] in
instance : IsPreorder (Depot α) SameSounds where
  refl _ := rfl
  trans _ _ _ h h' := Eq.trans h' h

/-- How loading a sound ends: it was not loaded, or it is there and the hardware runs. -/
def SoundEnds (t : Table String) (id path : String) (loaded : Bool) (d : Depot α) : Prop :=
  (loaded = false ∧ d.sounds.effects = t) ∨
    (loaded = true ∧ d.sounds.effects = t.put id path ∧ d.Sounding)

/-- The two ends of `load`: the shelf is as it was and the answer is no, or the file is on the
shelf, the answer is yes and the hardware runs.  The shelf is changed by the very last step, so a
fault before it leaves the shelf alone as well. -/
theorem spec_loadSound (t : Table String) (id path : String) (volume : Value α) :
    Spec (fun d => d.sounds.effects = t) (loadSound id path volume) (SoundEnds t id path)
      fun _ => True := by
  have hsame {β : Type} (x : Act (Device α) β) :
      (onDevice x).Keeps fun d => d.sounds.effects = t := fun _ h => h
  have hboth {x : Act (Device α) Unit} (hx : (onDevice x).Keeps Sounding) :
      (onDevice x).Keeps fun d => d.sounds.effects = t ∧ d.Sounding := fun d h => ⟨h.1, hx d h.2⟩
  have hnot {P : Depot α → Prop} (hP : ∀ d, P d → d.sounds.effects = t) :
      Spec P (pure false) (SoundEnds t id path) fun _ => True :=
    spec_pure fun d h => .inl ⟨rfl, hP d h⟩
  have hready : Spec (fun d : Depot α => d.sounds.effects = t) mixerReady
      (fun ready d => d.sounds.effects = t ∧ (ready = true → d.Sounding)) fun _ => True := by
    refine fun d hd => ⟨fun ready e hr => ⟨?_, fun h => ?_⟩, fun _ _ _ => trivial⟩
    · have hmoves : (mixerReady : Act (Depot α) Bool).Moves SameSounds :=
        moves_mixerReady (fun _ _ => rfl) (fun _ => rfl) fun _ _ => rfl
      rw [← after_eq_of_run hr, hmoves d, hd]
    · rw [h] at hr
      exact sounding_of_mixerReady hr
  have hregister : Spec (fun d : Depot α => d.sounds.effects = t ∧ d.Sounding)
      (do registerSound id path; return true) (SoundEnds t id path) fun _ => True := by
    refine spec_bind (spec_modify (Q := fun _ d => d.sounds.effects = t.put id path ∧ d.Sounding)
      fun d h => ⟨congrArg (Table.put · id path) h.1, h.2⟩) fun _ => ?_
    exact spec_pure fun _ h => .inr ⟨rfl, h⟩
  unfold loadSound
  refine spec_bind keeps_get.spec_ok fun d => spec_ite (fun _ => ?_) fun _ => ?_
  · exact spec_bind (Keeps.spec_ok (hsame _)) fun _ => hnot fun _ h => h
  refine spec_bind hready fun ready => spec_ite (fun _ => hnot fun _ h => h.1) fun hr => ?_
  have hr : ready = true := by simpa using hr
  refine Spec.mono (P := fun d : Depot α => d.sounds.effects = t ∧ d.Sounding) ?_
    (fun _ h => ⟨h.1, h.2 hr⟩) (fun _ _ h => h) fun _ h => h
  refine spec_bind (Keeps.spec_ok (keeps_tryCatch ?_ fun e => ?_)) fun decoded =>
    spec_ite (fun _ => hnot fun _ h => h.1) fun _ => ?_
  · exact keeps_bind (hboth (sounding_decode path)) fun _ => keeps_pure _
  · split
    · exact keeps_bind (hboth (sounding_say _)) fun _ => keeps_pure _
    · exact keeps_throw _
  · refine spec_ite (fun _ => ?_) fun _ => hregister
    exact spec_bind (keeps_ofExcept _).spec_ok fun v =>
      spec_bind (Keeps.spec_ok (hboth (sounding_call _))) fun _ => hregister

/-- Loading turns nothing off, so what is known after one sound is known after all that follow. -/
theorem sounding_loadSound (id path : String) (volume : Value α) :
    (loadSound id path volume).Keeps Sounding := by
  have hregister : (do registerSound id path; return true :
      Act (Depot α) Bool).Keeps Sounding := fun _ h => h
  unfold loadSound
  refine keeps_bind keeps_get fun d => keeps_ite (fun _ => ?_) fun _ => ?_
  · exact keeps_bind (sounding_say _) fun _ => keeps_pure _
  refine keeps_bind sounding_mixerReady fun _ => keeps_ite (fun _ => keeps_pure _) fun _ => ?_
  refine keeps_bind (keeps_tryCatch ?_ fun e => ?_) fun _ => keeps_ite (fun _ => keeps_pure _)
    fun _ => ?_
  · exact keeps_bind (sounding_decode path) fun _ => keeps_pure _
  · split
    · exact keeps_bind (sounding_say _) fun _ => keeps_pure _
    · exact keeps_throw _
  · refine keeps_ite (fun _ => ?_) fun _ => hregister
    exact keeps_bind (keeps_ofExcept _) fun v => keeps_bind (sounding_call _) fun _ => hregister

/-- The sound of an entry is registered with the path of its file.  The entry is read first, which
leaves the table alone; what comes after it is the loading of one sound. -/
theorem fills_loadSoundEntry (folder : Option String) :
    Fills (loadSoundEntry folder) (fun d : Depot α => d.sounds.effects)
      (fun entry path => path = assetPath (Manifest.file entry) folder) Sounding where
  cases {entry r d e} h := by
    obtain ⟨read, u, hread, h⟩ := run_bind_eq_ok.1 h
    have hu : u.sounds.effects = d.sounds.effects := by
      rw [← after_eq_of_run hread]
      rfl
    obtain ⟨-, hfile⟩ := resultsIn_liftLog (resultsIn_readAsset entry) d read u hread
    cases read with
    | none =>
      cases h
      exact .inl ⟨rfl, hu⟩
    | some p =>
      obtain ⟨id, source⟩ := p
      obtain rfl : source = Manifest.file entry := hfile _ rfl
      obtain ⟨loaded, v, hload, h⟩ := run_bind_eq_ok.1 h
      cases h
      rcases (spec_loadSound d.sounds.effects id _ _ u hu).1 loaded _ hload with
        ⟨rfl, hsame⟩ | ⟨rfl, hput, hsounding⟩
      · exact .inl ⟨rfl, hsame⟩
      · exact .inr ⟨id, _, rfl, rfl, hput, hsounding⟩
  lasts entry := by
    unfold loadSoundEntry
    refine keeps_bind (fun _ h => h) fun r => ?_
    split
    · exact keeps_pure _
    · exact keeps_bind (sounding_loadSound _ _ _) fun _ => keeps_pure _

end Depot

end Diorama
