/-
# Which images there are

The ids of a document's images are worked out twice.  Loading registers an image under the id of
its entry or, without one, under the name of its file (`Manifest.loadedIds`).  Giving the assets
back goes by the ids that the manifest lists (`Manifest.ids`), and there a mapping without an id
is passed over.  So the two agree for every manifest in which each image that is a mapping has an
id (`Manifest.listed_of_ids`), and only for such a mapping they do not.

Of everything that happens to a depot only three things change which images there are: loading
adds the ids of what it loads, forgetting assets takes away the ids that it is given, and sounds
do not matter.
-/
import Diorama.Depot
import Diorama.Proofs.Reports

namespace Diorama

open Act

variable {α : Type}

/-! ## 1. Ids

An entry has an id of its own, or one that is told from its source; the second is the name of the
file without its ending. -/

namespace Table

variable {β : Type}

/-- Setting an id adds it, unless it is there. -/
theorem has_put (t : Table β) (name other : String) (value : β) :
    (t.put name value).has other = true ↔ t.has other = true ∨ other = name := by
  unfold has
  rw [lookup_put]
  split
  · next h => simp [h]
  · next h => simp [h]

/-- Erasing an id takes it away, and no other. -/
theorem has_erase (t : Table β) (name other : String) :
    (t.erase name).has other = true ↔ t.has other = true ∧ other ≠ name := by
  unfold has
  rw [lookup_erase]
  split
  · next h => simp [h]
  · next h => simp [h]

end Table

namespace Manifest

variable [Scalar α]

/-- Where the image of a mapping is taken from. -/
def source (fields : Fields α) : Value α :=
  (Fields.get fields "src").orElse (Fields.get fields "path")

/-- Where the asset of an entry is taken from, as it is written. -/
def file : Value α → String
  | .text path => path
  | .map fields => (source fields).plain
  | _ => ""

/-- The id that an image is loaded under, if it has a source. -/
def loadedId? : Value α → Option String
  | .text path => some (Path.stem path)
  | .map fields =>
    if (source fields).truthy then
      some ((Fields.get fields "id").orElse (.text (Path.stem (source fields).plain))).plain
    else none
  | _ => none

/-- The ids that the images are loaded under. -/
def loadedIds (m : Manifest α) : List String := m.images.filterMap loadedId?

/-- Every image is listed under the id that it is loaded under. -/
def Listed (m : Manifest α) : Prop := ∀ id ∈ m.loadedIds, id ∈ m.ids

/-- An image that is loaded under an id is listed under the same, or it is a mapping that has no id
and is not listed at all. -/
theorem idOf?_of_loadedId? {v : Value α} {id : String} (h : loadedId? v = some id) :
    idOf? v = some id ∨
      ∃ fields, v = .map fields ∧ (source fields).truthy = true ∧
        (Fields.get fields "id").truthy = false ∧ idOf? v = none := by
  cases v with
  | text path => exact .inl h
  | map fields =>
    change (if (source fields).truthy = true then some (Value.plain _) else none) = some id at h
    by_cases hsource : (source fields).truthy = true
    · rw [if_pos hsource] at h
      by_cases hid : (Fields.get fields "id").truthy = true
      · left
        rw [Value.orElse, if_pos hid] at h
        exact (if_pos hid).trans h
      · exact .inr ⟨fields, rfl, hsource, Bool.eq_false_iff.2 hid, if_neg hid⟩
    · rw [if_neg hsource] at h
      cases h
  | _ => cases h

/-- If every mapping with a source has an id of its own, giving back goes by the ids of loading. -/
theorem listed_of_ids {m : Manifest α}
    (h : ∀ fields, .map fields ∈ m.images → (source fields).truthy = true →
      (Fields.get fields "id").truthy = true) : m.Listed := by
  intro id hid
  obtain ⟨v, hv, hload⟩ := List.mem_filterMap.1 hid
  rcases idOf?_of_loadedId? hload with hlist | ⟨fields, rfl, hsource, hno, -⟩
  · exact List.mem_filterMap.2 ⟨v, List.mem_append_left _ hv, hlist⟩
  · rw [h fields hv hsource] at hno
    cases hno

end Manifest

/-- The text that was asked for is the text of the value. -/
theorem resultsIn_told {σ : Type} (v : Value α) (text : String) :
    (Act.ofExcept (v.told text) : Act σ String).ResultsIn (· = text) :=
  fun _ _ _ h => (run_told_eq_ok h).2.1

/-- What is read of an entry is the id that it loads under, and the file that it names.  A text is
the path itself and gives its stem as the id; a mapping gives both, if it has a source; anything
else is an error. -/
theorem resultsIn_readAsset [Scalar α] (v : Value α) :
    (readAsset v).ResultsIn fun r =>
      r.map (·.1) = Manifest.loadedId? v ∧ ∀ p ∈ r, p.2 = Manifest.file v := by
  cases v with
  | text path =>
    unfold readAsset Manifest.loadedId? Manifest.file
    dsimp only
    -- What the stem is does not matter, and it is long to compute.
    generalize Path.stem path = stem
    exact resultsIn_pure ⟨rfl, fun p hp => by cases hp; rfl⟩
  | map fields =>
    unfold readAsset Manifest.loadedId? Manifest.file Manifest.source
    dsimp only
    cases ((Fields.get fields "src").orElse (Fields.get fields "path")).truthy with
    | true =>
      refine ResultsIn.bind (resultsIn_told _ _) fun path hpath => ?_
      refine ResultsIn.bind (resultsIn_told _ _) fun id hid => ?_
      subst hpath
      subst hid
      exact resultsIn_pure ⟨rfl, fun p hp => by cases hp; rfl⟩
    | false =>
      exact resultsIn_bind fun _ => resultsIn_bind fun _ => resultsIn_pure ⟨rfl, nofun⟩
  | _ =>
    intro s b t h
    cases h

namespace Depot

/-! ## 2. Sounds

Sounds are kept beside the images, so whatever is done with them leaves the images
alone.  `Listens` has the few requests that all of it is made of. -/

theorem resultsIn_liftLog {β : Type} {P : β → Prop} {x : Act Log β} (hx : x.ResultsIn P) :
    (liftM x : Act (Depot α) β).ResultsIn P := by
  intro d b t h
  have hfst : (x.run d.device.log).1 = .ok b := congrArg (fun r => r.1) h
  exact hx d.device.log b _ (Prod.ext hfst rfl)

/-- The relation holds across the steps that work with sounds is put together from: something is
printed, the device is asked about sounds, and what is known of the sounds changes. -/
structure Listens (R : Depot α → Depot α → Prop) : Prop where
  log {β : Type} (x : Act Log β) : (liftM x : Act (Depot α) β).Moves R
  call (c : Call α) : (onDevice (Device.call c)).Moves R
  start : (onDevice Device.startMixer).Moves R
  decode (path : String) : (onDevice (Device.loadSound path)).Moves R
  channel : (onDevice Device.findChannel).Moves R
  sounds (f : Sounds α → Sounds α) : (modifySounds f).Moves R

/-- Whether the hardware runs is asked of the device, and the answer is noted.  Starting the mixer
is tried once, and a failure of the device is printed and forgotten. -/
theorem moves_mixerReady {R : Depot α → Depot α → Prop} [IsPreorder (Depot α) R]
    (hlog : ∀ line, (liftM (say line) : Act (Depot α) Unit).Moves R)
    (hstart : (onDevice Device.startMixer).Moves R)
    (hready : ∀ ready, (modifySounds fun s => { s with ready }).Moves R) :
    (mixerReady : Act (Depot α) Bool).Moves R := by
  have htry : (tryMixer : Act (Depot α) Bool).Moves R := by
    refine moves_tryCatch (moves_bind moves_get fun d => moves_ite ?_ ?_) fun e => ?_
    · exact moves_bind hstart fun _ => moves_bind moves_get fun _ => moves_pure _
    · exact moves_bind moves_get fun _ => moves_pure _
    · split
      · exact moves_bind (hlog _) fun _ => moves_pure _
      · exact moves_throw _
  have hrest (came : Bool) : (do return came && (← get).device.mixerOn :
      Act (Depot α) Bool).Moves R := moves_bind moves_get fun _ => moves_pure _
  unfold mixerReady
  refine moves_bind moves_get fun d => ?_
  split
  · exact moves_bind (moves_pure _) hrest
  · exact moves_bind htry fun came => moves_bind (hready _) fun _ =>
      moves_bind (moves_pure _) hrest

namespace Listens

variable {R : Depot α → Depot α → Prop} [IsPreorder (Depot α) R]

/-- To ask for sound tries the hardware once. -/
theorem mixerReady (h : Listens R) : (Depot.mixerReady : Act (Depot α) Bool).Moves R :=
  moves_mixerReady (fun _ => h.log _) h.start fun _ => h.sounds _

/-- To forget a sound stops it first, if sound works. -/
theorem unloadSound (h : Listens R) (id : String) :
    (Depot.unloadSound id : Act (Depot α) Unit).Moves R := by
  unfold Depot.unloadSound
  refine moves_bind moves_get fun d => ?_
  split
  · exact moves_bind (h.sounds _) fun _ => moves_bind h.mixerReady fun _ =>
      moves_ite (h.call _) (moves_pure _)
  · exact moves_pure _

variable [Scalar α]

/-- To play is to look up, to find a channel and to set two volumes.  The three places at which
playing is given up are no exceptions: what was asked for up to there is all that happens. -/
theorem playSound (h : Listens R) (key volume : Value α) :
    (Depot.playSound key volume).Moves R := by
  have hreport : (reportSound key).Moves R :=
    moves_bind moves_get fun d =>
      moves_ite (moves_bind (moves_ofExcept _) fun _ =>
        moves_bind (h.log _) fun _ => h.sounds _) (moves_pure _)
  have hplay (path : String) (v : α) : (do
      onDevice (Device.call (.channelVolume v))
      onDevice (Device.call (.playSound path))
      return true : Act (Depot α) Bool).Moves R :=
    moves_bind (h.call _) fun _ => moves_bind (h.call _) fun _ => moves_pure _
  unfold Depot.playSound
  refine moves_bind moves_get fun d => moves_ite (moves_pure _) ?_
  refine moves_bind h.mixerReady fun _ => moves_ite (moves_pure _) ?_
  refine moves_bind (moves_ofExcept _) fun id => moves_bind moves_get fun d => ?_
  dsimp only
  split
  · exact moves_bind hreport fun _ => moves_pure _
  · refine moves_bind h.channel fun _ => moves_ite (moves_pure _) ?_
    split
    · exact moves_bind (moves_pure _) (hplay _)
    · exact moves_bind (moves_ofExcept _) (hplay _)

/-- To load replaces a sound of the same id, once the file was read. -/
theorem loadSound (h : Listens R) (id path : String) (volume : Value α) :
    (Depot.loadSound id path volume).Moves R := by
  have hregister : (do registerSound id path; return true : Act (Depot α) Bool).Moves R :=
    moves_bind (h.sounds _) fun _ => moves_pure _
  unfold Depot.loadSound
  refine moves_bind moves_get fun d => moves_ite ?_ ?_
  · exact moves_bind (h.log _) fun _ => moves_pure _
  refine moves_bind h.mixerReady fun _ => moves_ite (moves_pure _) ?_
  refine moves_bind (moves_tryCatch ?_ fun e => ?_) fun _ => moves_ite (moves_pure _) ?_
  · exact moves_bind (h.decode path) fun _ => moves_pure _
  · split
    · exact moves_bind (h.log _) fun _ => moves_pure _
    · exact moves_throw _
  · refine moves_ite (moves_bind (moves_ofExcept _) fun _ => ?_) hregister
    exact moves_bind (h.call _) fun _ => hregister

/-- By induction on the entries. -/
theorem loadSounds (h : Listens R) (folder : Option String) (entries : List (Value α)) :
    (Depot.loadSounds folder entries).Moves R := by
  have hentry (entry : Value α) : (loadSoundEntry folder entry).Moves R := by
    unfold loadSoundEntry
    refine moves_bind (h.log _) fun r => ?_
    split
    · exact moves_pure _
    · exact moves_bind (h.loadSound _ _ _) fun _ => moves_pure _
  have hall : ∀ es : List (Value α), (loadSoundEntries folder es).Moves R := by
    intro es
    induction es with
    | nil => exact moves_pure _
    | cons e es ih =>
      unfold loadSoundEntries
      exact moves_bind (hentry e) fun _ => moves_bind ih fun _ => moves_pure _
  unfold Depot.loadSounds
  exact moves_bind moves_get fun d => moves_ite (hall entries) (moves_pure _)

end Listens

/-- The same images are there. -/
def SameImages (d e : Depot α) : Prop := e.images = d.images

instance : IsPreorder (Depot α) SameImages where
  refl _ := rfl
  trans _ _ _ h h' := Eq.trans h' h

theorem sameImages_onDevice {β : Type} (x : Act (Device α) β) :
    (onDevice x).Moves SameImages := fun _ => rfl

/-- All these requests go to the device or to the sounds. -/
theorem listens_sameImages : Listens (α := α) SameImages where
  log _ _ := rfl
  call _ _ := rfl
  start _ := rfl
  decode _ _ := rfl
  channel _ := rfl
  sounds _ _ := rfl

/-! ## 3. Loading

Loading adds ids and takes none away.  An image that is missing has a placeholder under its id, so
every entry with a source counts. -/

/-- Images of these ids, and of no others, may have come in. -/
structure TakesIn (ids : List String) (d e : Depot α) : Prop where
  kept : ∀ id, d.images.has id = true → e.images.has id = true
  new : ∀ id, e.images.has id = true → d.images.has id = true ∨ id ∈ ids

instance (ids : List String) : IsPreorder (Depot α) (TakesIn ids) where
  refl _ := ⟨fun _ h => h, fun _ h => .inl h⟩
  trans _ _ _ h h' := by
    refine ⟨fun id hid => h'.kept id (h.kept id hid), fun id hid => ?_⟩
    rcases h'.new id hid with hid | hid
    · exact h.new id hid
    · exact .inr hid

/-- What leaves the images alone takes in nothing. -/
theorem SameImages.takesIn {ids : List String} {d e : Depot α} (h : d.SameImages e) :
    TakesIn ids d e := by
  rw [SameImages] at h
  refine ⟨fun id hid => ?_, fun id hid => .inl ?_⟩
  · rwa [h]
  · rwa [← h]

section Loading

variable [Scalar α] [Host α]

/-- The image of an entry comes in, and no other.  Whether the file is there decides only which
picture is put under the id. -/
theorem takesIn_loadImage (folder : Option String) {entry : Value α} {ids : List String}
    (h : ∀ id, Manifest.loadedId? entry = some id → id ∈ ids) :
    (loadImage folder entry).Moves (TakesIn ids) := by
  have same {β : Type} {x : Act (Depot α) β} (hx : x.Moves SameImages) : x.Moves (TakesIn ids) :=
    hx.mono fun _ _ h => h.takesIn
  unfold loadImage
  refine (resultsIn_liftLog (resultsIn_readAsset entry)).moves_bind (same fun _ => rfl)
    fun r hr => ?_
  split
  · exact moves_pure _
  · next id source =>
    have hput (s : Surface) : (do
        modify fun d => { d with images := d.images.put id s }
        return some id : Act (Depot α) (Option String)).Moves (TakesIn ids) := by
      refine moves_bind (moves_modify fun d => ⟨fun k hk => ?_, fun k hk => ?_⟩) fun _ =>
        moves_pure _
      · exact (Table.has_put ..).2 (.inl hk)
      · rcases (Table.has_put ..).1 hk with hk | rfl
        · exact .inl hk
        · exact .inr (h k hr.1.symm)
    refine moves_bind moves_get fun d =>
      moves_ite (moves_bind (same (listens_sameImages.log _)) fun _ => ?_) ?_ <;>
        exact moves_bind (same (sameImages_onDevice _)) hput

/-- When an entry was loaded, its image is there.  The image is put under the id whether its file
was found or not: a placeholder takes the place of a missing one. -/
theorem spec_loadImage (folder : Option String) (entry : Value α) :
    Spec (fun _ => True) (loadImage folder entry)
      (fun r d => r = Manifest.loadedId? entry ∧ ∀ id ∈ r, d.images.has id = true)
      fun _ => True := by
  unfold loadImage
  refine spec_bind (resultsIn_liftLog (resultsIn_readAsset entry)).spec fun r => ?_
  split
  · exact spec_pure fun _ hr => ⟨hr.1, nofun⟩
  · next id source =>
    refine Spec.mono (P := fun _ => some id = Manifest.loadedId? entry) ?_ (fun _ h => h.1)
      (fun _ _ h => h) fun _ h => h
    -- what happens before the table is written is of no importance
    have anything {β : Type} (x : Act (Depot α) β) : Spec
        (fun _ => some id = Manifest.loadedId? entry) x
        (fun _ _ => some id = Manifest.loadedId? entry) fun _ => True :=
      fun d hd => ⟨fun _ _ _ => hd, fun _ _ _ => trivial⟩
    have hput (s : Surface) : Spec (fun _ => some id = Manifest.loadedId? entry) (do
        modify fun d => { d with images := d.images.put id s }
        return some id : Act (Depot α) (Option String))
        (fun r d => r = Manifest.loadedId? entry ∧ ∀ id ∈ r, d.images.has id = true)
        fun _ => True := by
      refine spec_bind (spec_modify (Q := fun _ d => some id = Manifest.loadedId? entry ∧
        d.images.has id = true) fun d hd => ⟨hd, (Table.has_put ..).2 (.inr rfl)⟩) fun _ => ?_
      refine spec_pure fun d hd => ⟨hd.1, fun k hk => ?_⟩
      rw [← Option.some.inj hk]
      exact hd.2
    refine spec_bind (anything _) fun d => ?_
    dsimp only
    split
    · exact spec_bind (anything _) fun _ => spec_bind (anything _) hput
    · exact spec_bind (anything _) hput

/-- By induction on the entries: what one takes in, the rest keeps. -/
theorem takesIn_loadImages (folder : Option String) (ids : List String) :
    ∀ entries : List (Value α), (∀ id ∈ entries.filterMap Manifest.loadedId?, id ∈ ids) →
      (loadImages folder entries).Moves (TakesIn ids)
  | [], _ => moves_pure _
  | entry :: rest, h => by
    unfold loadImages
    refine moves_bind (takesIn_loadImage folder fun id hid => h id ?_) fun _ =>
      moves_bind (takesIn_loadImages folder ids rest fun id hid => h id ?_) fun _ => moves_pure _
    · exact List.mem_filterMap.2 ⟨entry, List.mem_cons_self, hid⟩
    · obtain ⟨v, hv, hload⟩ := List.mem_filterMap.1 hid
      exact List.mem_filterMap.2 ⟨v, List.mem_cons_of_mem _ hv, hload⟩

/-- **Loading a list of images registers exactly `Manifest.loadedId?` of each**, and all of them are
there at the end. -/
theorem spec_loadImages (folder : Option String) :
    ∀ entries : List (Value α), Spec (fun _ => True) (loadImages folder entries)
      (fun ids d => ids = entries.filterMap Manifest.loadedId? ∧ ∀ id ∈ ids, d.images.has id = true)
      fun _ => True
  | [] => spec_pure fun _ _ => ⟨rfl, nofun⟩
  | entry :: rest => by
    intro d _
    refine ⟨fun ids t hr => ?_, fun _ _ _ => trivial⟩
    obtain ⟨r, u, hentry, hr⟩ := run_bind_eq_ok.1 hr
    obtain ⟨ids', v, hrest, hr⟩ := run_bind_eq_ok.1 hr
    cases hr
    obtain ⟨hid, hhas⟩ := (spec_loadImage folder entry d trivial).1 r u hentry
    obtain ⟨hids, hall⟩ := (spec_loadImages folder rest u trivial).1 ids' _ hrest
    refine ⟨?_, fun id hmem => ?_⟩
    · rw [hid, hids, List.filterMap_cons]
      cases Manifest.loadedId? entry <;> rfl
    · rcases List.mem_append.1 hmem with hmem | hmem
      · have hkept := takesIn_loadImages folder _ rest (fun _ h => h) u
        rw [after_eq_of_run hrest] at hkept
        exact hkept.kept id (hhas id (Option.mem_toList.1 hmem))
      · exact hall id hmem

end Loading

/-! ## 4. Forgetting

Forgetting cannot fail, and takes away exactly the ids that it is given. -/

theorem faultsIn_say {F : Fault → Prop} (line : String) :
    (liftM (say line) : Act (Depot α) Unit).FaultsIn F := by
  intro d e t h
  cases h

/-- Stopping a sound starts the hardware at most, and that it does not start is reported.  The
only fault of the start is that of the device, and the handler catches it. -/
theorem faultsIn_mixerReady : (mixerReady : Act (Depot α) Bool).FaultsIn fun _ => False := by
  have hstart : (Device.startMixer : Act (Device α) Unit).FaultsIn fun e => ∃ f, e = .device f := by
    refine faultsIn_bind (faultsIn_modify _) fun _ => faultsIn_bind faultsIn_get fun d => ?_
    split
    · exact faultsIn_modify _
    · exact faultsIn_throw ⟨_, rfl⟩
    · exact faultsIn_pure _
  have htry : (tryMixer : Act (Depot α) Bool).FaultsIn fun _ => False := by
    refine faultsIn_tryCatch (G := fun e => ∃ f, e = .device f) ?_ ?_
    · refine faultsIn_bind faultsIn_get fun d => faultsIn_ite ?_ ?_
      · exact faultsIn_bind (faultsIn_zoom hstart) fun _ =>
          faultsIn_bind faultsIn_get fun _ => faultsIn_pure _
      · exact faultsIn_bind faultsIn_get fun _ => faultsIn_pure _
    · rintro e ⟨f, rfl⟩
      exact faultsIn_bind (faultsIn_say _) fun _ => faultsIn_pure _
  have hrest (came : Bool) : (do return came && (← get).device.mixerOn :
      Act (Depot α) Bool).FaultsIn fun _ => False :=
    faultsIn_bind faultsIn_get fun _ => faultsIn_pure _
  unfold mixerReady
  refine faultsIn_bind faultsIn_get fun d => ?_
  split
  · exact faultsIn_bind (faultsIn_pure _) hrest
  · exact faultsIn_bind htry fun came => faultsIn_bind (faultsIn_modify _) fun _ =>
      faultsIn_bind (faultsIn_pure _) hrest

/-- To forget an id that is not there is no mistake. -/
theorem faultsIn_unloadAsset (id : String) :
    (unloadAsset id : Act (Depot α) Unit).FaultsIn fun _ => False := by
  refine faultsIn_bind (faultsIn_modify _) fun _ => faultsIn_bind faultsIn_get fun d => ?_
  refine faultsIn_ite (faultsIn_bind faultsIn_get fun d => ?_) (faultsIn_pure _)
  split
  · refine faultsIn_bind (faultsIn_modify _) fun _ => faultsIn_bind faultsIn_mixerReady fun _ => ?_
    exact faultsIn_ite (faultsIn_zoom (faultsIn_modify _)) (faultsIn_pure _)
  · exact faultsIn_pure _

theorem faultsIn_unloadAssets (ids : List String) :
    (unloadAssets ids : Act (Depot α) Unit).FaultsIn fun _ => False :=
  faultsIn_forM ids fun id _ => faultsIn_unloadAsset id

/-- The id is gone, and all others are as before. -/
theorem has_after_unloadAsset (id other : String) (d : Depot α) :
    ((unloadAsset id).after d).images.has other = true ↔
      d.images.has other = true ∧ other ≠ id := by
  have hrest : (do if (← get).takesSounds then unloadSound id :
      Act (Depot α) Unit).Moves SameImages :=
    moves_bind moves_get fun _ => moves_ite (listens_sameImages.unloadSound id) (moves_pure _)
  unfold unloadAsset
  rw [after_bind_of_ok (run_modify _ d), hrest _]
  exact Table.has_erase ..

/-- **Forgetting assets takes away the images of their ids**, and it always ends with a result. -/
theorem has_after_unloadAssets (other : String) :
    ∀ (ids : List String) (d : Depot α), ((unloadAssets ids).after d).images.has other = true ↔
      d.images.has other = true ∧ other ∉ ids
  | [], d => by simp [unloadAssets, Act.after, List.forM]
  | id :: ids, d => by
    obtain ⟨_, t, ht⟩ := (faultsIn_unloadAsset id).exists_run d
    have hafter := after_bind_of_ok (f := fun _ => unloadAssets ids) ht
    change ((unloadAssets (id :: ids)).after d) = _ at hafter
    rw [hafter, has_after_unloadAssets other ids t, ← after_eq_of_run ht, has_after_unloadAsset]
    simp only [List.mem_cons, not_or, ne_eq, and_assoc]

end Depot

end Diorama
