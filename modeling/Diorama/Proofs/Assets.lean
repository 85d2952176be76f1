/-
# What cannot be loaded

An image that is missing or cannot be read is reported and replaced (`load_image`), a sound is
reported and left out, and so is hardware that does not start.  So loading the assets of a document
always ends with a result, but for three things.  The volume of a sound is not looked at before the
sound is there, and a volume that is no number is a fault then.  The path and the id of an entry
become texts, and an integer may be too long for that.  And the host may refuse to draw the
placeholder.

A sound is asked for by the raw value of an action.  A list or a mapping cannot be looked up, and
what is not found has to be shown in the line that says so.
-/
import Diorama.Document.Reading
import Diorama.Proofs.Drawing
import Diorama.Proofs.Images

namespace Diorama

open Act

variable {α : Type} {F : Fault → Prop}

/-- The fault is one of the device's. -/
def Fault.IsDevice (e : Fault) : Prop := ∃ f, e = .device f

namespace Device

/-! ## 1. Images

A missing or broken file is no fault: it is reported, and the placeholder takes the place of its
image (`load_image`).  So what can go wrong in loading images is that the host refuses, or that an
id or a source is an integer with too many digits to be a text. -/

section Images

variable [Host α] (hhost : ∀ fault, Host.Refuses α fault → F fault)

include hhost

/-- A placeholder is a surface with a few squares on it; only the host can refuse it. -/
theorem faultsIn_placeholder :
    (placeholder placeholderSide : Act (Device α) Surface).FaultsIn F := by
  unfold placeholder
  refine faultsIn_bind faultsIn_get fun d => ?_
  split
  · exact faultsIn_pure _
  · refine faultsIn_bind (faultsIn_make hhost fun h => ?_) fun s => ?_
    · exact absurd h (by decide)
    · exact faultsIn_bind (faultsIn_forM _ fun _ _ => faultsIn_ask hhost _) fun _ =>
        faultsIn_bind (faultsIn_modify _) fun _ => faultsIn_pure _

/-- There always is an image, unless the host refuses.  What it refuses with is caught if it is a
fault of the device or of a file, and then it has to draw the placeholder. -/
theorem faultsIn_image (path : String) : (image path : Act (Device α) Surface).FaultsIn F := by
  have hload : (loadImage path : Act (Device α) Surface).FaultsIn
      fun e => e.IsDevice ∨ Host.Refuses α e := by
    unfold loadImage
    refine faultsIn_bind faultsIn_get fun d => ?_
    split
    · exact faultsIn_throw (.inl ⟨_, rfl⟩)
    · exact faultsIn_newSurface fun _ => .inr
    · exact faultsIn_throw (.inl ⟨_, rfl⟩)
  have hreport (line : String) : (do
      say line
      placeholder placeholderSide : Act (Device α) Surface).FaultsIn F :=
    faultsIn_bind (faultsIn_zoom (faultsIn_modify _)) fun _ => faultsIn_placeholder hhost
  refine faultsIn_tryCatch (G := fun e => e.IsDevice ∨ Host.Refuses α e)
    (faultsIn_bind hload fun s => ?_) fun e he => ?_
  · refine faultsIn_bind faultsIn_get fun d => faultsIn_ite ?_ (faultsIn_pure _)
    exact faultsIn_bind (faultsIn_ask (fun _ => .inr) _) fun _ => faultsIn_pure _
  · split
    · exact hreport _
    · exact hreport _
    · next hdevice _ =>
      rcases he with ⟨f, rfl⟩ | hrefused
      · exact (hdevice f rfl).elim
      · exact faultsIn_throw (hhost _ hrefused)

end Images

/-- A sound is read from a file, so it fails as a file does.  A file that is missing, a mixer that
is off and a sound that cannot be decoded are all answered with a line or in silence. -/
theorem faultsIn_loadSound (path : String) :
    (loadSound path : Act (Device α) Unit).FaultsIn Fault.IsDevice := by
  unfold loadSound
  refine faultsIn_bind faultsIn_get fun d => ?_
  split
  · exact faultsIn_modify _
  · exact faultsIn_throw ⟨_, rfl⟩

end Device

variable [Scalar α]

omit [Scalar α] in
/-- A text that was asked for is refused only where the value has none. -/
theorem faultsIn_told {σ : Type} {v : Value α} (h : v.writable = false → F .notANumber)
    (text : String) : (Act.ofExcept (v.told text) : Act σ String).FaultsIn F := by
  refine faultsIn_ofExcept fun e he => ?_
  obtain ⟨hlong, rfl⟩ := Value.told_eq_error.1 he
  exact h hlong

/-- Where one of two values is taken and cannot be written, that one cannot. -/
theorem Value.writable_of_orElse {v u : Value α} (h : (v.orElse u).writable = false) :
    v.writable = false ∨ u.writable = false := by
  unfold orElse at h
  split at h
  · exact .inl h
  · exact .inr h

/-- What the reader of documents lets through as an asset has a source or is reported, unless the
entry holds an integer that is too long to be written. -/
theorem faultsIn_readAsset {entry : Value α} (h : isAssetEntry entry = true)
    (hlong : entry.writable = false → F .notANumber) : (readAsset entry).FaultsIn F := by
  cases entry with
  | text path => exact faultsIn_pure _
  | map fields =>
    have hfield {key : String} (h : (Fields.get fields key).writable = false) : F .notANumber :=
      hlong (Value.not_writable_of_get h)
    have hsource : ((Fields.get fields "src").orElse (Fields.get fields "path")).writable = false →
        F .notANumber := fun h => (Value.writable_of_orElse h).elim hfield hfield
    refine faultsIn_ite (faultsIn_bind (faultsIn_told hlong _) fun _ =>
      faultsIn_bind (faultsIn_modify _) fun _ => faultsIn_pure _) ?_
    refine faultsIn_bind (faultsIn_told hsource _) fun path => faultsIn_bind (faultsIn_told ?_ _)
      fun _ => faultsIn_pure _
    intro h
    rcases Value.writable_of_orElse h with h | h
    · exact hfield h
    · rw [Value.writable_text] at h
      cases h
  | _ => cases h

namespace Depot

omit [Scalar α] in
theorem faultsIn_liftLog {β : Type} {x : Act Log β} (hx : x.FaultsIn F) :
    (liftM x : Act (Depot α) β).FaultsIn F := by
  intro d e t h
  have hfst : (x.run d.device.log).1 = .error e := congrArg (fun r => r.1) h
  exact hx d.device.log e _ (Prod.ext hfst rfl)

/-- By induction on the entries.  A missing image is reported, so what remains is an id or a
source that cannot be written, and the host. -/
theorem faultsIn_loadImages [Host α] (hhost : ∀ fault, Host.Refuses α fault → F fault)
    (folder : Option String) :
    ∀ {entries : List (Value α)}, (∀ entry ∈ entries, isAssetEntry entry = true) →
      (∀ entry ∈ entries, entry.writable = false → F .notANumber) →
      (loadImages folder entries).FaultsIn F
  | [], _, _ => faultsIn_pure _
  | entry :: rest, h, hlong => by
    have himage (id path : String) : (do
        let s ← onDevice (Device.image path)
        modify fun d => { d with images := d.images.put id s }
        return some id : Act (Depot α) (Option String)).FaultsIn F :=
      faultsIn_bind (faultsIn_zoom (Device.faultsIn_image hhost path)) fun _ =>
        faultsIn_bind (faultsIn_modify _) fun _ => faultsIn_pure _
    have hrest : (loadImages folder rest).FaultsIn F :=
      faultsIn_loadImages hhost folder (fun e he => h e (List.mem_cons_of_mem _ he))
        fun e he => hlong e (List.mem_cons_of_mem _ he)
    unfold loadImages loadImage
    refine faultsIn_bind (faultsIn_bind (faultsIn_liftLog (faultsIn_readAsset
      (h entry List.mem_cons_self) (hlong entry List.mem_cons_self))) fun r => ?_) fun _ =>
        faultsIn_bind hrest fun _ => faultsIn_pure _
    split
    · exact faultsIn_pure _
    · exact faultsIn_bind faultsIn_get fun d => faultsIn_ite
        (faultsIn_bind (faultsIn_say _) fun _ => himage _ _) (himage _ _)

/-! ## 2. Sounds

A sound that is missing or cannot be decoded is reported and left out
(`AudioManager.load`).  Beyond that its volume has to be a number. -/

/-- A volume fails only as a number does: the bounds are finite. -/
theorem volumeOf_eq_error {v : Value α} {e : Fault} (h : volumeOf v = .error e) :
    v.toScalar = .error e := by
  unfold volumeOf at h
  cases hv : v.toScalar with
  | ok x =>
    rw [hv] at h
    cases h
  | error e' =>
    rw [hv] at h
    cases h
    rfl

/-- Only a volume that is given and is no number stops the loading of a sound. -/
theorem faultsIn_loadSound (id path : String) {volume : Value α}
    (h : ∀ e, volume.isNull = false → volume.toScalar = .error e → F e) :
    (loadSound id path volume).FaultsIn F := by
  have hregister : (do registerSound id path; return true : Act (Depot α) Bool).FaultsIn F :=
    faultsIn_bind (faultsIn_modify _) fun _ => faultsIn_pure _
  have hready : (mixerReady : Act (Depot α) Bool).FaultsIn F := faultsIn_mixerReady.mono nofun
  unfold loadSound
  refine faultsIn_bind faultsIn_get fun d => faultsIn_ite
    (faultsIn_bind (faultsIn_say _) fun _ => faultsIn_pure _) ?_
  refine faultsIn_bind hready fun _ => faultsIn_ite (faultsIn_pure _) ?_
  refine faultsIn_bind (faultsIn_tryCatch (G := Fault.IsDevice) ?_ ?_) fun _ =>
    faultsIn_ite (faultsIn_pure _) ?_
  · exact faultsIn_bind (faultsIn_zoom (Device.faultsIn_loadSound path)) fun _ => faultsIn_pure _
  · rintro e ⟨f, rfl⟩
    exact faultsIn_bind (faultsIn_say _) fun _ => faultsIn_pure _
  · split
    · next hnull =>
      refine faultsIn_bind (faultsIn_ofExcept fun e he => ?_) fun v =>
        faultsIn_bind (faultsIn_zoom (faultsIn_modify _)) fun _ => hregister
      exact h e (by simpa using hnull) (volumeOf_eq_error he)
    · exact hregister

/-- A missing sound is reported too, and so is one that cannot be read; the volume of an entry is
what remains (`float(volume)`). -/
theorem faultsIn_loadSounds (folder : Option String) {entries : List (Value α)}
    (hentries : ∀ entry ∈ entries, isAssetEntry entry = true)
    (hlong : ∀ entry ∈ entries, entry.writable = false → F .notANumber)
    (h : ∀ entry ∈ entries, ∀ e, (assetVolume entry).isNull = false →
      (assetVolume entry).toScalar = .error e → F e) :
    (loadSounds folder entries).FaultsIn F := by
  have hentry (entry : Value α) (hmem : entry ∈ entries) :
      (loadSoundEntry folder entry).FaultsIn F := by
    unfold loadSoundEntry
    refine faultsIn_bind (faultsIn_liftLog (faultsIn_readAsset (hentries entry hmem)
      (hlong entry hmem))) fun r => ?_
    split
    · exact faultsIn_pure _
    · exact faultsIn_bind (faultsIn_loadSound _ _ (h entry hmem)) fun _ => faultsIn_pure _
  have hall : ∀ es : List (Value α), (∀ e ∈ es, e ∈ entries) →
      (loadSoundEntries folder es).FaultsIn F := by
    intro es hes
    induction es with
    | nil => exact faultsIn_pure _
    | cons e es ih =>
      unfold loadSoundEntries
      exact faultsIn_bind (hentry e (hes e List.mem_cons_self)) fun _ =>
        faultsIn_bind (ih fun k hk => hes k (List.mem_cons_of_mem _ hk)) fun _ => faultsIn_pure _
  unfold loadSounds
  exact faultsIn_bind faultsIn_get fun _ => faultsIn_ite (hall entries fun _ h => h)
    (faultsIn_pure _)

/-- Only a value that cannot be looked up, or that is not found and cannot be shown, stops a sound
from being asked for. -/
theorem faultsIn_playSound {key : Value α} (h : ∀ e, key.nameKey = .error e → F e)
    (hlong : key.writable = false → F .notANumber) : (playSound key .null).FaultsIn F := by
  have hreport : (reportSound key).FaultsIn F :=
    faultsIn_bind faultsIn_get fun _ => faultsIn_ite (faultsIn_bind (faultsIn_told hlong _) fun _ =>
      faultsIn_bind (faultsIn_say _) fun _ => faultsIn_modify _) (faultsIn_pure _)
  have hfind : (Device.findChannel : Act (Device α) Bool).FaultsIn F :=
    faultsIn_bind (faultsIn_modify _) fun _ => faultsIn_bind faultsIn_get fun _ =>
      faultsIn_pure _
  unfold playSound
  refine faultsIn_bind faultsIn_get fun _ => faultsIn_ite (faultsIn_pure _) ?_
  refine faultsIn_bind (faultsIn_mixerReady.mono nofun) fun _ => faultsIn_ite (faultsIn_pure _) ?_
  refine faultsIn_bind (faultsIn_ofExcept h) fun id => faultsIn_bind faultsIn_get fun d => ?_
  dsimp only
  split
  · exact faultsIn_bind hreport fun _ => faultsIn_pure _
  · refine faultsIn_bind (faultsIn_zoom hfind) fun _ => faultsIn_ite (faultsIn_pure _) ?_
    rw [if_pos (by rfl)]
    exact faultsIn_bind (faultsIn_pure _) fun v =>
      faultsIn_bind (faultsIn_zoom (faultsIn_modify _)) fun _ =>
        faultsIn_bind (faultsIn_zoom (faultsIn_modify _)) fun _ => faultsIn_pure _

end Depot

end Diorama
