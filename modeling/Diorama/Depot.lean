/-
# The depot

The depot holds what scenes draw from: the device, the sounds, and the images by their ids.

The sound hardware is started when a sound is first needed, once.  If it does not come up, that
is reported at most once and nothing is ever played.  A sound that is not loaded is reported
once, until it is loaded.

An asset entry is a path, or a mapping with a source and perhaps an id.  A source is relative to
the folder of the document, or to the asset folder if the document has none.  An image that is
missing is replaced by a placeholder and still has its id; a sound that is missing is left out.
-/
import Diorama.Device.Textures
import Diorama.Document.Scene

namespace Diorama

/-! ## 1. What there is -/

/-- The sounds that can be played (`AudioManager`). -/
structure Sounds (α : Type) where
  muted : Bool := false
  /-- Whether the sound hardware came up; nothing before the first attempt. -/
  ready : Option Bool := none
  /-- The files of the loaded sounds, by their ids. -/
  effects : Table String := []
  /-- What was asked for without being loaded, and reported. -/
  warned : List (Value α) := []

/-- The device, the sounds and the images (`AssetLoader`). -/
structure Depot (α : Type) where
  device : Device α
  sounds : Sounds α := {}
  /-- A depot without sounds loads none. -/
  takesSounds : Bool := true
  images : Table Surface := []

namespace Depot

variable {α : Type}

/-- Runs an act on the device. -/
def onDevice {β : Type} (x : Act (Device α) β) : Act (Depot α) β :=
  Act.zoom Depot.device (fun device d => { d with device }) x

instance : MonadLift (Act Log) (Act (Depot α)) where
  monadLift x := onDevice (liftM x)

/-- Changes the sounds. -/
def modifySounds (f : Sounds α → Sounds α) : Act (Depot α) Unit :=
  modify fun d => { d with sounds := f d.sounds }

end Depot

variable {α : Type} [Scalar α] [Host α]

namespace Depot

/-- The nearest volume between silence and full (`_clamp_volume`). -/
def volumeOf (v : Value α) : Except Fault α := do
  return Scalar.max 0.0 (Scalar.min 1.0 (← v.toScalar))

/-! ## 2. The sound hardware -/

/-- Starts the sound hardware unless it runs, and tells whether it runs then
(`AudioManager._mixer_ready`). -/
def tryMixer : Act (Depot α) Bool :=
  tryCatch
    (do
      if !(← get).device.mixerOn then onDevice Device.startMixer
      return (← get).device.mixerOn)
    fun fault =>
      match fault with
      | .device f => do
        say ("[AudioManager] Mixer unavailable, sound disabled: " ++ f.message)
        return false
      | fault => throw fault

/-- Whether sounds can be played (`AudioManager._mixer_ready`).  Only the first call tries to start
the hardware; that it came up then does not mean that it still runs. -/
def mixerReady : Act (Depot α) Bool := do
  let came ← match (← get).sounds.ready with
    | some came => pure came
    | none => do
      let came ← tryMixer
      modifySounds fun s => { s with ready := some came }
      pure came
  return came && (← get).device.mixerOn

/-! ## 3. The registry of sounds -/

/-- Registers a sound. -/
def registerSound (id path : String) : Act (Depot α) Unit :=
  modifySounds fun s =>
    { s with
      effects := s.effects.put id path
      warned := s.warned.filter fun v => !v.sameKey (.text id) }

/-- Loads the sound in a file under an id; false if there is none to load (`AudioManager.load`). -/
def loadSound (id path : String) (volume : Value α) : Act (Depot α) Bool := do
  if !(← get).device.files.exists? path then
    say ("[AudioManager] Skipping missing sound '" ++ id ++ "': " ++ path)
    return false
  if !(← mixerReady) then return false
  let decoded ← tryCatch (do onDevice (Device.loadSound path); return true) fun fault =>
    match fault with
    | .device f => do
      say ("[AudioManager] Could not decode '" ++ id ++ "' (" ++ path ++ "): " ++ f.message)
      return false
    | fault => throw fault
  if !decoded then return false
  if !volume.isNull then
    onDevice (Device.call (.soundVolume path (← Act.ofExcept (volumeOf volume))))
  registerSound id path
  return true

/-- Stops a sound that is loaded (`AudioManager.stop`). -/
def stopSound (id : String) : Act (Depot α) Unit := do
  match (← get).sounds.effects.lookup id with
  | some path => if ← mixerReady then onDevice (Device.call (.stopSound path))
  | none => pure ()

/-- Forgets a sound, and stops it (`AudioManager.unload`). -/
def unloadSound (id : String) : Act (Depot α) Unit := do
  match (← get).sounds.effects.lookup id with
  | some path =>
    modifySounds fun s => { s with effects := s.effects.erase id }
    if ← mixerReady then onDevice (Device.call (.stopSound path))
  | none => pure ()

/-- Forgets all sounds (`AudioManager.clear`). -/
def clearSounds : Act (Depot α) Unit := do
  (← get).sounds.effects.names.forM unloadSound

/-! ## 4. Playing -/

/-- Reports a sound that is not loaded, if it was not reported before (`AudioManager.play_sfx`). -/
def reportSound (key : Value α) : Act (Depot α) Unit := do
  if !(← get).sounds.warned.any (key.sameKey ·) then
    say ("[AudioManager] Warning: sound '" ++ (← Act.ofExcept key.written) ++ "' not loaded")
    modifySounds fun s => { s with warned := key :: s.warned }

/-- Plays a sound once; false if it is not played (`AudioManager.play_sfx`). -/
def playSound (key volume : Value α) : Act (Depot α) Bool := do
  if (← get).sounds.muted then return false
  if !(← mixerReady) then return false
  let id ← Act.ofExcept key.nameKey
  let effects := (← get).sounds.effects
  match id.bind fun id => effects.lookup id with
  | none =>
    reportSound key
    return false
  | some path =>
    if !(← onDevice Device.findChannel) then return false
    let volume ← if volume.isNull then pure 1.0 else Act.ofExcept (volumeOf volume)
    onDevice (Device.call (.channelVolume volume))
    onDevice (Device.call (.playSound path))
    return true

end Depot

/-! ## 5. Loading the assets of a scene -/

/-- The folder of assets for documents that are in no folder (`ASSETS_PATH`). -/
def assetFolder : String := "./assets/"

/-- The path of a source in the folder of a document (`resolve_asset_path`). -/
def assetPath (source : String) (folder : Option String) : String :=
  if Path.isAbsolute source then source else Path.join (folder.getD assetFolder) source

/-- The id and the source of an entry (`_entry_id_and_src`).  A mapping without a source has
neither. -/
def readAsset : Value α → Act Log (Option (String × String))
  | .text path => pure (some (Path.stem path, path))
  | .map fields => do
    let source := (Fields.get fields "src").orElse (Fields.get fields "path")
    if !source.truthy then
      say ("[AssetLoader] Warning: asset entry without src: " ++
        (← Act.ofExcept (Value.map fields).shown))
      return none
    let path ← Act.ofExcept source.written
    let id ← Act.ofExcept ((Fields.get fields "id").orElse (.text (Path.stem path))).written
    return some (id, path)
  | _ => throw .absent

/-- The volume that an entry gives (`AssetLoader.load_audio_files`). -/
def assetVolume : Value α → Value α
  | .map fields => Fields.get fields "volume"
  | _ => .null

namespace Depot

/-- Loads one image; the result is the id it was registered under (`AssetLoader.load_images`). -/
def loadImage (folder : Option String) (entry : Value α) : Act (Depot α) (Option String) := do
  match ← readAsset entry with
  | none => return none
  | some (id, source) =>
    let path := assetPath source folder
    if !(← get).device.files.exists? path then
      say ("[AssetLoader] Missing image '" ++ id ++ "': " ++ path)
    let s ← onDevice (Device.image path)
    modify fun d => { d with images := d.images.put id s }
    return some id

/-- Loads images; the result lists the ids they were registered under (`AssetLoader.load_images`).
-/
def loadImages (folder : Option String) : List (Value α) → Act (Depot α) (List String)
  | [] => pure []
  | entry :: rest => do
    let id ← loadImage folder entry
    let ids ← loadImages folder rest
    return id.toList ++ ids

/-- Loads one sound; the result is its id if it was loaded (`AssetLoader.load_audio_files`). -/
def loadSoundEntry (folder : Option String) (entry : Value α) :
    Act (Depot α) (Option String) := do
  match ← readAsset entry with
  | none => return none
  | some (id, source) =>
    let loaded ← loadSound id (assetPath source folder) (assetVolume entry)
    return if loaded then some id else none

/-- Loads the sounds of a list; the result lists the ids of those that were loaded
(`AssetLoader.load_audio_files`). -/
def loadSoundEntries (folder : Option String) : List (Value α) → Act (Depot α) (List String)
  | [] => pure []
  | entry :: rest => do
    let id ← loadSoundEntry folder entry
    let ids ← loadSoundEntries folder rest
    return id.toList ++ ids

/-- Loads sounds, if the depot takes any (`AssetLoader.load_audio_files`). -/
def loadSounds (folder : Option String) (entries : List (Value α)) :
    Act (Depot α) (List String) := do
  if (← get).takesSounds then loadSoundEntries folder entries else return []

/-- Forgets the image and the sound of an id (`AssetLoader.unload_assets`). -/
def unloadAsset (id : String) : Act (Depot α) Unit := do
  modify fun d => { d with images := d.images.erase id }
  if (← get).takesSounds then unloadSound id

/-- Forgets the images and sounds of ids (`AssetLoader.unload_assets`). -/
def unloadAssets (ids : List String) : Act (Depot α) Unit := ids.forM unloadAsset

/-- Forgets all images (`AssetLoader.clear`). -/
def clearImages : Act (Depot α) Unit := modify fun d => { d with images := [] }

/-- The image of an id (`AssetLoader.get_image`). -/
def image? (d : Depot α) (id : String) : Option Surface := d.images.lookup id

end Depot

end Diorama
