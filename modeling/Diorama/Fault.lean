/-
# What can go wrong

A fault says why an operation stopped.  Mistakes in a scene's data are normally answered by a
line in the log and a default, so a fault is what remains: a document with nothing to run in
it, a number that has no place where it is needed, a file that cannot be read, a device that
refuses, or a part of the program that is not there.
-/
import Diorama.Text.Quoted

namespace Diorama

/-- Why a scene document cannot be used (`SceneConfigError`). -/
inductive DocumentFault where
  | notMapping
  | statesNotList
  | stateNotMapping (index : Int)
  | stateUnnamed (index : Int)
  /-- The text at `path` is not in the format its name promises; the reason may be known. -/
  | unreadable (path : String) (reason : Option String)
  deriving Repr, DecidableEq

def DocumentFault.message : DocumentFault → String
  | .notMapping => "scene document must be a mapping"
  | .statesNotList => "'states' must be a list"
  | .stateNotMapping index => "state #" ++ toString index ++ " is not a mapping"
  | .stateUnnamed index => "state #" ++ toString index ++ " has no name"
  | .unreadable path none => "could not parse " ++ path
  | .unreadable path (some reason) => "could not parse " ++ path ++ ": " ++ reason

/-- Why a file cannot be opened. -/
inductive FileFault where
  | missing (path : String)
  | isFolder (path : String)
  | notFolder (path : String)
  deriving Repr, DecidableEq

def FileFault.message : FileFault → String
  | .missing path => "[Errno 2] No such file or directory: " ++ Text.quoted path
  | .isFolder path => "[Errno 21] Is a directory: " ++ Text.quoted path
  | .notFolder path => "[Errno 20] Not a directory: " ++ Text.quoted path

/-- Why a device refuses. -/
inductive DeviceFault where
  | noSuchImage
  | badImage
  | noAudioDevice
  | badAudio
  | badSurfaceSize
  | noDisplayMode
  deriving Repr, DecidableEq

def DeviceFault.message : DeviceFault → String
  | .noSuchImage => "no such image"
  | .badImage => "bad image"
  | .noAudioDevice => "no audio device"
  | .badAudio => "bad audio"
  | .badSurfaceSize => "Invalid resolution for Surface"
  | .noDisplayMode => "no display mode"

/-- Why an operation stopped. -/
inductive Fault where
  /-- A number is too large for what it is turned into. -/
  | tooLarge
  /-- No number can be read from a text, a value that is not a number has no whole part, or a
  whole number has too many digits to become a text. -/
  | notANumber
  /-- A value is of a kind that the operation does not take. -/
  | wrongKind
  /-- Something that the operation uses is not there. -/
  | absent
  /-- Bytes that are no text. -/
  | notText
  /-- A path that no file can have. -/
  | badPath
  | document (fault : DocumentFault)
  | file (fault : FileFault)
  | device (fault : DeviceFault)
  deriving Repr, DecidableEq

/-- The wording of a fault, for those that have one. -/
def Fault.message? : Fault → Option String
  | .document f => some f.message
  | .file f => some f.message
  | .device f => some f.message
  | _ => none

end Diorama
