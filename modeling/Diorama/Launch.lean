/-
# Starting the program

The program registers its two built-in scenes and shows what the command line asks for.  A scene
document that cannot be read is reported, and the boot scene is shown instead, so that there is
always something to see.
-/
import Diorama.Boot
import Diorama.CommandLine
import Diorama.Document.Loading
import Diorama.World.Frames
import Diorama.World.Screen

namespace Diorama

variable {α : Type} [Scalar α] [Host α]

/-- The folder in which scene documents are looked up by their bare names (`SCENES_PATH`). -/
def sceneFolder : String := assetFolder ++ "scenes/"

/-- The path of a scene document: the path itself if there is something, else the same in the scene
folder if there is something (`find_scene_document`). -/
def findDocument (files : Files) (path : String) : String :=
  if files.exists? path || Path.isAbsolute path then path
  else
    let bundled := Path.join sceneFolder path
    if files.exists? bundled then bundled else path

namespace Scene

/-- The boot scene (`BootScene`). -/
def boot : Act Log (Scene α) := do
  let spec ← readScene none (Boot.document standardCanvas.1 standardCanvas.2)
  return (scripted bootName false).adopt spec

/-- The built-in game, on the standard canvas (`main`). -/
def builtInPong : Scene α :=
  pong pongName
    (.centred (Scalar.ofInt standardCanvas.1) (Scalar.ofInt standardCanvas.2) 600.0 400.0 300.0)
    (.text bootName)

end Scene

namespace World

/-- Reads a scene document; a file that cannot be opened or is no scene document is reported
(`load_document_scene`). -/
def readDocument (path : String) (decoder : Decoder α := .standard) :
    Act (World α) (Option (SceneSpec α)) := do
  let files := (← get).depot.device.files
  tryCatch (do return some (← loadScene files (findDocument files path) decoder)) fun fault => do
    let report (message : String) : Act (World α) (Option (SceneSpec α)) := do
      say ("Failed to load scene " ++ path ++ ": " ++ message)
      return none
    match fault with
    | .document f => report f.message
    | .file f => report f.message
    | fault => throw fault

/-- Shows the scene of a document and registers it under the document's name; the result is its
number, or none if the document cannot be read (`load_document_scene`). -/
def showDocument (path : String) (decoder : Decoder α := .standard) :
    Act (World α) (Option Nat) := do
  match ← readDocument path decoder with
  | none => return none
  | some spec =>
    let n ← addScene ((Scene.scripted "ConfigurableScene" false).adopt spec)
    register spec.name n
    switchTo (.text spec.name)
    say ("Scene '" ++ spec.name ++ "' loaded: " ++ " -> ".intercalate spec.stateNames)
    return some n

/-- Registers the boot scene and the game (`main`). -/
def addBuiltIns : Act (World α) Unit := do
  let boot ← addScene (← Scene.boot)
  register bootName boot
  let pong ← addScene Scene.builtInPong
  register pongName pong

/-- Shows the document that is asked for, if one is; the result is whether it is shown (`main`). -/
def showRequested (scene : Option String) : Act (World α) Bool := do
  match scene with
  | some path => if path == "" then return false else return (← showDocument path).isSome
  | none => return false

/-- Shows what the command line asks for, or else the boot scene (`main`). -/
def launch (o : CommandLine.Options) : Act (World α) Unit := do
  addBuiltIns
  if o.demo.isSome then switchTo (.text pongName)
  else if !(← showRequested o.scene) then switchTo (.text bootName)

end World

/-- Runs the program on a device for some frames: what is left behind, unless no window could be
opened (`main`). -/
def runProgram (o : CommandLine.Options) (frames : List (World.Frame α)) (device : Device α) :
    Except Fault (World α) × Device α :=
  match World.opened standardCanvas.1 standardCanvas.2 standardWindowScale o.debug device with
  | (.error fault, device) => (.error fault, device)
  | (.ok world, _) =>
    let act : Act (World α) Unit := do
      World.launch o
      let _ ← World.run frames none
    match act.run world with
    | (.ok _, world) => (.ok world, world.depot.device)
    | (.error fault, world) => (.error fault, world.depot.device)

end Diorama
