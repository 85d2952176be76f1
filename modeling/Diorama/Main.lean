/-
# The program

Reads the command line and the scene document it names, shows the scene on a device without a
screen, and prints what it logs.
-/
import Diorama.Launch

namespace Diorama.Program

/-- The files at some paths, as far as they can be read. -/
def readFiles : List String → IO Files
  | [] => pure {}
  | path :: rest => do
    let files ← readFiles rest
    try
      return files.add path (.data (← IO.FS.readBinFile path))
    catch _ => return files

/-- A device with some files on which nothing was done yet. -/
def newDevice (files : Files) : Device Float :=
  { files, frameRate := 60.0, chances := fun n => if n % 2 == 0 then 0.75 else 0.25 }

/-- Runs the program as the options ask. -/
def runWith (o : CommandLine.Options) : IO UInt32 := do
  let paths := match o.scene with
    | some path => [path, Path.join sceneFolder path]
    | none => []
  let (outcome, device) := runProgram o [] (newDevice (← readFiles paths))
  device.log.forM fun line => IO.println line
  match outcome with
  | .ok _ => return 0
  | .error fault =>
    IO.eprintln (fault.message?.getD "stopped")
    return 1

/-- Does what a command line asks for; the result is the exit code (`main`). -/
def run (args : List String) : IO UInt32 := do
  match CommandLine.parse args with
  | .ok (.run o) => runWith o
  | .ok .help =>
    IO.println CommandLine.usage
    return 0
  | .error e =>
    IO.eprintln CommandLine.usage
    IO.eprintln e.report
    return 2

end Diorama.Program

def main (args : List String) : IO UInt32 := Diorama.Program.run args
