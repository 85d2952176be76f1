/-
# The files a program sees

The files are one tree, given by the paths of its leaves from the root on.  A folder exists when
it is given or when something below it is, and so does the working folder, which every path that
is not absolute starts from.  `Files.find` walks a path as an operating system does: every part
but the last must be a folder, also before `..`, and a path that ends in a slash must be a folder.
-/
import Diorama.Fault
import Diorama.Path

namespace Diorama

/-- What a path leads to.  Of an image the size and depth are known as well, and of a sound that
it is one. -/
inductive Node where
  | folder
  | data (bytes : ByteArray)
  | image (width height depth : Nat) (bytes : ByteArray := ByteArray.empty)
  | audio (bytes : ByteArray := ByteArray.empty)

/-- Files and folders by the parts of their paths from the root. -/
structure Files where
  leaves : List (List String × Node) := []
  /-- The parts of the working folder. -/
  here : List String := ["home", "diorama"]

namespace Files

/-- The parts from the root that a path has when `.` and `..` are resolved in its text. -/
def resolve (fs : Files) (path : String) : List String :=
  Path.parts (Path.normal (Path.join ("/" ++ "/".intercalate fs.here) path))

/-- Adds a leaf. -/
def add (fs : Files) (path : String) (node : Node) : Files :=
  { fs with leaves := fs.leaves ++ [(fs.resolve path, node)] }

/-- What stands at a sequence of parts. -/
def at? (fs : Files) (ps : List String) : Option Node :=
  match fs.leaves.find? fun leaf => leaf.1 == ps with
  | some leaf => some leaf.2
  | none =>
    if ps.isPrefixOf fs.here || fs.leaves.any (fun leaf => ps.isPrefixOf leaf.1) then some .folder
    else none

def isFolder : Node → Bool
  | .folder => true
  | _ => false

/-- Follows the parts from a folder, whose own parts are in reverse.  The root is above itself. -/
def walk (fs : Files) (path : String) : List String → List String → Except FileFault Node
  | folder, [] =>
    match fs.at? folder.reverse with
    | some node => .ok node
    | none => .error (.missing path)
  | folder, p :: rest =>
    match fs.at? folder.reverse with
    | none => .error (.missing path)
    | some node =>
      if !isFolder node then .error (.notFolder path)
      else walk fs path (if p == ".." then folder.tail else p :: folder) rest

/-- What a path leads to. -/
def find (fs : Files) (path : String) : Except Fault Node :=
  if path.toList.contains '\x00' then .error .badPath
  else if path == "" then .error (.file (.missing path))
  else
    let start := if Path.isAbsolute path then [] else fs.here.reverse
    match walk fs path start (Path.parts path) with
    | .error e => .error (.file e)
    | .ok node =>
      let last := (Path.pieces path).getLast?.getD ""
      if (last == "" || last == ".") && !isFolder node then .error (.file (.notFolder path))
      else .ok node

/-- Whether a path leads anywhere. -/
def exists? (fs : Files) (path : String) : Bool := (fs.find path).toBool

/-- The bytes of a file. -/
def read (fs : Files) (path : String) : Except Fault ByteArray :=
  match fs.find path with
  | .error e => .error e
  | .ok .folder => .error (.file (.isFolder path))
  | .ok (.data bytes) | .ok (.image _ _ _ bytes) | .ok (.audio bytes) => .ok bytes

/-- The leaf given for a path, by its normal form. -/
def leaf? (fs : Files) (path : String) : Option Node :=
  (fs.leaves.find? fun leaf => leaf.1 == fs.resolve path).map (·.2)

end Files

end Diorama
