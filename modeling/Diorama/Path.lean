/-
# Paths

A path is a text whose parts are separated by slashes.  Joining and splitting work on the text
alone; `Path.normal` resolves `.` and `..` in it, and `Path.tidy` only removes what cannot
matter: empty parts and `.`.
-/
namespace Diorama.Path

/-- Splits at every slash. -/
def splitSlashes : List Char → List (List Char)
  | [] => [[]]
  | c :: rest =>
    if c == '/' then [] :: splitSlashes rest
    else match splitSlashes rest with
      | part :: parts => (c :: part) :: parts
      | [] => [[c]]

/-- The texts between the slashes. -/
def pieces (path : String) : List String := (splitSlashes path.toList).map String.ofList

/-- The parts that name something: neither empty nor `.`. -/
def parts (path : String) : List String := (pieces path).filter fun p => p != "" && p != "."

def isAbsolute (path : String) : Bool := path.toList.head? == some '/'

/-- What an absolute path starts with: one slash, or exactly two. -/
def root (path : String) : String :=
  match path.toList with
  | '/' :: '/' :: '/' :: _ => "/"
  | '/' :: '/' :: _ => "//"
  | '/' :: _ => "/"
  | _ => ""

/-- `path` inside `folder`; an absolute path stands for itself. -/
def join (folder path : String) : String :=
  if isAbsolute path then path
  else if folder == "" || folder.toList.getLast? == some '/' then folder ++ path
  else folder ++ "/" ++ path

/-- The text after the last slash. -/
def baseName (path : String) : String := (pieces path).getLast?.getD ""

/-- Where the extension of a file name starts: at its last point, unless only points stand
before it. -/
def extensionAt? (name : List Char) : Option Nat :=
  let fromEnd := (name.reverse.takeWhile (· != '.')).length
  if fromEnd == name.length then none
  else
    let at_ := name.length - fromEnd - 1
    if (name.take at_).all (· == '.') then none else some at_

/-- The file name without its extension. -/
def stem (path : String) : String :=
  let name := (baseName path).toList
  match extensionAt? name with
  | some n => String.ofList (name.take n)
  | none => String.ofList name

/-- Removes empty parts and `.`; nothing at all is `.`. -/
def tidy (path : String) : String :=
  let s := root path ++ "/".intercalate (parts path)
  if s == "" then "." else s

/-- The folder that holds the file. -/
def parent (path : String) : String := tidy (root path ++ "/".intercalate (parts path).dropLast)

/-- The extension with its point; a name that starts or ends at its last point has none. -/
def extension (path : String) : String :=
  let name := ((parts path).getLast?.getD "").toList
  let fromEnd := (name.reverse.takeWhile (· != '.')).length
  if fromEnd == 0 || name.length ≤ fromEnd + 1 then ""
  else String.ofList (name.drop (name.length - fromEnd - 1))

/-- Adds one part to the parts before it, kept in reverse: `..` undoes a part that has a
name. -/
def push (absolute : Bool) (before : List String) (part : String) : List String :=
  if part == ".." then
    match before with
    | [] => if absolute then [] else [".."]
    | p :: rest => if p == ".." then ".." :: before else rest
  else part :: before

/-- The path with `.` and `..` resolved in its text. -/
def normal (path : String) : String :=
  let ps := ((parts path).foldl (push (isAbsolute path)) []).reverse
  let s := root path ++ "/".intercalate ps
  if s == "" then "." else s

end Diorama.Path
