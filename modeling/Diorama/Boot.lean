/-
# The boot document

The scene that is shown when there is no other: a title that fades in, a hint, and a button that
opens the game.  It is a document like any other, laid out for a canvas of a given size.
-/
import Diorama.Value

namespace Diorama

/-- The names under which the built-in scenes are registered (`BOOT_SCENE_NAME`). -/
def bootName : String := "Boot"

def pongName : String := "Pong"

variable {α : Type} [Scalar α]

namespace Boot

/-- A mapping with texts as keys. -/
def record (fields : List (String × Value α)) : Value α :=
  .map (fields.map fun (k, v) => (.text k, v))

/-- A rectangle that fills the canvas. -/
def backdrop (width height : Int) : Value α := record [
  ("type", .text "shape"), ("shape", .text "rect"), ("width", .int width),
  ("height", .int height), ("color", .text "#0f172a")]

/-- A rectangle over the lower half. -/
def horizon (width height : Int) : Value α :=
  let half : α := Scalar.ofInt height / 2.0
  record [
    ("type", .text "shape"), ("shape", .text "rect"), ("y", .num half), ("width", .int width),
    ("height", .num half), ("color", .text "#1e3a5f"), ("alpha", .num 0.35)]

def title (cx cy : α) : Value α := record [
  ("id", .text "title"), ("type", .text "text"), ("content", .text "Ready"),
  ("x", .num cx), ("y", .num (cy - 160.0)), ("font", .text "bold 96px Arial"),
  ("color", .text "#94a3b8"), ("textAlign", .text "center"),
  ("animation", record [
    ("type", .text "fadeIn"), ("duration", .num 0.8), ("easing", .text "easeOut")])]

def hint (cx cy : α) : Value α := record [
  ("id", .text "hint"), ("type", .text "text"),
  ("content", .text "Pass --scene <file.json> to load a scene"),
  ("x", .num cx), ("y", .num (cy - 20.0)), ("font", .text "36px Arial"),
  ("color", .text "#64748b"), ("textAlign", .text "center"),
  ("animation", record [
    ("type", .text "fadeIn"), ("duration", .num 0.8), ("delay", .num 0.4)])]

def playButton (cx cy : α) : Value α := record [
  ("id", .text "play-demo"), ("type", .text "button"), ("text", .text "Play demo"),
  ("x", .num (cx - 160.0)), ("y", .num (cy + 120.0)), ("width", .int 320), ("height", .int 96),
  ("onClick", record [("action", .text "switchScene"), ("target", .text pongName)]),
  ("animation", record [
    ("type", .text "scale"), ("duration", .num 0.5), ("delay", .num 0.6),
    ("easing", .text "easeInOut")])]

/-- The boot document for a canvas (`boot_document`). -/
def document (width height : Int) : Value α :=
  let cx : α := Scalar.ofInt width / 2.0
  let cy : α := Scalar.ofInt height / 2.0
  record [
    ("sceneName", .text bootName),
    ("canvasSize", record [("width", .int width), ("height", .int height)]),
    ("states", .list [record [
      ("name", .text "ready"),
      ("clearLayers", .bool true),
      ("layers", record [
        ("BG_FAR", .list [backdrop width height]),
        ("BG_NEAR", .list [horizon width height]),
        ("TEXT", .list [title cx cy, hint cx cy]),
        ("UI_BUTTONS", .list [playButton cx cy])])]])]

end Boot

end Diorama
