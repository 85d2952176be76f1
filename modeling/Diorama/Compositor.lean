/-
# The layers of the canvas and what they hold

There are seven layers, drawn from the far background to the buttons.  A layer is named by its
member or by its word; no other value names one.

The compositor holds, for every layer, the things that are drawn in it, in the order in which
they were added.  A thing is in a layer at most once; adding it again changes nothing, and it
may be in several layers.  Things are compared by what they are, never by what they look like.

`Compositor.apply` runs one edit.  An edit that names no layer changes nothing.
-/
import Diorama.Vocabulary

namespace Diorama

/-! ## 1. The layers -/

/-- A layer of the canvas, from bottom to top (`Layer`). -/
inductive Layer where
  | farBackground | nearBackground | pictures | shapes | sprites | texts | buttons
  deriving Repr, DecidableEq

instance : Vocabulary Layer where
  members := [.farBackground, .nearBackground, .pictures, .shapes, .sprites, .texts, .buttons]
  word
    | .farBackground => "BG_FAR"
    | .nearBackground => "BG_NEAR"
    | .pictures => "VIDEO_IMAGE"
    | .shapes => "SHAPES"
    | .sprites => "SPRITES"
    | .texts => "TEXT"
    | .buttons => "UI_BUTTONS"

namespace Layer

/-- The place of the layer in drawing order. -/
def index : Layer → Fin 7
  | .farBackground => 0
  | .nearBackground => 1
  | .pictures => 2
  | .shapes => 3
  | .sprites => 4
  | .texts => 5
  | .buttons => 6

/-- The layers in drawing order. -/
def all : List Layer := Vocabulary.members

def word (l : Layer) : String := Vocabulary.word l

theorem index_injective {l m : Layer} (h : l.index = m.index) : l = m := by
  cases l <;> cases m <;> first | rfl | exact absurd h (by decide)

/-- The layer that a choice names (`Layer.from_name`). -/
def ofChoice? {α : Type} : Choice α Layer → Option Layer
  | .member l => some l
  | .value v => Vocabulary.ofValue? v

end Layer

/-- The things in each layer (`LayerManager`). -/
structure Compositor (ι : Type) where
  table : Vector (List ι) 7 := Vector.replicate 7 []

/-- A change to a compositor, with its layer as it was named. -/
inductive Edit (α ι : Type) where
  | add (i : ι) (layer : Choice α Layer)
  | remove (i : ι) (layer : Choice α Layer)
  | clear (layer : Choice α Layer)
  | clearAll

namespace Compositor

variable {α ι : Type}

/-! ## 2. Contents -/

/-- The things in a layer, in the order in which they were added (`LayerManager.get_layer`). -/
def items (c : Compositor ι) (l : Layer) : List ι := c.table[l.index]

/-- Replaces the things in a layer. -/
def setItems (c : Compositor ι) (l : Layer) (is : List ι) : Compositor ι :=
  ⟨c.table.set l.index is⟩

/-- How many things a layer holds (`LayerManager.layer_counts`). -/
def count (c : Compositor ι) (l : Layer) : Nat := (c.items l).length

/-- How many things there are in all layers together (`LayerManager`). -/
def size (c : Compositor ι) : Nat := Layer.all.foldl (fun n l => n + c.count l) 0

/-- Everything, in drawing order (`LayerManager.render`). -/
def drawOrder (c : Compositor ι) : List ι := Layer.all.flatMap c.items

theorem items_setItems (c : Compositor ι) (l m : Layer) (is : List ι) :
    (c.setItems l is).items m = if l = m then is else c.items m := by
  unfold setItems items
  by_cases h : l = m
  · subst h; simp
  · have h' : (l.index : Nat) ≠ m.index := fun e => h (Layer.index_injective (Fin.ext e))
    simp [h, Vector.getElem_set_ne _ _ h']

theorem items_empty (l : Layer) : ({} : Compositor ι).items l = [] := by
  simp [items]

/-! ## 3. Edits -/

variable [DecidableEq ι]

/-- Puts a thing on top of a layer, unless it is there already (`LayerManager.add_to_layer`). -/
def add (c : Compositor ι) (i : ι) (l : Layer) : Compositor ι :=
  if i ∈ c.items l then c else c.setItems l (c.items l ++ [i])

/-- Takes a thing out of a layer (`LayerManager.remove_from_layer`). -/
def remove (c : Compositor ι) (i : ι) (l : Layer) : Compositor ι :=
  c.setItems l ((c.items l).erase i)

/-- Empties a layer (`LayerManager.clear_layer`). -/
def clear (c : Compositor ι) (l : Layer) : Compositor ι := c.setItems l []

/-- Empties every layer (`LayerManager.clear_all`). -/
def clearAll (_ : Compositor ι) : Compositor ι := {}

/-- Runs an edit. -/
def apply (c : Compositor ι) : Edit α ι → Compositor ι
  | .add i layer => match Layer.ofChoice? layer with
    | some l => c.add i l
    | none => c
  | .remove i layer => match Layer.ofChoice? layer with
    | some l => c.remove i l
    | none => c
  | .clear layer => match Layer.ofChoice? layer with
    | some l => c.clear l
    | none => c
  | .clearAll => c.clearAll

/-- The things in a layer as it was named; there are none in an unknown one
(`LayerManager.get_layer`). -/
def itemsOf (c : Compositor ι) (layer : Choice α Layer) : List ι :=
  match Layer.ofChoice? layer with
  | some l => c.items l
  | none => []

end Compositor

/-- The line that an edit prints: only adding to an unknown layer does
(`LayerManager.add_to_layer`). -/
def Edit.warning? {α ι : Type} [Scalar α] : Edit α ι → Option String
  | .add _ (.value v) =>
    if (Vocabulary.ofValue? v : Option Layer).isNone then
      some ("[LayerManager] Warning: unknown layer '" ++ v.plain ++ "'")
    else none
  | _ => none

end Diorama
