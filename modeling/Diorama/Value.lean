/-
# Values of a scene document

A document is a tree of values: nothing, truth values, whole numbers of any size, scalars,
texts, points in time, lists, and mappings that keep the order of their keys.  Keys are values
too, since one of the two document formats allows any scalar value as a key.

A value has two texts.  `Value.plain` is what a name or a content becomes: a text is itself.
`Value.quoted` is what the log shows, and what stands inside lists and mappings: there a text
is between quotes.  A value that holds a whole number of more than `Numeral.maxDigits` digits
has neither: converting such a number to a text is a fault.  So everything that needs the text
of a value from a document asks for `Value.written` or `Value.shown`.
-/
import Diorama.Fault
import Diorama.Scalar
import Diorama.Text.Quoted
import Diorama.Value.Timestamp

namespace Diorama

/-! ## 1. Values -/

/-- A value of a scene document. -/
inductive Value (α : Type) where
  | null
  | bool (b : Bool)
  | int (n : Int)
  | num (x : α)
  | text (s : String)
  | time (t : Timestamp)
  | list (items : List (Value α))
  | map (fields : List (Value α × Value α))
  deriving Inhabited

/-- The keys and values of a mapping, in document order, each key once. -/
abbrev Fields (α : Type) := List (Value α × Value α)

namespace Value

variable {α : Type} [Scalar α]

/-- Whether the value is present and not one of false, zero and empty. -/
def truthy : Value α → Bool
  | .null => false
  | .bool b => b
  | .int n => n != 0
  | .num x => !Scalar.isZero x
  | .text s => s != ""
  | .time _ => true
  | .list items => !items.isEmpty
  | .map fields => !fields.isEmpty

/-- The value if it is truthy. -/
def orElse (v : Value α) (default : Value α) : Value α := if v.truthy then v else default

def isNull : Value α → Bool
  | .null => true
  | _ => false

/-- Whether the value is the text `s`. -/
def isText (s : String) : Value α → Bool
  | .text t => t == s
  | _ => false

/-- Whether the scalar is exactly the integer. -/
def isInt (x : α) (n : Int) : Bool := Scalar.trunc? x == some n && Scalar.eq x (Scalar.ofInt n)

/-- A truth value read as a number. -/
def ofBool (b : Bool) : Int := if b then 1 else 0

/-- Whether two values are the same key: numbers by what they are worth, a truth value as
zero or one, all else by kind and content.  Lists and mappings are no keys. -/
def sameKey : Value α → Value α → Bool
  | .null, .null => true
  | .text s, .text t => s == t
  | .time s, .time t => s == t
  | .bool a, .bool b => a == b
  | .bool a, .int n | .int n, .bool a => ofBool a == n
  | .bool a, .num x | .num x, .bool a => isInt x (ofBool a)
  | .int m, .int n => m == n
  | .int n, .num x | .num x, .int n => isInt x n
  | .num x, .num y => Scalar.eq x y || (Scalar.isUndefined x && Scalar.isUndefined y)
  | _, _ => false

/-- The text that a value used for looking up a name asks for, if it is a text. -/
def nameKey : Value α → Except Fault (Option String)
  | .list _ | .map _ => .error .wrongKind
  | .text s => .ok (some s)
  | _ => .ok none

/-! ## 2. The text of a value -/

mutual

/-- The value with texts between quotes. -/
def quoted : Value α → String
  | .null => "None"
  | .bool b => if b then "True" else "False"
  | .int n => toString n
  | .num x => Scalar.text x
  | .text s => Text.quoted s
  | .time t => t.quoted
  | .list items => "[" ++ quotedItems items ++ "]"
  | .map fields => "\x7b" ++ quotedFields fields ++ "\x7d"

/-- Items with commas between them. -/
def quotedItems : List (Value α) → String
  | [] => ""
  | [v] => v.quoted
  | v :: w :: rest => v.quoted ++ ", " ++ quotedItems (w :: rest)

/-- Keys and values with commas between the pairs. -/
def quotedFields : List (Value α × Value α) → String
  | [] => ""
  | [(k, v)] => k.quoted ++ ": " ++ v.quoted
  | (k, v) :: f :: rest => k.quoted ++ ": " ++ v.quoted ++ ", " ++ quotedFields (f :: rest)

end

/-- The value as a text of its own. -/
def plain : Value α → String
  | .text s => s
  | .time t => t.text
  | v => v.quoted

/-- Whether a whole number is short enough to be written: its sign does not count.  The power is
never to be computed in a proof by unfolding. -/
@[irreducible] def isShort (n : Int) : Bool := n.natAbs < Nat.pow 10 Decimal.Numeral.maxDigits

mutual

/-- Whether every whole number in the value is short enough to be written. -/
def writable : Value α → Bool
  | .int n => isShort n
  | .list items => writableItems items
  | .map fields => writableFields fields
  | _ => true

/-- Whether all items can be written. -/
def writableItems : List (Value α) → Bool
  | [] => true
  | v :: rest => v.writable && writableItems rest

/-- Whether all keys and values can be written. -/
def writableFields : List (Value α × Value α) → Bool
  | [] => true
  | (k, v) :: rest => k.writable && v.writable && writableFields rest

end

/-- A text of the value, or a fault where a number in the value is too long. -/
def told (v : Value α) (text : String) : Except Fault String :=
  if v.writable then .ok text else .error .notANumber

/-- The value as a text of its own, where it has one. -/
def written (v : Value α) : Except Fault String := v.told v.plain

/-- The value with texts between quotes, where it has such a text. -/
def shown (v : Value α) : Except Fault String := v.told v.quoted

omit [Scalar α] in
theorem told_of_writable {v : Value α} (h : v.writable = true) (text : String) :
    v.told text = .ok text :=
  if_pos h

omit [Scalar α] in
theorem told_of_not_writable {v : Value α} (h : v.writable = false) (text : String) :
    v.told text = .error .notANumber :=
  if_neg (by simp [h])

omit [Scalar α] in
theorem told_eq_ok {v : Value α} {text s : String} :
    v.told text = .ok s ↔ v.writable = true ∧ s = text := by
  cases h : v.writable with
  | true => simp [told_of_writable h, eq_comm]
  | false => simp [told_of_not_writable h]

omit [Scalar α] in
theorem told_eq_error {v : Value α} {text : String} {e : Fault} :
    v.told text = .error e ↔ v.writable = false ∧ e = .notANumber := by
  cases h : v.writable with
  | true => simp [told_of_writable h]
  | false => simp [told_of_not_writable h, eq_comm]

omit [Scalar α] in
@[simp] theorem writable_text (s : String) : (text s : Value α).writable = true := by
  simp [writable]

@[simp] theorem written_text (s : String) : (text s : Value α).written = .ok s :=
  told_of_writable (writable_text s) s

end Value

/-! ## 3. Mappings -/

namespace Fields

variable {α : Type}

/-- The value at a key, if the mapping has the key. -/
def lookup : Fields α → String → Option (Value α)
  | [], _ => none
  | (k, v) :: rest, key => if k.isText key then some v else lookup rest key

/-- The value at a key, and null without one. -/
def get (fs : Fields α) (key : String) : Value α := (lookup fs key).getD .null

/-- Sets a key: its first place is kept, and its last value. -/
def insert [Scalar α] (fs : Fields α) (key value : Value α) : Fields α :=
  if fs.any (·.1.sameKey key) then
    fs.map fun f => if f.1.sameKey key then (f.1, value) else f
  else fs ++ [(key, value)]

/-- A mapping from its keys and values as they come, a repeated key keeping its first place. -/
def ofPairs [Scalar α] (ps : List (Value α × Value α)) : Fields α :=
  ps.foldl (fun fs p => insert fs p.1 p.2) []

end Fields

end Diorama
