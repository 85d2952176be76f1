/-
# Small tables

A table keeps one value for each name, in the order in which the names came first.  Setting a
name again keeps its place; erasing it gives the place up.
-/
namespace Diorama

/-- Values by name, in the order of first setting. -/
abbrev Table (β : Type) := List (String × β)

namespace Table

variable {β : Type}

/-- Whether the table has a name. -/
def has (t : Table β) (name : String) : Bool := (t.lookup name).isSome

/-- Sets the value of a name. -/
def put (t : Table β) (name : String) (value : β) : Table β :=
  if t.has name then t.map fun e => if e.1 == name then (name, value) else e
  else t ++ [(name, value)]

/-- Removes a name. -/
def erase (t : Table β) (name : String) : Table β := t.filter (·.1 != name)

/-- The names in order. -/
def names (t : Table β) : List String := t.map (·.1)

theorem lookup_append (t u : Table β) (name : String) :
    List.lookup name (t ++ u) = (t.lookup name).or (u.lookup name) := by
  induction t with
  | nil => simp
  | cons e t ih =>
    obtain ⟨k, v⟩ := e
    simp only [List.cons_append, List.lookup_cons]
    split <;> simp_all

theorem lookup_replace (t : Table β) (name other : String) (value : β) :
    List.lookup other (t.map fun e => if e.1 == name then (name, value) else e) =
      if other = name then (t.lookup name).map fun _ => value else t.lookup other := by
  induction t with
  | nil => simp
  | cons e t ih =>
    obtain ⟨k, v⟩ := e
    simp only [List.map_cons, List.lookup_cons]
    by_cases hk : k = name <;> by_cases ho : other = name <;> by_cases hok : other = k <;>
      simp_all [List.lookup_cons] <;> grind

/-- Setting a name changes what is found under it and under no other. -/
theorem lookup_put (t : Table β) (name other : String) (value : β) :
    (t.put name value).lookup other = if other = name then some value else t.lookup other := by
  unfold put has
  cases h : t.lookup name with
  | none =>
    simp only [Option.isSome_none, Bool.false_eq_true, ↓reduceIte, lookup_append,
      List.lookup_cons, List.lookup_nil]
    by_cases ho : other = name
    · subst ho; simp [h]
    · simp [ho, beq_eq_false_iff_ne.2 ho]
  | some v =>
    simp only [Option.isSome_some, ↓reduceIte, lookup_replace, h, Option.map_some]

/-- Erasing a name leaves nothing under it and changes no other. -/
theorem lookup_erase (t : Table β) (name other : String) :
    (t.erase name).lookup other = if other = name then none else t.lookup other := by
  unfold erase
  induction t with
  | nil => simp
  | cons e t ih =>
    obtain ⟨k, v⟩ := e
    by_cases hk : k = name <;> by_cases ho : other = name <;>
      simp_all [List.lookup_cons] <;> grind

end Table

end Diorama
