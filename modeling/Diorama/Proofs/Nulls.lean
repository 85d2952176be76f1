/-
# Fields that are null

A description may leave a field out, and it may have the field with nothing in it.  The two are to
mean the same: the default.  For a number, a colour, a typeface, an image or an action they do,
since these are read by `Fields.get`, which does not tell a null from an absent field.

Four fields are read as they are written (`Entity.takenAsWritten`).  Whether an entity is visible
and whether a shape is filled is the truth of the value, which for a null is false; the text of a
button and of a line is the text of the value, which for a null is `None`.  There a null is not the
default, and it changes the entity (`Entity.nulled`); for every other field it does not matter.
-/
import Diorama.Proofs.Reports

namespace Diorama

open Act

variable {α : Type} [Scalar α]

/-! ## 1. Two mappings that differ in one field

Two descriptions that differ in one field, where one has a null and the other nothing, are read
alike if the field is read by a reading that takes null for absent. -/

/-- A text is the same key as an equal text only. -/
theorem Value.sameKey_of_isText {v : Value α} {s : String} (h : v.isText s = true)
    (key : Value α) : v.sameKey key = key.isText s := by
  rw [isText_iff] at h
  subst h
  cases key with
  | text t =>
    simp only [sameKey, isText]
    exact Bool.beq_comm
  | _ => rfl

namespace Fields

/-- The mapping with nothing at a key. -/
def withNull (fs : Fields α) (key : Value α) : Fields α := fs.insert key .null

/-- The mapping without a key. -/
def without (fs : Fields α) (key : Value α) : Fields α := fs.filter fun f => !f.1.sameKey key

/-- Without the key there is nothing under its name, and everything else is as before. -/
theorem lookup_without (fs : Fields α) (key : Value α) (name : String) :
    lookup (fs.without key) name = if key.isText name then none else lookup fs name := by
  induction fs with
  | nil => simp [without, lookup]
  | cons f fs ih =>
    obtain ⟨k, v⟩ := f
    simp only [without] at ih
    by_cases hk : k.isText name = true
    · have hsame := Value.sameKey_of_isText hk key
      cases hkey : key.isText name <;> simp_all [without, lookup]
    · cases hsame : k.sameKey key <;> simp_all [without, lookup]

theorem lookup_replace (fs : Fields α) (key value : Value α) (name : String) :
    lookup (fs.map fun f => if f.1.sameKey key then (f.1, value) else f) name =
      if key.isText name then (lookup fs name).map fun _ => value else lookup fs name := by
  induction fs with
  | nil => simp [lookup]
  | cons f fs ih =>
    obtain ⟨k, v⟩ := f
    by_cases hk : k.isText name = true
    · have hsame := Value.sameKey_of_isText hk key
      cases hkey : key.isText name <;> simp_all [lookup]
    · cases hsame : k.sameKey key <;> simp_all [lookup]

omit [Scalar α] in
theorem lookup_concat (fs : Fields α) (key value : Value α) (name : String) :
    lookup (List.append fs [(key, value)]) name =
      (lookup fs name).or (if key.isText name then some value else none) := by
  induction fs with
  | nil => simp [lookup]
  | cons f fs ih =>
    obtain ⟨k, v⟩ := f
    by_cases hk : k.isText name = true <;> simp_all [lookup]

theorem isSome_lookup {key : Value α} {name : String} (hkey : key.isText name = true)
    (fs : Fields α) : (lookup fs name).isSome = fs.any fun f => f.1.sameKey key := by
  rw [Value.isText_iff] at hkey
  subst hkey
  induction fs with
  | nil => rfl
  | cons f fs ih =>
    obtain ⟨k, v⟩ := f
    cases k with
    | text s => by_cases hs : s = name <;> simp_all [lookup, Value.isText, Value.sameKey]
    | _ => simpa [lookup, Value.isText, Value.sameKey] using ih

/-- With null at the key there is null under its name, and everything else is as before. -/
theorem lookup_withNull (fs : Fields α) (key : Value α) (name : String) :
    lookup (fs.withNull key) name = if key.isText name then some .null else lookup fs name := by
  unfold withNull insert
  cases hkey : key.isText name with
  | true =>
    have hsome := isSome_lookup hkey fs
    split
    · next hany =>
      obtain ⟨v, hv⟩ := Option.isSome_iff_exists.1 (hsome.trans hany)
      simp [lookup_replace, hkey, hv]
    · next hany =>
      have hnone : lookup fs name = none := by simpa [hany] using hsome
      exact (lookup_concat fs key .null name).trans (by simp [hkey, hnone])
  | false =>
    split
    · simp [lookup_replace, hkey]
    · exact (lookup_concat fs key .null name).trans (by simp [hkey])

/-- What is read by `Fields.get` does not tell a null from an absent field. -/
theorem get_withNull (fs : Fields α) (key : Value α) :
    get (fs.withNull key) = get (fs.without key) := by
  funext name
  unfold get
  rw [lookup_withNull, lookup_without]
  split <;> rfl

end Fields

/-- A flag that is null is false, though one that is left out is true. -/
theorem fieldFlag_withNull (fs : Fields α) (key : Value α) (name : String) :
    fieldFlag (fs.withNull key) name = (!key.isText name && fieldFlag (fs.without key) name) := by
  unfold fieldFlag
  rw [Fields.lookup_withNull, Fields.lookup_without]
  cases key.isText name <;> simp [Value.truthy]

/-- The text of a field as it is written (`str(config.get(key, ""))`), where it can be. -/
def textOf (fs : Fields α) (key : String) : String := ((Fields.lookup fs key).getD (.text "")).plain

/-- A text that is null is the word for it, though one that is left out is empty. -/
theorem textOf_withNull (fs : Fields α) (key : Value α) (name : String) :
    textOf (fs.withNull key) name =
      if key.isText name then "None" else textOf (fs.without key) name := by
  unfold textOf
  rw [Fields.lookup_withNull, Fields.lookup_without]
  cases key.isText name <;> simp [Value.plain, Value.quoted]

/-- Whether a field can be written does not depend on whether it is null or absent: neither is a
number. -/
theorem fieldText_congr {fs fs' : Fields α} (hget : Fields.get fs = Fields.get fs') (key : String) :
    fieldText fs key = (fun _ => textOf fs key) <$> fieldText fs' key := by
  have hwritable (gs : Fields α) : ((Fields.lookup gs key).getD (.text "")).writable =
      (Fields.get gs key).writable := by
    unfold Fields.get
    cases Fields.lookup gs key with
    | none => simp [Value.writable]
    | some v => rfl
  have hsame : ((Fields.lookup fs key).getD (.text "")).writable =
      ((Fields.lookup fs' key).getD (.text "")).writable := by
    rw [hwritable, hwritable, hget]
  funext log
  unfold fieldText
  show (Act.ofExcept _ : Act Log String).run log = _
  rw [run_ofExcept]
  refine Eq.trans ?_ (run_map _ _ log).symm
  rw [run_ofExcept]
  unfold Value.written Value.told
  rw [hsame]
  split <;> rfl

/-! ## 2. What is read as it is written

The fields that are read as they are written, for which the difference shows. -/

namespace Entity

/-- The fields that an entity has as they are written, also if that is nothing. -/
def takenAsWritten (e : Entity α) : List String :=
  match e.form with
  | .button .. => ["visible", "text"]
  | .text .. => ["visible", "content"]
  | .shape .. => ["visible", "fill"]
  | .sprite _ | .divider => ["visible"]

/-- The entity with these fields taken from a mapping. -/
def reread (fs : Fields α) (e : Entity α) : Entity α :=
  { e with
    visible := fieldFlag fs "visible"
    form := match e.form with
      | .button _ ink font corner action clickable owner =>
        .button (textOf fs "text") ink font corner action clickable owner
      | .text _ font align owner => .text (textOf fs "content") font align owner
      | .shape kind radius _ stroke => .shape kind radius (fieldFlag fs "fill") stroke
      | .sprite image => .sprite image
      | .divider => .divider }

/-- The entity if one field of its description is a null instead of absent. -/
def nulled (key : Value α) (e : Entity α) : Entity α :=
  { e with
    visible := e.visible && !key.isText "visible"
    form := match e.form with
      | .button text ink font corner action clickable owner =>
        .button (if key.isText "text" then "None" else text) ink font corner action clickable owner
      | .text content font align owner =>
        .text (if key.isText "content" then "None" else content) font align owner
      | .shape kind radius filled stroke =>
        .shape kind radius (filled && !key.isText "fill") stroke
      | .sprite image => .sprite image
      | .divider => .divider }

end Entity

namespace Workshop

/-- The entity of a description of a kind. -/
def buildKind (w : Workshop) (fs : Fields α) : EntityKind → Act Log (Entity α)
  | .sprite => w.buildSprite fs
  | .button => w.buildButton fs
  | .text => w.buildText fs
  | .shape => buildShape fs

/-- What is built is decided by the type alone. -/
theorem build_of_kind (w : Workshop) {fs : Fields α} {kind : EntityKind}
    (hkind : kindOf? fs = some kind) : w.build fs = some <$> w.buildKind fs kind := by
  have hchoose : Vocabulary.choose "EntityFactory" "entity type" none
      (.value (Fields.get fs "type")) = (pure (some kind) : Act Log _) := by
    unfold kindOf? at hkind
    cases htype : Fields.get fs "type" with
    | text word => simp only [htype] at hkind; simp only [Vocabulary.choose, hkind]
    | _ => simp [htype, Vocabulary.ofValue?] at hkind
  unfold build
  simp only [hchoose, pure_bind]
  cases kind <;> simp only [buildKind, map_eq_pure_bind]

variable {fs fs' : Fields α} (hget : Fields.get fs = Fields.get fs')

include hget

/-- A number is looked up by `get`, so descriptions that agree there give the same number. -/
theorem fieldNumber_congr (key : String) (default : α) :
    fieldNumber fs key default = fieldNumber fs' key default := by
  rw [fieldNumber_eq, fieldNumber_eq, hget]

theorem readPlace_congr (width height : α) :
    readPlace fs width height = readPlace fs' width height := by
  simp only [readPlace, fieldNumber_congr hget]

/-- Descriptions that agree by `get` give the same sprite, but for whether it is visible. -/
theorem buildSprite_reread (w : Workshop) :
    w.buildSprite fs = Entity.reread fs <$> w.buildSprite fs' := by
  simp only [buildSprite, readLook, fieldNumber_congr hget, readPlace_congr hget, hget, map_bind,
    bind_assoc, pure_bind, map_pure]
  rfl

theorem fieldTextOr_congr (key default : String) :
    fieldTextOr fs key default = fieldTextOr fs' key default := by
  rw [fieldTextOr, fieldTextOr, hget]

/-- They give the same button, but for that and its label. -/
theorem buildButton_reread (w : Workshop) :
    w.buildButton fs = Entity.reread fs <$> w.buildButton fs' := by
  simp only [buildButton, readLook, readClick, fieldNumber_congr hget, readPlace_congr hget,
    fieldText_congr hget, fieldTextOr_congr hget, hget, map_bind, bind_map_left, bind_assoc,
    pure_bind, map_pure]
  rfl

/-- They give the same line of text, but for that and its content. -/
theorem buildText_reread (w : Workshop) :
    w.buildText fs = Entity.reread fs <$> w.buildText fs' := by
  simp only [buildText, readLook, fieldNumber_congr hget, readPlace_congr hget,
    fieldText_congr hget, fieldTextOr_congr hget, hget, map_bind, bind_map_left, bind_assoc,
    pure_bind, map_pure]
  rfl

/-- They give the same shape, but for that and whether it is filled. -/
theorem buildShape_reread : buildShape fs = Entity.reread fs <$> buildShape fs' := by
  simp only [buildShape, readLook, fieldNumber_congr hget, readPlace_congr hget, hget, map_bind,
    bind_assoc, pure_bind, map_pure]
  rfl

/-- Mappings that `Fields.get` cannot tell apart give entities that differ in what is taken as it is
written, and in nothing else. -/
theorem build_reread (w : Workshop) {kind : EntityKind} (hkind : kindOf? fs = some kind) :
    w.build fs = Option.map (Entity.reread fs) <$> w.build fs' := by
  have hkind' : kindOf? fs' = some kind := by rw [← hkind, kindOf?, kindOf?, hget]
  have hbuild : w.buildKind fs kind = Entity.reread fs <$> w.buildKind fs' kind := by
    cases kind with
    | sprite => exact buildSprite_reread hget w
    | button => exact buildButton_reread hget w
    | text => exact buildText_reread hget w
    | shape => exact buildShape_reread hget
  simp only [build_of_kind w hkind, build_of_kind w hkind', hbuild, Functor.map_map,
    Option.map_some]

end Workshop

/-- What is taken as it is written changes where there is a null, and there only. -/
theorem Entity.reread_withNull (fs : Fields α) (key : Value α) (e : Entity α) :
    Entity.reread (fs.withNull key) e = (Entity.reread (fs.without key) e).nulled key := by
  obtain ⟨body, form⟩ := e
  simp only [reread, nulled, fieldFlag_withNull, textOf_withNull, Bool.and_comm]
  cases form <;> rfl

/-- Without the field these are not what a null makes of them. -/
theorem Entity.nulled_reread_iff (fs : Fields α) (key : Value α) (e : Entity α) :
    (Entity.reread (fs.without key) e).nulled key = Entity.reread (fs.without key) e ↔
      ∀ word ∈ (Entity.reread (fs.without key) e).takenAsWritten, key.isText word = false := by
  have hflag (name : String) : (fieldFlag (fs.without key) name && !key.isText name) =
      fieldFlag (fs.without key) name ↔ key.isText name = false := by
    cases h : key.isText name <;> simp [fieldFlag, Fields.lookup_without, h, Value.truthy]
  have htext (name : String) :
      (if key.isText name then "None" else textOf (fs.without key) name) =
        textOf (fs.without key) name ↔ key.isText name = false := by
    cases h : key.isText name <;> simp [textOf, Fields.lookup_without, h, Value.plain]
  obtain ⟨body, form⟩ := e
  cases form <;>
    simp only [reread, nulled, takenAsWritten, Entity.mk.injEq, Body.mk.injEq, Form.button.injEq,
      Form.text.injEq, Form.shape.injEq, hflag, htext, true_and, and_true, List.forall_mem_cons,
      List.not_mem_nil, false_implies, implies_true]

namespace Workshop

/-- **A null means the same as an absent field, but for what is taken as it is written.**  The two
descriptions of an entity of a known type are built with the same lines in the log, and with the
same fault if there is one.  Otherwise two entities are built that differ by `Entity.nulled`; they
are equal exactly when the field is none that is taken as it is written. -/
theorem null_or_absent (w : Workshop) {fs : Fields α} {key : Value α} {kind : EntityKind}
    (hkind : kindOf? fs = some kind) (hkey : key.isText "type" = false) (log : Log) :
    (∃ f log', (w.build (fs.without key)).run log = (.error f, log') ∧
      (w.build (fs.withNull key)).run log = (.error f, log')) ∨
    ∃ e log', (w.build (fs.without key)).run log = (.ok (some e), log') ∧
      (w.build (fs.withNull key)).run log = (.ok (some (e.nulled key)), log') ∧
      (e.nulled key = e ↔ ∀ word ∈ e.takenAsWritten, key.isText word = false) := by
  have hwithout : kindOf? (fs.without key) = some kind := by
    rw [← hkind, kindOf?, kindOf?, Fields.get, Fields.lookup_without, hkey]
    rfl
  have hnull : kindOf? (fs.withNull key) = some kind := by
    rw [← hwithout, kindOf?, kindOf?, Fields.get_withNull]
  have hbuilt := congrArg (Act.run · log) (w.build_of_kind hwithout)
  -- What is built without the field has what is taken as it is written from there.
  have hself := congrArg (Act.run · log) (build_reread rfl w hwithout)
  have hother := congrArg (Act.run · log) (build_reread (fs.get_withNull key) w hnull)
  simp only [run_map] at hbuilt hself hother
  cases hrun : (w.build (fs.without key)).run log with
  | mk r log' =>
    rw [hrun] at hbuilt hself hother
    cases r with
    | error f => exact .inl ⟨f, log', rfl, hother⟩
    | ok built =>
      obtain ⟨e, rfl⟩ : ∃ e, built = some e := by
        cases hk : ((w.buildKind (fs.without key) kind).run log).1 with
        | error f => simp [hk, Except.map] at hbuilt
        | ok e => exact ⟨e, by simpa [hk, Except.map] using congrArg Prod.fst hbuilt⟩
      have he : Entity.reread (fs.without key) e = e := by
        simpa [Except.map] using (congrArg Prod.fst hself).symm
      refine .inr ⟨e, log', rfl, ?_, ?_⟩
      · rw [hother]
        simp [Except.map, Entity.reread_withNull, he]
      · rw [← he]
        exact Entity.nulled_reread_iff fs key e

/-- A button with a text and a place. -/
def sign : Fields Rat :=
  [(.text "type", .text "button"), (.text "text", .text "Play"), (.text "x", .int 5)]

/-- Its text is not left out by a null, its place is.  That the sign is built both times is
computed; what the null does is the theorem. -/
theorem null_or_absent_sign : letI := Scalar.exact (fun x => x) 57
    (∃ e log, (({} : Workshop).build (sign.without (.text "text"))).run #[] =
        (.ok (some e), log) ∧
      (({} : Workshop).build (sign.withNull (.text "text"))).run #[] =
        (.ok (some (e.nulled (.text "text"))), log) ∧ e.nulled (.text "text") ≠ e) ∧
    ∃ e log, (({} : Workshop).build (sign.without (.text "x"))).run #[] = (.ok (some e), log) ∧
      (({} : Workshop).build (sign.withNull (.text "x"))).run #[] = (.ok (some e), log) := by
  let _ := Scalar.exact (fun x => x) 57
  have hkind : kindOf? sign = some .button := by decide
  have hbuilds (key : String) (hkey : (Value.text key : Value Rat).isText "type" = false)
      (hbutton : ((({} : Workshop).build (sign.without (.text key))).run #[]).1.toOption.map
        (Option.map Entity.takenAsWritten) = some (some ["visible", "text"])) :
      ∃ e log, (({} : Workshop).build (sign.without (.text key))).run #[] = (.ok (some e), log) ∧
        (({} : Workshop).build (sign.withNull (.text key))).run #[] =
          (.ok (some (e.nulled (.text key))), log) ∧
        (e.nulled (.text key) = e ↔
          ∀ word ∈ ["visible", "text"], (Value.text key : Value Rat).isText word = false) := by
    obtain ⟨f, log, h, -⟩ | ⟨e, log, h, hnull, hiff⟩ := null_or_absent {} hkind hkey #[]
    · simp [h, Except.toOption] at hbutton
    · have hwords : e.takenAsWritten = ["visible", "text"] := by
        simpa [h, Except.toOption] using hbutton
      exact ⟨e, log, h, hnull, hwords ▸ hiff⟩
  constructor
  · obtain ⟨e, log, h, hnull, hiff⟩ := hbuilds "text" (by decide) rfl
    exact ⟨e, log, h, hnull, fun heq => absurd (hiff.1 heq) (by decide)⟩
  · obtain ⟨e, log, h, hnull, hiff⟩ := hbuilds "x" (by decide) rfl
    refine ⟨e, log, h, ?_⟩
    rw [hnull, hiff.2 (by decide)]

end Workshop

end Diorama
