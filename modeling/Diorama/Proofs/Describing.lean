/-
# What is built of a description

A description is read field by field, in an order that depends on the kind of the entity
(`create_sprite`, `create_button`, `create_text`, `create_shape`, and `_apply_common` for what they
share).  A step of this order is a `Reading`, and `readings` lists the steps of a kind.  A reading
can give a line for the log (`Reading.lines`), and it can end the building (`Reading.offence?`): an
integer that is no scalar's, the width of an outline that is not finite, an image that is named by
a list or a mapping, and a value that is to become a text, or to be shown in a line, and holds an
integer of too many digits.

`Reads` says of an act that it goes through such a list: it ends with the fault of the first reading
that has one, and if none has one it gives its result and prints the lines of all of them.  So the
faults, the lines and the numbers of an entity (`Describes`) come from one pass over each builder.

`build_of_description` puts them together, and `build_refuses_long_content` is a description in
which every number and every name is fine, and of which nothing can be built.
-/
import Diorama.Proofs.Nulls
import Mathlib.Data.List.Basic

namespace Diorama

open Act

variable {α : Type} [Scalar α]

/-! ## 1. Readings

A builder reads the fields of a description one after the other.  `Reading` has the kinds of
reading there are, with what each of them prints and when it ends the building; so all that a
builder reads is a list (`readings`), and how it ends is found in that list. -/

/-- A step in the reading of a description. -/
inductive Reading (α : Type) where
  | number (key : String) (default : α)
  /-- The width of an outline loses its fraction. -/
  | outline
  | image
  | shape
  | click
  /-- A field becomes a text. -/
  | text (key : String)

/-- The line about a value that is no number. -/
def numberReport (key : String) (v : Value α) : String :=
  "[EntityFactory] Warning: '" ++ key ++ "' is not a number: " ++ v.quoted

/-- Whether a line is about a value that is no number. -/
def isNumberReport (line : String) : Bool :=
  "[EntityFactory] Warning: '".toList.isPrefixOf line.toList

/-- Whether the value is an integer that no scalar is near to. -/
def Value.outOfRange : Value α → Bool
  | .int n => (Scalar.ofInt? n : Option α).isNone
  | _ => false

/-- Why no number comes of a value, and no default: it is out of range, or it is no number and the
line that says so cannot be printed. -/
def Value.numberOffence? (v : Value α) : Option Fault :=
  if v.outOfRange then some .tooLarge
  else if v.unread && !v.writable then some .notANumber
  else none

/-- Whether the line about an action that is none cannot be printed. -/
def Value.clickUnwritten : Value α → Bool
  | .null => false
  | .map action => (Fields.get action "action").Unknown ActionKind
  | v => !v.writable

omit [Scalar α] in
theorem Value.clickUnwritten_of_not_map {v : Value α} (hnull : v ≠ .null)
    (hmap : ∀ action, v ≠ .map action) : v.clickUnwritten = !v.writable := by
  cases v with
  | null => exact (hnull rfl).elim
  | map action => exact (hmap action rfl).elim
  | _ => rfl

/-- Whether the value names an image in a way in which nothing can be named. -/
def Value.isCompound (v : Value α) : Bool :=
  v.truthy && match v with
    | .list _ | .map _ => true
    | _ => false

/-- The image that a value names. -/
def Workshop.imageOf? (w : Workshop) (id : Value α) : Option Surface :=
  match id with
  | .text name => if name = "" then none else w.image?.bind (· name)
  | _ => none

/-- Whether an image is named that is not there. -/
def Workshop.lacks (w : Workshop) (id : Value α) : Bool :=
  w.image?.isSome && id.truthy && (w.imageOf? id).isNone

/-- The lines that an act on the log prints. -/
def printed {β : Type} (x : Act Log β) : List String := (x.after #[]).toList

namespace Reading

/-- Why a reading ends the building, if it does. -/
def offence? (w : Workshop) (fs : Fields α) : Reading α → Option Fault
  | .number key _ => (Fields.get fs key).numberOffence?
  | .outline =>
    match (Fields.get fs "strokeWidth").toScalar with
    | .ok x =>
      if Scalar.isFinite x then none
      else some (if Scalar.isUndefined x then .notANumber else .tooLarge)
    | .error _ => none
  | .image =>
    let id := Fields.get fs "assetId"
    if w.image?.isSome && id.isCompound then some .wrongKind
    else if w.lacks id && !id.writable then some .notANumber
    else none
  | .shape => if (Fields.get fs "shape").Unknown ShapeKind then some .notANumber else none
  | .click => if (Fields.get fs "onClick").clickUnwritten then some .notANumber else none
  | .text key => if (Fields.get fs key).writable then none else some .notANumber

/-- The lines of a reading that does not end the building. -/
def lines (w : Workshop) (fs : Fields α) : Reading α → List String
  | .number key _ =>
    if (Fields.get fs key).unread then [numberReport key (Fields.get fs key)] else []
  | .outline | .text _ => []
  | .image =>
    let id := Fields.get fs "assetId"
    if w.lacks id then ["[EntityFactory] Warning: image '" ++ id.plain ++ "' not loaded"] else []
  | .shape =>
    printed (Vocabulary.chooseOr "EntityFactory" "shape" ShapeKind.rect (Fields.get fs "shape"))
  | .click => printed (Workshop.readClick fs)

end Reading

/-- Where an entity is and how large it is. -/
def placeReadings (width height : α) : List (Reading α) :=
  [.number "x" 0.0, .number "y" 0.0, .number "width" width, .number "height" height]

/-- How an entity is turned, scaled and seen through. -/
def lookReadings : List (Reading α) :=
  [.number "rotation" 0.0, .number "scaleX" 1.0, .number "scaleY" 1.0, .number "alpha" 1.0]

/-- What is read of the description of an entity, in this order.  The texts of a button and of a
line of text are made before the entity is turned and scaled. -/
def readings : EntityKind → List (Reading α)
  | .sprite => placeReadings 0.0 0.0 ++ [.image] ++ lookReadings
  | .button => placeReadings 200.0 80.0 ++ [.text "text", .text "font"] ++ lookReadings ++ [.click]
  | .text => placeReadings 0.0 0.0 ++ [.text "content", .text "font", .text "textAlign"] ++
      lookReadings
  | .shape => [.shape] ++ placeReadings 100.0 100.0 ++
      [.number "radius" 50.0, .number "strokeWidth" 1.0, .outline] ++ lookReadings

/-- The act goes through the readings and has its result then. -/
def Reads {β : Type} (w : Workshop) (fs : Fields α) (rs : List (Reading α)) (x : Act Log β)
    (b : β) : Prop :=
  match rs.findSome? (Reading.offence? w fs) with
  | some e => Gives x (.error e)
  | none => ∀ log, x.run log = (.ok b, log ++ (rs.flatMap (Reading.lines w fs)).toArray)

section Reads

variable {β γ : Type} {w : Workshop} {fs : Fields α} {rs rs' : List (Reading α)}

/-- Nothing is read, and nothing is printed. -/
theorem reads_pure (b : β) : Reads w fs ([] : List (Reading α)) (pure b) b := by
  intro log
  simp

/-- Readings are put one after the other, and the first that fails decides.  If the first fails
the second is never begun, and the list of readings stops at the same place. -/
theorem Reads.bind {x : Act Log β} {f : β → Act Log γ} {b : β} {c : γ} (hx : Reads w fs rs x b)
    (hf : Reads w fs rs' (f b) c) : Reads w fs (rs ++ rs') (x >>= f) c := by
  unfold Reads at *
  rw [List.findSome?_append]
  cases h : rs.findSome? (Reading.offence? w fs) with
  | some e =>
    rw [h] at hx
    exact hx.bind_error f
  | none =>
    rw [h] at hx
    rw [Option.none_or]
    split
    · next e he =>
      rw [he] at hf
      exact fun log => by rw [run_bind_of_ok (hx log)]; exact hf _
    · next he =>
      rw [he] at hf
      intro log
      rw [run_bind_of_ok (hx log), hf]
      simp [Array.append_assoc]

/-- The last act of a sequence only puts together what was read. -/
theorem Reads.bind_pure {x : Act Log β} {b : β} (hx : Reads w fs rs x b) (f : β → γ) :
    Reads w fs rs (x >>= fun b => pure (f b)) (f b) := by
  have h : Reads w fs (rs ++ []) (x >>= fun b => pure (f b)) (f b) := hx.bind (reads_pure (f b))
  rwa [List.append_nil] at h

/-- One reading is known by its fault, and by its lines if it has none. -/
theorem reads_singleton {x : Act Log β} {b : β} {r : Reading α}
    (herror : ∀ e, r.offence? w fs = some e → Gives x (.error e))
    (hok : r.offence? w fs = none → ∀ log, x.run log = (.ok b, log ++ (r.lines w fs).toArray)) :
    Reads w fs [r] x b := by
  unfold Reads
  rw [List.findSome?_singleton, List.flatMap_singleton]
  cases h : r.offence? w fs with
  | some e => exact herror e h
  | none => exact hok h

/-- An act that gives a result prints the same lines after every log. -/
theorem run_of_gives {F : Fault → Prop} {x : Act Log β} {b : β} (hx : Act.Reports F x)
    (hb : Gives x (.ok b)) (log : Log) : x.run log = (.ok b, log ++ (printed x).toArray) := by
  obtain ⟨result, added, -, hrun⟩ := hx
  obtain rfl : result = .ok b := hb.eq (hrun #[])
  rw [hrun, printed, after_eq_of_run (hrun #[]), Array.empty_append, Array.toArray_toList]

end Reads

/-! ## 2. The readings of the builders

Each kind of reading is carried out by one function (`_num`, `parse_enum` and others), which does
what the list says of it.  A builder is then a sequence of these. -/

/-- What is computed here is what was said there of numbers that are too large. -/
theorem Value.outOfRange_iff {v : Value α} : v.outOfRange = true ↔ v.Huge := by
  unfold outOfRange Huge
  cases v with
  | int n => simp
  | _ => simp

/-- The first thing that is wrong with a number, as a computation.  The test looks at the range
before it looks at the text, so the second case of the way back has to show that a value with no
reading is not out of range. -/
theorem Value.numberOffence?_eq_some {v : Value α} {e : Fault} :
    v.numberOffence? = some e ↔ NumberFault v e := by
  unfold numberOffence?
  constructor
  · intro h
    split at h
    · next hrange =>
      cases h
      exact .huge (outOfRange_iff.1 hrange)
    · split at h
      · next hunread =>
        rw [Bool.and_eq_true, Bool.not_eq_true'] at hunread
        cases h
        exact .unreadable hunread.1 hunread.2
      · cases h
  · intro h
    cases h with
    | huge h => rw [outOfRange_iff.2 h, if_pos rfl]
    | unreadable h hlong =>
      have hrange : v.outOfRange = false := by
        cases hrange : v.outOfRange with
        | false => rfl
        | true => simp [unread, toScalar_eq_tooLarge.2 (outOfRange_iff.1 hrange)] at h
      rw [hrange, h, hlong]
      rfl

theorem Value.numberOffence?_eq_none {v : Value α} : v.numberOffence? = none ↔ NumberFits v := by
  rcases number_cases v with h | ⟨e, h⟩
  · refine iff_of_true (Option.eq_none_iff_forall_ne_some.2 fun e he => ?_) h
    cases numberOffence?_eq_some.1 he with
    | huge hhuge => exact h.1 hhuge
    | unreadable hunread hlong => cases (h.2 hunread).symm.trans hlong
  · refine iff_of_false (fun hnone => ?_) fun hfits => ?_
    · cases hnone.symm.trans (numberOffence?_eq_some.2 h)
    · cases h with
      | huge hhuge => exact hfits.1 hhuge
      | unreadable hunread hlong => cases (hfits.2 hunread).symm.trans hlong

/-- A number is read if it can be, and otherwise a line says why the default is taken. -/
theorem run_numberOr (line : String → String) (default : α) {v : Value α} (h : NumberFits v)
    (log : Log) : (numberOr line default v).run log =
      (.ok (v.scalarOr default), log ++ (if v.unread then [line v.quoted] else []).toArray) := by
  unfold numberOr
  cases hnull : v.isNull with
  | true =>
    cases v with
    | null => simp [Value.scalarOr, Value.toScalar, Value.unread, Value.isNull]
    | _ => cases hnull
  | false =>
    rw [if_neg (by decide), Value.toScalar?_of_not_huge h.1, run_bind_of_ok (run_ofExcept _ _)]
    cases hx : v.toScalar with
    | ok x => simp [Except.toOption, Value.scalarOr, Value.unread, hx]
    | error e =>
      have hunread := Value.unread_of_error hnull h.1 hx
      simp only [Except.toOption, Value.scalarOr, hx, hunread]
      exact run_bind_of_ok (run_told (h.2 hunread) v.quoted log)

/-- A name that is no list and no mapping can be looked up: a text by itself, and all else finds
nothing. -/
theorem Workshop.imageOf?_eq {w : Workshop} {image : String → Option Surface}
    (himage : w.image? = some image) {id : Value α} (htruthy : id.truthy = true)
    (h : id.isCompound = false) :
    ∃ name?, id.nameKey = .ok name? ∧ name?.bind image = w.imageOf? id := by
  cases id with
  | list _ | map _ => simp [Value.isCompound, htruthy] at h
  | text name =>
    have hname : name ≠ "" := by simpa [Value.truthy] using htruthy
    exact ⟨some name, rfl, by simp [imageOf?, himage, hname]⟩
  | _ => exact ⟨none, rfl, rfl⟩

/-- The image that is found, and the line about one that is not there.  There are four cases: no
manager at all, a name that counts as none, a name that cannot be a key, a name that nothing was
loaded under. -/
theorem Workshop.run_findImage (w : Workshop) (id : Value α) (log : Log) :
    (w.findImage id).run log =
      if w.image?.isSome && id.isCompound then (.error .wrongKind, log)
      else if w.lacks id && !id.writable then (.error .notANumber, log)
      else (.ok (w.imageOf? id), log ++ (if w.lacks id then
        ["[EntityFactory] Warning: image '" ++ id.plain ++ "' not loaded"] else []).toArray) := by
  unfold findImage
  cases himage : w.image? with
  | none =>
    have hnone : w.imageOf? id = none := by cases id <;> simp [imageOf?, himage]
    simp [hnone, lacks, himage]
  | some image =>
    -- an empty name is not looked up, and nothing is printed about it
    cases htruthy : id.truthy with
    | false =>
      have hnone : w.imageOf? id = none := by cases id <;> simp_all [imageOf?, Value.truthy]
      simp [hnone, Value.isCompound, lacks, htruthy]
    | true =>
      cases hcompound : id.isCompound with
      | true =>
        have hkey : id.nameKey = .error .wrongKind := by
          cases id <;> simp_all [Value.isCompound, Value.nameKey]
        simp [hkey, run_bind]
      | false =>
        -- the name can be a key: what is left is whether something stands under it
        obtain ⟨name?, hkey, hfound⟩ := imageOf?_eq himage htruthy hcompound
        have hlacks : w.lacks id = (w.imageOf? id).isNone := by simp [lacks, himage, htruthy]
        simp only [hkey, hlacks, run_bind_of_ok (run_ofExcept _ _), hfound, Bool.not_true,
          Bool.false_eq_true, if_false, Bool.and_false]
        cases w.imageOf? id with
        | some s => simp
        | none =>
          cases hlong : id.writable with
          | true => exact run_bind_of_ok (run_told hlong _ log)
          | false => exact run_bind_of_error (run_told_of_not hlong _ log)

/-- A word that is not known stands for the default. -/
theorem gives_chooseOr {κ : Type} [Vocabulary κ] (reporter what : String) (default : κ)
    {v : Value α} (h : ¬ v.Unknown κ) : Gives (Vocabulary.chooseOr reporter what default v)
      (.ok ((Vocabulary.ofValue? v).getD default)) := by
  have hgetD : ((Vocabulary.ofValue? v).or (some default)).getD default =
      (Vocabulary.ofValue? v).getD default := by
    cases Vocabulary.ofValue? (κ := κ) v <;> rfl
  rw [← hgetD]
  exact (gives_choose_default reporter what (some default) h).bind (gives_pure _)

section Builders

variable (w : Workshop) (fs : Fields α)

/-- A number that can be read, or shown in the line that it is none, is the number or the default.
-/
theorem reads_fieldNumber (key : String) (default : α) :
    Reads w fs [.number key default] (fieldNumber fs key default)
      ((Fields.get fs key).scalarOr default) := by
  rw [fieldNumber_eq]
  refine reads_singleton (fun e he => ?_) fun hnone log => ?_
  · exact gives_numberOr_of_fault _ _ (Value.numberOffence?_eq_some.1 he)
  · rw [run_numberOr _ _ (Value.numberOffence?_eq_none.1 hnone)]
    rfl

omit [Scalar α] in
/-- A field that is absent and one that is null can be written, each in its way. -/
theorem writable_lookup_getD (key : String) :
    ((Fields.lookup fs key).getD (.text "")).writable = (Fields.get fs key).writable := by
  unfold Fields.get
  cases Fields.lookup fs key with
  | none => simp [Value.writable]
  | some v => rfl

/-- What is false, zero or empty can be written, and so can what stands for it. -/
theorem writable_orElse (v : Value α) (default : String) :
    (v.orElse (.text default)).writable = v.writable := by
  unfold Value.orElse
  cases htruthy : v.truthy with
  | true => rfl
  | false =>
    cases v with
    | int n =>
      obtain rfl : n = 0 := by simpa [Value.truthy] using htruthy
      have hzero : Value.isShort 0 = true := by decide +kernel
      simp [Value.writable, hzero]
    | list items =>
      obtain rfl : items = [] := by simpa [Value.truthy] using htruthy
      simp [Value.writable, Value.writableItems]
    | map fields =>
      obtain rfl : fields = [] := by simpa [Value.truthy] using htruthy
      simp [Value.writable, Value.writableFields]
    | _ => simp [Value.writable]

/-- A reading of a text gives the text of the value, or ends the building. -/
theorem reads_text {key : String} {v : Value α}
    (h : v.writable = (Fields.get fs key).writable) :
    Reads w fs [.text key] (Act.ofExcept v.written) v.plain := by
  refine reads_singleton (fun e he => ?_) fun hnone log => ?_
  · obtain ⟨hlong, rfl⟩ : (Fields.get fs key).writable = false ∧ Fault.notANumber = e := by
      simpa [Reading.offence?] using he
    exact gives_told_of_not (h.trans hlong) _
  · have hwritable : (Fields.get fs key).writable = true := by
      simpa [Reading.offence?] using hnone
    rw [Value.written, Value.told_of_writable (h.trans hwritable)]
    simp [Reading.lines]

/-- A field that is left out has no text, which is not the text of null. -/
theorem reads_fieldText (key : String) :
    Reads w fs [.text key] (fieldText fs key) (textOf fs key) :=
  reads_text w fs (writable_lookup_getD fs key)

/-- Here null, false, zero and the empty text all give the default. -/
theorem reads_fieldTextOr (key default : String) :
    Reads w fs [.text key] (fieldTextOr fs key default)
      ((Fields.get fs key).orElse (.text default)).plain :=
  reads_text w fs (writable_orElse _ _)

/-- The body that is read before it is turned and scaled. -/
def bodyOf (width height : α) : Body α :=
  .at ((Fields.get fs "x").scalarOr 0.0) ((Fields.get fs "y").scalarOr 0.0)
    ((Fields.get fs "width").scalarOr width) ((Fields.get fs "height").scalarOr height)

/-- A body as it is turned, scaled and seen. -/
def lookOf (b : Body α) : Body α :=
  { b with
    rotation := (Fields.get fs "rotation").scalarOr 0.0
    scaleX := (Fields.get fs "scaleX").scalarOr 1.0
    scaleY := (Fields.get fs "scaleY").scalarOr 1.0
    alpha := (Fields.get fs "alpha").scalarOr 1.0
    visible := fieldFlag fs "visible" }

/-- Four numbers, in this order. -/
theorem reads_readPlace (width height : α) :
    Reads w fs (placeReadings width height) (Workshop.readPlace fs width height)
      (bodyOf fs width height) := by
  unfold Workshop.readPlace
  exact (reads_fieldNumber w fs "x" 0.0).bind <| (reads_fieldNumber w fs "y" 0.0).bind <|
    (reads_fieldNumber w fs "width" width).bind <|
      (reads_fieldNumber w fs "height" height).bind <| reads_pure _

/-- Four more fields, read in order.  Turning and scaling are asked for only if they are
described, which makes no difference to what is read. -/
theorem reads_readLook (b : Body α) :
    Reads w fs lookReadings (Workshop.readLook fs b) (lookOf fs b) := by
  unfold Workshop.readLook
  exact (reads_fieldNumber w fs "rotation" 0.0).bind <|
    (reads_fieldNumber w fs "scaleX" 1.0).bind <| (reads_fieldNumber w fs "scaleY" 1.0).bind <|
      (reads_fieldNumber w fs "alpha" 1.0).bind <| reads_pure _

/-- An image that is named and not there is reported; a list or a mapping cannot be looked up
(`get_image` of a dictionary). -/
theorem reads_findImage :
    Reads w fs [.image] (w.findImage (Fields.get fs "assetId"))
      (w.imageOf? (Fields.get fs "assetId")) := by
  have hrun := w.run_findImage (Fields.get fs "assetId")
  refine reads_singleton (fun e he log => ?_) fun hnone log => ?_
  · dsimp only [Reading.offence?] at he
    split at he
    · next hcompound =>
      cases he
      exact ⟨log, (hrun log).trans (if_pos hcompound)⟩
    · next hcompound =>
      split at he
      · next hlong =>
        cases he
        exact ⟨log, (hrun log).trans ((if_neg hcompound).trans (if_pos hlong))⟩
      · cases he
  · dsimp only [Reading.offence?] at hnone
    split at hnone
    · cases hnone
    · next hcompound =>
      split at hnone
      · cases hnone
      · next hlong => exact (hrun log).trans ((if_neg hcompound).trans (if_neg hlong))

/-- The width of an outline, once it was read. -/
def strokeOf : Int := (Scalar.trunc? ((Fields.get fs "strokeWidth").scalarOr 1.0)).getD 0

/-- The width of an outline has to have a whole part, which comes after it was read as a
number.  A width that does not read falls back to one, which is finite; so the only offence is a
width that reads and is not finite. -/
theorem reads_outline (hone : Scalar.isFinite (1.0 : α) = true) :
    Reads w fs [.outline]
      (Act.ofExcept (Scalar.whole ((Fields.get fs "strokeWidth").scalarOr (1.0 : α))))
      (strokeOf fs) := by
  unfold strokeOf Scalar.whole Value.wholeOf
  have hoffence : Reading.outline.offence? w fs =
      match (Fields.get fs "strokeWidth").toScalar with
      | .ok x =>
        if Scalar.isFinite x then none
        else some (if Scalar.isUndefined x then .notANumber else .tooLarge)
      | .error _ => none := rfl
  generalize Fields.get fs "strokeWidth" = v at hoffence ⊢
  refine reads_singleton (fun e he => ?_) fun hnone log => ?_
  · rw [hoffence] at he
    unfold Value.scalarOr
    cases hx : v.toScalar with
    | error f => simp [hx] at he
    | ok x =>
      cases htrunc : Scalar.trunc? x with
      | some n => simp [hx, Scalar.isFinite, htrunc] at he
      | none =>
        obtain rfl : (if Scalar.isUndefined x then Fault.notANumber else .tooLarge) = e := by
          simpa [hx, Scalar.isFinite, htrunc] using he
        exact gives_ofExcept _
  · rw [hoffence] at hnone
    have hfinite : Scalar.isFinite (v.scalarOr (1.0 : α)) = true := by
      unfold Value.scalarOr
      cases hx : v.toScalar with
      | error f => exact hone
      | ok x => simpa [hx] using hnone
    obtain ⟨n, hn⟩ := Option.isSome_iff_exists.1 hfinite
    simp [hn, Reading.lines]

/-- The entity that is built of a description, if nothing ends the building. -/
def entityOf : EntityKind → Entity α
  | .sprite =>
    let image := w.imageOf? (Fields.get fs "assetId")
    { lookOf fs (Workshop.adoptSize (bodyOf fs 0.0 0.0) image) with
      color := Fields.get fs "color", form := .sprite image }
  | .button =>
    let action := ((Workshop.readClick fs).run #[]).1.toOption.join
    { lookOf fs (bodyOf fs 200.0 80.0) with
      color := (Fields.get fs "color").orElse (.text "#4a90e2")
      form := .button (textOf fs "text")
        ((Fields.get fs "textColor").orElse (.text "#ffffff"))
        ((Fields.get fs "font").orElse (.text "bold 32px Arial")).plain
        12 action (action.isSome && w.handlesActions) w.lettering }
  | .text =>
    { lookOf fs (bodyOf fs 0.0 0.0) with
      color := (Fields.get fs "color").orElse (.text "#ffffff")
      form := .text (textOf fs "content")
        ((Fields.get fs "font").orElse (.text Typeface.standard)).plain
        ((Fields.get fs "textAlign").orElse (.text "left")).plain w.lettering }
  | .shape =>
    { lookOf fs (bodyOf fs 100.0 100.0) with
      color := (Fields.get fs "color").orElse (.text "#ffffff")
      form := .shape ((Vocabulary.ofValue? (Fields.get fs "shape")).getD .rect)
        ((Fields.get fs "radius").scalarOr 50.0) (fieldFlag fs "fill") (strokeOf fs) }

omit [Scalar α] in
/-- An action is reported in two ways, and both need the text of what is described. -/
theorem gives_readClick_of_unwritten [Scalar α]
    (h : (Fields.get fs "onClick").clickUnwritten = true) :
    Gives (Workshop.readClick fs) (.error .notANumber) := by
  unfold Workshop.readClick
  generalize Fields.get fs "onClick" = v at h ⊢
  have hother := Value.clickUnwritten_of_not_map (v := v)
  cases v with
  | null => cases h
  | map action => exact (gives_choose_of_unknown _ _ _ (of_decide_eq_true h)).bind_error _
  | _ =>
    rw [hother nofun nofun, Bool.not_eq_true'] at h
    exact (gives_told_of_not h _).bind_error _

/-- An action that is none is reported, and the button has none.  The action has a type that is
known, a type that is not, or none; only the last two print something. -/
theorem exists_gives_readClick (h : (Fields.get fs "onClick").clickUnwritten = false) :
    ∃ action, Gives (Workshop.readClick fs) (.ok action) := by
  unfold Workshop.readClick
  generalize Fields.get fs "onClick" = v at h ⊢
  have hother := Value.clickUnwritten_of_not_map (v := v)
  cases v with
  | null => exact ⟨none, gives_pure _⟩
  | map action =>
    have hchoose := gives_choose "SceneConfig" "click action" (of_decide_eq_false h)
    show ∃ a, Gives (readAction (.map action)) (.ok a)
    unfold readAction
    cases hkind : (Vocabulary.ofValue? (Fields.get action "action") : Option ActionKind) with
    | some kind =>
      rw [hkind] at hchoose
      exact ⟨_, hchoose.bind (gives_pure _)⟩
    | none =>
      rw [hkind] at hchoose
      refine ⟨none, hchoose.bind ?_⟩
      dsimp only
      split
      · exact (gives_say _).bind (gives_pure _)
      · exact gives_pure _
  | _ =>
    rw [hother nofun nofun, Bool.not_eq_false'] at h
    exact ⟨none, gives_warn h _ _⟩

theorem reads_readClick : Reads w fs [.click] (Workshop.readClick fs)
    ((Workshop.readClick fs).run #[]).1.toOption.join := by
  cases hclick : (Fields.get fs "onClick").clickUnwritten with
  | true =>
    refine reads_singleton (fun e he => ?_) fun hnone => ?_
    · obtain rfl : Fault.notANumber = e := by simpa [Reading.offence?, hclick] using he
      exact gives_readClick_of_unwritten fs hclick
    · simp [Reading.offence?, hclick] at hnone
  | false =>
    obtain ⟨action, hgives⟩ := exists_gives_readClick fs hclick
    have hreports : Reports (Misdescribes fs) (Workshop.readClick fs) := Workshop.reports_readClick
    have hrun := run_of_gives hreports hgives
    refine reads_singleton (fun e he => ?_) fun _ log => ?_
    · simp [Reading.offence?, hclick] at he
    · rw [hrun, hrun]
      rfl

/-- An unknown form is reported, and is a rectangle. -/
theorem reads_shapeKind : Reads w fs [.shape]
    (Vocabulary.chooseOr "EntityFactory" "shape" ShapeKind.rect (Fields.get fs "shape"))
    ((Vocabulary.ofValue? (Fields.get fs "shape")).getD .rect) := by
  by_cases hshape : (Fields.get fs "shape").Unknown ShapeKind
  · refine reads_singleton (fun e he => ?_) fun hnone => ?_
    · obtain rfl : Fault.notANumber = e := by simpa [Reading.offence?, hshape] using he
      exact (gives_choose_of_unknown _ _ _ hshape).bind_error _
    · simp [Reading.offence?, hshape] at hnone
  · refine reads_singleton (fun e he => ?_) fun _ log => ?_
    · simp [Reading.offence?, hshape] at he
    · exact run_of_gives (reports_chooseOr (F := fun _ => True) (fun _ => trivial) _ _ _)
        (gives_chooseOr _ _ _ hshape) log

/-- **A builder goes through its readings.** Each kind is the chain of its readings in the order
in which the builder asks for them, which the list `readings` repeats. -/
theorem reads_buildKind (hone : Scalar.isFinite (1.0 : α) = true) (kind : EntityKind) :
    Reads w fs (readings kind) (w.buildKind fs kind) (entityOf w fs kind) := by
  cases kind with
  | sprite =>
    unfold Workshop.buildKind Workshop.buildSprite
    rw [readings, List.append_assoc]
    exact (reads_readPlace w fs 0.0 0.0).bind <| (reads_findImage w fs).bind <|
      (reads_readLook w fs _).bind_pure _
  | button =>
    unfold Workshop.buildKind Workshop.buildButton
    rw [readings, List.append_assoc, List.append_assoc]
    exact (reads_readPlace w fs 200.0 80.0).bind <| (reads_fieldText w fs "text").bind <|
      (reads_fieldTextOr w fs "font" _).bind <| (reads_readLook w fs _).bind <|
        (reads_readClick w fs).bind_pure _
  | text =>
    unfold Workshop.buildKind Workshop.buildText
    rw [readings, List.append_assoc]
    exact (reads_readPlace w fs 0.0 0.0).bind <| (reads_fieldText w fs "content").bind <|
      (reads_fieldTextOr w fs "font" _).bind <| (reads_fieldTextOr w fs "textAlign" _).bind <|
        (reads_readLook w fs _).bind_pure _
  | shape =>
    unfold Workshop.buildKind Workshop.buildShape
    rw [readings, List.append_assoc, List.append_assoc]
    exact (reads_shapeKind w fs).bind <| (reads_readPlace w fs 100.0 100.0).bind <|
      (reads_fieldNumber w fs "radius" 50.0).bind <|
        (reads_fieldNumber w fs "strokeWidth" 1.0).bind <| (reads_outline w fs hone).bind <|
          (reads_readLook w fs _).bind_pure _

end Builders

/-! ## 3. The outcome

What the list of readings comes to, said of the description: the entity field by field, and each
reason why there can be none. -/

/-- What an entity of a kind has of its description.  A number that cannot be read is the default
of the kind; only a sprite of no size takes another, that of its image. -/
structure Describes (w : Workshop) (fs : Fields α) (kind : EntityKind) (e : Entity α) : Prop where
  x : e.x = (Fields.get fs "x").scalarOr 0.0
  y : e.y = (Fields.get fs "y").scalarOr 0.0
  rotation : e.rotation = (Fields.get fs "rotation").scalarOr 0.0
  scaleX : e.scaleX = (Fields.get fs "scaleX").scalarOr 1.0
  scaleY : e.scaleY = (Fields.get fs "scaleY").scalarOr 1.0
  alpha : e.alpha = (Fields.get fs "alpha").scalarOr 1.0
  form : match kind with
    | .sprite =>
      let width := (Fields.get fs "width").scalarOr 0.0
      let height := (Fields.get fs "height").scalarOr 0.0
      e.form = .sprite (w.imageOf? (Fields.get fs "assetId")) ∧
      (e.width, e.height) = match w.imageOf? (Fields.get fs "assetId") with
        | some s =>
          if Scalar.isZero width && Scalar.isZero height then
            (Scalar.ofInt s.width, Scalar.ofInt s.height)
          else (width, height)
        | none => (width, height)
    | .button => (∃ text ink font corner action clickable owner,
        e.form = .button text ink font corner action clickable owner) ∧
      e.width = (Fields.get fs "width").scalarOr 200.0 ∧
      e.height = (Fields.get fs "height").scalarOr 80.0
    | .text => (∃ content font align owner, e.form = .text content font align owner) ∧
      e.width = (Fields.get fs "width").scalarOr 0.0 ∧
      e.height = (Fields.get fs "height").scalarOr 0.0
    | .shape => (∃ kind filled stroke,
        e.form = .shape kind ((Fields.get fs "radius").scalarOr 50.0) filled stroke ∧
        Scalar.trunc? ((Fields.get fs "strokeWidth").scalarOr (1.0 : α)) = some stroke) ∧
      e.width = (Fields.get fs "width").scalarOr 100.0 ∧
      e.height = (Fields.get fs "height").scalarOr 100.0

/-- A value is of no use where it is needed: a number is out of range, the width of an outline is not
finite, or an image is named by a list or a mapping. -/
def Unusable (w : Workshop) (fs : Fields α) (kind : EntityKind) : Prop :=
  (∃ key ∈ numberFields kind, (Fields.get fs key).Huge) ∨
  (kind = .shape ∧ ∃ x, (Fields.get fs "strokeWidth").toScalar = .ok x ∧
    Scalar.isFinite x = false) ∨
  (kind = .sprite ∧ w.image?.isSome = true ∧ (Fields.get fs "assetId").isCompound = true)

/-- The fields of a description that become texts. -/
def textFields : EntityKind → List String
  | .button => ["text", "font"]
  | .text => ["content", "font", "textAlign"]
  | .sprite | .shape => []

/-- A text is asked for that a value does not have: the value becomes a text of the entity, or it is
shown in a line of the log. -/
inductive Unwritten (w : Workshop) (fs : Fields α) : EntityKind → Prop where
  | field {kind : EntityKind} {key : String} (hkey : key ∈ textFields kind)
      (h : (Fields.get fs key).writable = false) : Unwritten w fs kind
  | number {kind : EntityKind} {key : String} (hkey : key ∈ numberFields kind)
      (hunread : (Fields.get fs key).unread = true)
      (h : (Fields.get fs key).writable = false) : Unwritten w fs kind
  | image (hlacks : w.lacks (Fields.get fs "assetId") = true)
      (h : (Fields.get fs "assetId").writable = false) : Unwritten w fs .sprite
  | shape (h : (Fields.get fs "shape").Unknown ShapeKind) : Unwritten w fs .shape
  | click (h : (Fields.get fs "onClick").clickUnwritten = true) : Unwritten w fs .button

/-- Why no entity of a kind can be built of a description. -/
def Unbuildable (w : Workshop) (fs : Fields α) (kind : EntityKind) : Prop :=
  Unusable w fs kind ∨ Unwritten w fs kind

section Outcome

variable (w : Workshop) (fs : Fields α)

omit [Scalar α] in
/-- Only the four words are kinds of entities. -/
theorem kindOf?_eq_some {fs : Fields α} {kind : EntityKind} :
    kindOf? fs = some kind ↔ Fields.get fs "type" = .text (Vocabulary.word kind) := by
  unfold kindOf?
  cases Fields.get fs "type" with
  | text word =>
    rw [Value.text.injEq]
    constructor
    · intro h
      exact (by simpa using List.find?_some h : Vocabulary.word kind = word).symm
    · rintro rfl
      cases kind <;> rfl
  | _ => simp [Vocabulary.ofValue?]

/-- The field that a reading takes a number from. -/
def Reading.key? : Reading α → Option String
  | .number key _ => some key
  | _ => none

/-- The fields that are read as numbers are the fields that are numbers. -/
theorem perm_numberFields (kind : EntityKind) :
    ((readings kind : List (Reading α)).filterMap Reading.key?).Perm (numberFields kind) := by
  cases kind with
  | shape =>
    have h : ["x", "y", "width", "height", "radius", "strokeWidth", "rotation", "scaleX", "scaleY",
      "alpha"].Perm (numberFields .shape) := by decide
    exact h
  | _ => exact .refl _

/-- The numbers of a kind are those that its builder reads, and nothing else. -/
theorem mem_numberFields_iff {kind : EntityKind} {key : String} :
    key ∈ numberFields kind ↔ ∃ default : α, .number key default ∈ readings kind := by
  rw [← (perm_numberFields (α := α) kind).mem_iff, List.mem_filterMap]
  constructor
  · rintro ⟨r, hr, hkey⟩
    cases r with
    | number k default =>
      obtain rfl : k = key := Option.some.inj hkey
      exact ⟨default, hr⟩
    | _ => cases hkey
  · rintro ⟨default, h⟩
    exact ⟨_, h, rfl⟩

theorem outline_mem_readings {kind : EntityKind} :
    (.outline : Reading α) ∈ readings kind ↔ kind = .shape := by
  cases kind <;> simp [readings, placeReadings, lookReadings]

theorem image_mem_readings {kind : EntityKind} :
    (.image : Reading α) ∈ readings kind ↔ kind = .sprite := by
  cases kind <;> simp [readings, placeReadings, lookReadings]

theorem shape_mem_readings {kind : EntityKind} :
    (.shape : Reading α) ∈ readings kind ↔ kind = .shape := by
  cases kind <;> simp [readings, placeReadings, lookReadings]

theorem click_mem_readings {kind : EntityKind} :
    (.click : Reading α) ∈ readings kind ↔ kind = .button := by
  cases kind <;> simp [readings, placeReadings, lookReadings]

theorem text_mem_readings {kind : EntityKind} {key : String} :
    (.text key : Reading α) ∈ readings kind ↔ key ∈ textFields kind := by
  cases kind <;> simp [readings, placeReadings, lookReadings, textFields]

theorem offence?_number_eq_none (key : String) (default : α) :
    (Reading.number key default).offence? w fs = none ↔ NumberFits (Fields.get fs key) :=
  Value.numberOffence?_eq_none

theorem offence?_outline_eq_none :
    (Reading.outline.offence? w fs) = none ↔
      ¬ ∃ x, (Fields.get fs "strokeWidth").toScalar = .ok x ∧ Scalar.isFinite x = false := by
  unfold Reading.offence?
  cases (Fields.get fs "strokeWidth").toScalar <;> simp

theorem offence?_image_eq_none :
    (Reading.image.offence? w fs) = none ↔
      ¬ (w.image?.isSome = true ∧ (Fields.get fs "assetId").isCompound = true) ∧
      ¬ (w.lacks (Fields.get fs "assetId") = true ∧
        (Fields.get fs "assetId").writable = false) := by
  unfold Reading.offence?
  dsimp only
  rw [← Bool.and_eq_true, ← Bool.not_eq_true', ← Bool.and_eq_true]
  split
  · next h => simp [h]
  · next h =>
    split
    · next hlong => simp [hlong]
    · next hlong => exact iff_of_true rfl ⟨h, hlong⟩

theorem offence?_shape_eq_none :
    (Reading.shape.offence? w fs) = none ↔ ¬ (Fields.get fs "shape").Unknown ShapeKind := by
  simp [Reading.offence?]

theorem offence?_click_eq_none :
    (Reading.click.offence? w fs) = none ↔ ¬ (Fields.get fs "onClick").clickUnwritten = true := by
  simp [Reading.offence?]

theorem offence?_text_eq_none (key : String) :
    ((Reading.text key).offence? w fs) = none ↔ ¬ (Fields.get fs key).writable = false := by
  simp [Reading.offence?]

/-- A reading that ends the building is a reason.  One case for each sort of reading, with the
lemma that says when this sort is no offence. -/
theorem unbuildable_of_offence {kind : EntityKind} {r : Reading α} (hr : r ∈ readings kind)
    (h : r.offence? w fs ≠ none) : Unbuildable w fs kind := by
  cases r with
  | number key default =>
    have hkey : key ∈ numberFields kind := mem_numberFields_iff.2 ⟨default, hr⟩
    rw [Ne, offence?_number_eq_none] at h
    rcases number_cases (Fields.get fs key) with hfits | ⟨e, hhuge | ⟨hunread, hlong⟩⟩
    · exact (h hfits).elim
    · exact .inl (.inl ⟨key, hkey, hhuge⟩)
    · exact .inr (.number hkey hunread hlong)
  | outline =>
    rw [Ne, offence?_outline_eq_none, not_not] at h
    exact .inl (.inr (.inl ⟨outline_mem_readings.1 hr, h⟩))
  | image =>
    obtain rfl := image_mem_readings.1 hr
    rw [Ne, offence?_image_eq_none, Classical.not_and_iff_not_or_not, not_not, not_not] at h
    exact h.imp (fun h => .inr (.inr ⟨rfl, h⟩)) fun h => .image h.1 h.2
  | shape =>
    obtain rfl := shape_mem_readings.1 hr
    rw [Ne, offence?_shape_eq_none, not_not] at h
    exact .inr (.shape h)
  | click =>
    obtain rfl := click_mem_readings.1 hr
    rw [Ne, offence?_click_eq_none, not_not] at h
    exact .inr (.click h)
  | text key =>
    rw [Ne, offence?_text_eq_none, not_not] at h
    exact .inr (.field (text_mem_readings.1 hr) h)

/-- No reading ends the building exactly if there is no reason.  One way every reason is turned
into the reading that meets it; the other way is `unbuildable_of_offence`. -/
theorem findSome?_offence?_eq_none (kind : EntityKind) :
    ((readings kind).findSome? (Reading.offence? w fs) = none) ↔ ¬ Unbuildable w fs kind := by
  rw [List.findSome?_eq_none_iff]
  constructor
  -- the reasons in the order of `Unbuildable`: no number, no whole width, no key, no text
  · rintro h ((⟨key, hkey, hhuge⟩ | ⟨rfl, hinfinite⟩ | ⟨rfl, himage⟩) | hunwritten)
    · obtain ⟨default, hmem⟩ := (mem_numberFields_iff (α := α)).1 hkey
      exact ((offence?_number_eq_none w fs key default).1 (h _ hmem)).1 hhuge
    · exact (offence?_outline_eq_none w fs).1 (h .outline (outline_mem_readings.2 rfl)) hinfinite
    · exact ((offence?_image_eq_none w fs).1 (h .image (image_mem_readings.2 rfl))).1 himage
    · cases hunwritten with
      | field hkey hlong =>
        exact (offence?_text_eq_none w fs _).1 (h _ (text_mem_readings.2 hkey)) hlong
      | number hkey hunread hlong =>
        obtain ⟨default, hmem⟩ := (mem_numberFields_iff (α := α)).1 hkey
        have hfits := (offence?_number_eq_none w fs _ default).1 (h _ hmem)
        cases (hfits.2 hunread).symm.trans hlong
      | image hlacks hlong =>
        exact ((offence?_image_eq_none w fs).1 (h .image (image_mem_readings.2 rfl))).2
          ⟨hlacks, hlong⟩
      | shape hshape =>
        exact (offence?_shape_eq_none w fs).1 (h .shape (shape_mem_readings.2 rfl)) hshape
      | click hclick =>
        exact (offence?_click_eq_none w fs).1 (h .click (click_mem_readings.2 rfl)) hclick
  · intro h r hr
    by_contra hoffence
    exact h (unbuildable_of_offence w fs hr hoffence)

@[simp] theorem adoptSize_x (b : Body α) (image : Option Surface) :
    (Workshop.adoptSize b image).x = b.x := by
  cases image with
  | none => rfl
  | some s => unfold Workshop.adoptSize; dsimp only; split <;> rfl

@[simp] theorem adoptSize_y (b : Body α) (image : Option Surface) :
    (Workshop.adoptSize b image).y = b.y := by
  cases image with
  | none => rfl
  | some s => unfold Workshop.adoptSize; dsimp only; split <;> rfl

/-- The entity that the readings give is what the description says, field by field.  All but two
fields agree by computation.  The size of a sprite is that of its image where none is given, and
the stroke of a shape is a whole number because its width is not a reason. -/
theorem describes_entityOf {kind : EntityKind} (h : ¬ Unbuildable w fs kind)
    (hone : Scalar.isFinite (1.0 : α) = true) : Describes w fs kind (entityOf w fs kind) := by
  cases kind with
  | sprite =>
    refine ⟨adoptSize_x _ _, adoptSize_y _ _, rfl, rfl, rfl, rfl, rfl, ?_⟩
    unfold entityOf
    generalize w.imageOf? (Fields.get fs "assetId") = image
    cases image with
    | none => rfl
    | some s =>
      dsimp only [Workshop.adoptSize, lookOf, bodyOf, Body.at]
      split <;> rfl
  | button => exact ⟨rfl, rfl, rfl, rfl, rfl, rfl, ⟨_, _, _, _, _, _, _, rfl⟩, rfl, rfl⟩
  | text => exact ⟨rfl, rfl, rfl, rfl, rfl, rfl, ⟨_, _, _, _, rfl⟩, rfl, rfl⟩
  | shape =>
    refine ⟨rfl, rfl, rfl, rfl, rfl, rfl, ⟨_, _, _, rfl, ?_⟩, rfl, rfl⟩
    have hfinite : Scalar.isFinite ((Fields.get fs "strokeWidth").scalarOr (1.0 : α)) = true := by
      unfold Value.scalarOr
      cases hx : (Fields.get fs "strokeWidth").toScalar with
      | error e => exact hone
      | ok x =>
        by_contra hinfinite
        exact h (.inl (.inr (.inl ⟨rfl, x, hx, by simpa using hinfinite⟩)))
    obtain ⟨n, hn⟩ := Option.isSome_iff_exists.1 hfinite
    rw [strokeOf, hn, Option.getD_some]

/-! ## 4. The lines about numbers

The line that a value is no number has a form of its own, which none of the other lines of a
builder has.  So counting these lines counts the values. -/

/-- No line is about a value that is no number. -/
def Unreported (log : Log) : Prop := ∀ line ∈ log, isNumberReport line = false

theorem keeps_say {line : String} (h : isNumberReport line = false) :
    (say line).Keeps Unreported := by
  intro log hlog l hl
  have hl : l ∈ log.push line := hl
  rw [Array.mem_push] at hl
  rcases hl with hl | rfl
  · exact hlog l hl
  · exact h

/-- The line about an unknown word is none about a number. -/
theorem keeps_choose {κ : Type} [Vocabulary κ] {reporter : String}
    (h : ∀ rest, isNumberReport ("[" ++ (reporter ++ ("] Warning: unknown " ++ rest))) = false)
    (what : String) (default : Option κ) (c : Choice α κ) :
    (Vocabulary.choose reporter what default c).Keeps Unreported := by
  unfold Vocabulary.choose
  split
  · exact keeps_pure _
  · exact keeps_pure _
  · split
    · exact keeps_pure _
    · refine keeps_bind (keeps_ofExcept _) fun _ => keeps_bind (keeps_say ?_) fun _ => keeps_pure _
      simp only [String.append_assoc, h]

theorem keeps_warn {line : String} : (warn line).Keeps Unreported :=
  keeps_say (by simp [isNumberReport, String.toList_append, List.isPrefixOf])

theorem keeps_readClick : (Workshop.readClick fs).Keeps Unreported := by
  unfold Workshop.readClick readAction
  refine keeps_ite (fun _ => keeps_pure _) fun _ => ?_
  split
  · refine keeps_bind (keeps_choose (fun rest => ?_) _ _ _) fun kind => ?_
    · simp [isNumberReport, String.toList_append, List.isPrefixOf]
    · split
      · split
        · exact keeps_bind keeps_warn fun _ => keeps_pure _
        · exact keeps_pure _
      · exact keeps_pure _
  · exact keeps_bind (keeps_ofExcept _) fun _ => keeps_bind keeps_warn fun _ => keeps_pure _

/-- An act that prints no such line leaves none in the log. -/
theorem filter_printed {β : Type} {x : Act Log β} (h : x.Keeps Unreported) :
    (printed x).filter isNumberReport = [] := by
  rw [List.filter_eq_nil_iff]
  intro line hline
  have hnew : Unreported (x.after #[]) := h #[] fun _ hl => (Array.not_mem_empty _ hl).elim
  rw [hnew line (Array.mem_toList_iff.1 hline)]
  decide

omit [Scalar α] in
theorem isNumberReport_append (line : String) :
    isNumberReport ("[EntityFactory] Warning: '" ++ line) = true := by
  rw [isNumberReport, List.isPrefixOf_iff_prefix, String.toList_append]
  exact List.prefix_append _ _

theorem numberReport_eq (key : String) (v : Value α) : numberReport key v =
    "[EntityFactory] Warning: '" ++ (key ++ ("' is not a number: " ++ v.quoted)) := by
  unfold numberReport
  rw [String.append_assoc, String.append_assoc]

theorem isNumberReport_numberReport (key : String) (v : Value α) :
    isNumberReport (numberReport key v) = true :=
  (congrArg isNumberReport (numberReport_eq key v)).trans (isNumberReport_append _)

/-- Of the lines of a reading, the one about a number is there exactly if the value was no number.
-/
theorem filter_lines (r : Reading α) :
    (r.lines w fs).filter isNumberReport = (r.key?.bind fun key =>
      if (Fields.get fs key).unread then some (numberReport key (Fields.get fs key))
      else none).toList := by
  cases r with
  | number key default =>
    simp only [Reading.lines, Reading.key?, Option.bind_some]
    cases (Fields.get fs key).unread with
    | true =>
      simp only [reduceIte, List.filter_cons, isNumberReport_numberReport, List.filter_nil,
        Option.toList_some]
    | false => rfl
  | outline => rfl
  | image =>
    simp only [Reading.lines, Reading.key?, Option.bind_none]
    cases w.lacks (Fields.get fs "assetId") with
    | true => simp [isNumberReport, String.toList_append]
    | false => rfl
  | text => rfl
  | shape =>
    refine filter_printed (keeps_bind (keeps_choose (fun rest => ?_) _ _ _) fun _ => keeps_pure _)
    simp [isNumberReport, String.toList_append, List.isPrefixOf]
  | click => exact filter_printed (keeps_readClick fs)

/-- The values that no number can be read from are reported, each of them once, and no other line is
such a report. -/
theorem filter_isNumberReport (kind : EntityKind) :
    (((readings kind).flatMap (Reading.lines w fs)).filter isNumberReport).Perm
      (((numberFields kind).filter fun key => (Fields.get fs key).unread).map
        fun key => numberReport key (Fields.get fs key)) := by
  rw [List.filter_flatMap, List.flatMap_congr fun r _ => filter_lines w fs r,
    ← List.filterMap_eq_flatMap_toList, ← List.filterMap_filterMap]
  refine ((perm_numberFields kind).filterMap _).trans (.of_eq ?_)
  rw [← List.filterMap_eq_map, List.filterMap_filter]
  rfl
end Outcome

/-! ## 5. Building

The builders have this outcome, by cases on the kind of entity. -/

namespace Workshop

/-- What the line about a description of no known type shows: the type, or all of the description if
it has none. -/
def untyped (fs : Fields α) : Value α :=
  if (Fields.get fs "type").isNull then .map fs else Fields.get fs "type"

/-- A description of no known type is left out, if the line that says so can be printed.  The two
lines differ: a missing type is reported with the whole description, an unknown one with the type
alone.  The text that decides is `untyped`. -/
theorem gives_build_of_untyped (w : Workshop) {fs : Fields α} (hkind : kindOf? fs = none) :
    Gives (w.build fs) (if (untyped fs).writable then .ok none else .error .notANumber) := by
  have hnone : (Vocabulary.ofValue? (Fields.get fs "type") : Option EntityKind) = none := hkind
  unfold build untyped
  cases hnull : (Fields.get fs "type").isNull with
  | true =>
    have hchoose := gives_choose (κ := EntityKind) "EntityFactory" "entity type"
      (v := Fields.get fs "type") fun h => h.1 (Value.isNull_iff.1 hnull)
    rw [hnone] at hchoose
    refine hchoose.bind ?_
    dsimp only
    rw [if_pos hnull, if_pos rfl]
    cases hlong : (Value.map fs).writable with
    | true => exact (gives_pure none).tell hlong _ fun text =>
        "[EntityFactory] Warning: entity without a type: " ++ text
    | false => exact (gives_told_of_not hlong _).bind_error _
  | false =>
    have hpresent : Fields.get fs "type" ≠ .null := fun h => by
      cases hnull.symm.trans (Value.isNull_iff.2 h)
    cases hlong : (Fields.get fs "type").writable with
    | true =>
      have hchoose := gives_choose (κ := EntityKind) "EntityFactory" "entity type"
        (v := Fields.get fs "type") fun h => by cases hlong.symm.trans h.2.2
      rw [hnone] at hchoose
      refine hchoose.bind ?_
      dsimp only
      rw [hnull]
      simpa [hlong] using gives_pure none
    | false =>
      have hchoose := gives_choose_of_unknown (κ := EntityKind) "EntityFactory" "entity type" none
        ⟨hpresent, hnone, hlong⟩
      simpa [hlong] using hchoose.bind_error _

/-- **What comes of a description.**  Nothing is built exactly if the type is none of the four
words and that can be printed.  If the type is one of them, the building ends with a fault exactly
if there is a reason (`Unbuildable`): a number is out of range, the width of an outline is not
finite, an image is named by a list or a mapping, or a text that is asked for cannot be written.
The fault is that of the first reading that ends the building.  If there is none, the entity has
every number as it is described, or its default, and the values that no number can be read from are
reported once each. -/
theorem build_of_description (hone : Scalar.isFinite (1.0 : α) = true) (w : Workshop)
    (fs : Fields α) (log : Log) :
    ((∃ log', (w.build fs).run log = (.ok none, log')) ↔
      (∀ kind : EntityKind, Fields.get fs "type" ≠ .text (Vocabulary.word kind)) ∧
        (untyped fs).writable = true) ∧
    ((∀ kind : EntityKind, Fields.get fs "type" ≠ .text (Vocabulary.word kind)) →
      (untyped fs).writable = false → ∃ log', (w.build fs).run log = (.error .notANumber, log')) ∧
    ∀ kind : EntityKind, Fields.get fs "type" = .text (Vocabulary.word kind) →
      ((∃ e log', (w.build fs).run log = (.error e, log')) ↔ Unbuildable w fs kind) ∧
      (∀ e, (∃ log', (w.build fs).run log = (.error e, log')) ↔
        (readings kind).findSome? (Reading.offence? w fs) = some e) ∧
      (¬ Unbuildable w fs kind → ∃ (e : Entity α) (lines : List String),
        (w.build fs).run log = (.ok (some e), log ++ lines.toArray) ∧ Describes w fs kind e ∧
        (lines.filter isNumberReport).Perm
          (((numberFields kind).filter fun key => (Fields.get fs key).unread).map
            fun key => numberReport key (Fields.get fs key))) := by
  have huntyped (h : ∀ kind : EntityKind, Fields.get fs "type" ≠ .text (Vocabulary.word kind)) :=
    gives_build_of_untyped w (Option.eq_none_iff_forall_ne_some.2 fun kind hkind =>
      h kind (kindOf?_eq_some.1 hkind))
  have hbuild {kind : EntityKind} (hkind : kindOf? fs = some kind) :
      match (readings kind).findSome? (Reading.offence? w fs) with
      | some e => ∃ log', (w.build fs).run log = (.error e, log')
      | none => (w.build fs).run log = (.ok (some (entityOf w fs kind)),
          log ++ ((readings kind).flatMap (Reading.lines w fs)).toArray) := by
    have hreads := reads_buildKind w fs hone kind
    unfold Reads at hreads
    rw [build_of_kind w hkind, run_map]
    split at hreads
    · obtain ⟨log', hrun⟩ := hreads log
      exact ⟨log', by rw [hrun]; rfl⟩
    · rw [hreads log]
      rfl
  refine ⟨⟨?_, ?_⟩, fun h hlong => ?_, ?_⟩
  · rintro ⟨log', hrun⟩
    have htype (kind : EntityKind) : Fields.get fs "type" ≠ .text (Vocabulary.word kind) := by
      intro hkind
      have hoffence := hbuild (kindOf?_eq_some.2 hkind)
      split at hoffence
      · obtain ⟨log'', hrun'⟩ := hoffence
        cases hrun.symm.trans hrun'
      · cases hrun.symm.trans hoffence
    refine ⟨htype, ?_⟩
    have hresult := (huntyped htype).eq hrun
    cases hlong : (untyped fs).writable with
    | true => rfl
    | false => simp [hlong] at hresult
  · rintro ⟨h, hwritable⟩
    simpa [hwritable] using huntyped h log
  · simpa [hlong] using huntyped h log
  · intro kind hkind
    have hoffence := hbuild (kindOf?_eq_some.2 hkind)
    have hnone := findSome?_offence?_eq_none w fs kind
    cases hfirst : (readings kind).findSome? (Reading.offence? w fs) with
    | some e =>
      rw [hfirst] at hoffence hnone
      obtain ⟨log', hrun⟩ := hoffence
      have hreason : Unbuildable w fs kind := by simpa using hnone
      refine ⟨⟨fun _ => hreason, fun _ => ⟨e, log', hrun⟩⟩, fun e' => ⟨?_, ?_⟩,
        fun h => (h hreason).elim⟩
      · rintro ⟨log'', hrun'⟩
        cases hrun.symm.trans hrun'
        rfl
      · rintro ⟨⟩
        exact ⟨log', hrun⟩
    | none =>
      rw [hfirst] at hoffence
      have hreason : ¬ Unbuildable w fs kind := hnone.1 hfirst
      refine ⟨⟨?_, fun h => (hreason h).elim⟩, fun e' => ⟨?_, nofun⟩, fun _ => ?_⟩
      · rintro ⟨e, log', hrun⟩
        cases hrun.symm.trans hoffence
      · rintro ⟨log', hrun⟩
        cases hrun.symm.trans hoffence
      · exact ⟨_, _, hoffence, describes_entityOf w fs hreason hone,
          filter_isNumberReport w fs kind⟩

/-- A plank whose place is a word. -/
def plank : Fields Rat :=
  [(.text "type", .text "shape"), (.text "x", .text "wide"), (.text "width", .int 30)]

/-- It is as wide as described, at the default place, with one line about that. -/
theorem build_of_description_plank : letI := Scalar.exact (fun x => x) 57
    Scalar.isFinite (1.0 : Rat) = true ∧ ∃ (e : Entity Rat) (lines : List String),
      (({} : Workshop).build plank).run #[] = (.ok (some e), lines.toArray) ∧
      e.x = 0 ∧ e.width = 30 ∧
      lines.filter isNumberReport = ["[EntityFactory] Warning: 'x' is not a number: 'wide'"] := by
  let _ := Scalar.exact (fun x => x) 57
  have hone : Scalar.isFinite (1.0 : Rat) = true := rfl
  have hbuildable : ¬ Unbuildable ({} : Workshop) plank .shape :=
    (findSome?_offence?_eq_none {} plank .shape).1 rfl
  obtain ⟨e, lines, hrun, hfields, hlines⟩ :=
    ((build_of_description hone {} plank #[]).2.2 .shape rfl).2.2 hbuildable
  refine ⟨hone, e, lines, by simpa using hrun, ?_, ?_, ?_⟩
  · rw [hfields.x]
    decide +kernel
  · obtain ⟨-, hwidth, -⟩ := hfields.form
    rw [hwidth]
    decide +kernel
  · exact List.perm_singleton.1 hlines

/-- A line of text that is an integer of more than 4300 digits. -/
def ledger : Fields Rat := [(.text "type", .text "text"), (.text "content", .int (Int.pow 10 5000))]

/-- **Every value of the description is of use, and still nothing can be built of it**: the integer
has no text (`str` raises `ValueError`). -/
theorem build_refuses_long_content : letI := Scalar.exact (fun x => x) 57
    Fields.get ledger "type" = .text "text" ∧ ¬ Unusable ({} : Workshop) ledger .text ∧
      ∃ log : Log, (({} : Workshop).build ledger).run #[] = (.error .notANumber, log) := by
  let _ := Scalar.exact (fun x => x) 57
  refine ⟨rfl, ?_, ?_⟩
  · rintro (⟨key, hkey, n, hn, -⟩ | ⟨hkind, -⟩ | ⟨hkind, -⟩)
    · have hnull : ∀ key ∈ numberFields .text, (Fields.get ledger key).isNull = true := by decide
      have hpresent := hnull key hkey
      rw [hn] at hpresent
      cases hpresent
    · cases hkind
    · cases hkind
  · have hkind : kindOf? ledger = some .text := rfl
    have hfirst : (readings .text).findSome? (Reading.offence? {} ledger) = some .notANumber := by
      decide +kernel
    have hreads := reads_buildKind ({} : Workshop) ledger rfl .text
    unfold Reads at hreads
    rw [hfirst] at hreads
    obtain ⟨log, hrun⟩ := hreads #[]
    exact ⟨log, by rw [build_of_kind _ hkind, run_map, hrun]; rfl⟩

end Workshop

end Diorama
