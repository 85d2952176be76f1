/-
# Which documents are accepted

`parse_scene_config` refuses a document for few reasons.  Some are about its structure: it is no
mapping, its states are no list, a state is no mapping or has no name (`SceneConfigError`).  Some
are about its numbers: a side of the canvas is no finite number, or the time of a timer is an
integer that no scalar is near to.  And some are about its texts: whatever is printed or becomes a
name has to be written, and a whole number of more than 4300 digits cannot be (`str` and `repr`
raise `ValueError`).

`FirstFault` says which of these is reported: the first in the order of reading.  Every other
mistake is answered by a default or by leaving something out, and `Acceptable` is what is left.
`readScene_accepts` proves that the two divide the documents between them, and that a document
that is accepted has one state for each item of its list, in the same order (`ReadsAs`).

`readScene_refuses_long_name` is a document that has the structure and the numbers of a scene and
is refused all the same, for the length of a name.
-/
import Diorama.Proofs.Reports
import Mathlib.Data.List.Forall2

namespace Diorama

open Act

variable {α : Type} [Scalar α]

/-! ## 1. The canvas

`_as_float` turns a side into a scalar and `int` cuts off its fraction.  So a side has two chances
to fail: as a number (`NumberFault`), and as a number that has no whole part. -/

/-- A side of the canvas can be made from the value: whatever number it stands for is finite. -/
def SideFits (v : Value α) : Prop :=
  NumberFits v ∧ ∀ x, v.toScalar = .ok x → Scalar.isFinite x = true

/-- Why no side can be made. -/
inductive SideFault (v : Value α) : Fault → Prop where
  | number {e : Fault} (h : NumberFault v e) : SideFault v e
  | infinite {x : α} (hx : v.toScalar = .ok x) (h : Scalar.isFinite x = false)
      (hdefined : Scalar.isUndefined x = false) : SideFault v .tooLarge
  | undefined {x : α} (hx : v.toScalar = .ok x) (h : Scalar.isFinite x = false)
      (hundefined : Scalar.isUndefined x = true) : SideFault v .notANumber

/-- The whole part of the number that a value stands for, or the default. -/
def Value.wholeOr (default : Int) (v : Value α) : Int :=
  match v.toScalar with
  | .ok x => (Scalar.trunc? x).getD default
  | .error _ => default

/-- A side fits, or there is a reason why not. -/
theorem side_cases (v : Value α) : SideFits v ∨ ∃ e, SideFault v e := by
  rcases number_cases v with hnumber | ⟨e, h⟩
  · cases hx : v.toScalar with
    | error e => exact .inl ⟨hnumber, fun x h => by rw [hx] at h; cases h⟩
    | ok x =>
      cases hfinite : Scalar.isFinite x with
      | true =>
        refine .inl ⟨hnumber, fun y hy => ?_⟩
        rw [hx] at hy
        cases hy
        exact hfinite
      | false =>
        cases hdefined : Scalar.isUndefined x with
        | true => exact .inr ⟨_, .undefined hx hfinite hdefined⟩
        | false => exact .inr ⟨_, .infinite hx hfinite hdefined⟩
  · exact .inr ⟨e, .number h⟩

/-- What is not finite has no whole part: infinities are too large, and the rest is no number. -/
theorem whole_of_not_finite {x : α} (h : Scalar.isFinite x = false) : Scalar.whole x =
    .error (if Scalar.isUndefined x then .notANumber else .tooLarge) := by
  unfold Scalar.isFinite at h
  unfold Scalar.whole Value.wholeOf
  rw [Option.isSome_eq_false_iff.1 h |> Option.isNone_iff_eq_none.1]

/-- A value that stands for a number is read as that number, without a line. -/
theorem gives_readNumber_of_toScalar (what : String) (default : α) {v : Value α} {x : α}
    (hx : v.toScalar = .ok x) : Gives (readNumber what default v) (.ok x) := by
  have hfits : NumberFits v := by
    refine ⟨fun h => ?_, fun h => ?_⟩
    · rw [Value.toScalar_eq_tooLarge.2 h] at hx
      cases hx
    · rw [Value.unread, hx, Bool.and_false] at h
      cases h
  have hgives := gives_numberOr
    (fun text => "[SceneConfig] Warning: " ++ (what ++ " is not a number: " ++ text)) default hfits
  rwa [Value.scalarOr, hx] at hgives

/-- A side that does not fit ends the reading with its own fault. -/
theorem gives_readSide_of_fault (what : String) (default : Int) {v : Value α} {e : Fault}
    (h : SideFault v e) : Gives (readSide what default v) (.error e) := by
  unfold readSide
  cases h with
  | number h => exact (gives_numberOr_of_fault _ _ h).bind_error _
  | infinite hx hfinite hdefined =>
    refine (gives_readNumber_of_toScalar _ _ hx).bind ?_
    rw [whole_of_not_finite hfinite, hdefined]
    exact gives_ofExcept _
  | undefined hx hfinite hundefined =>
    refine (gives_readNumber_of_toScalar _ _ hx).bind ?_
    rw [whole_of_not_finite hfinite, hundefined]
    exact gives_ofExcept _

/-- A side that fits is the whole part of its number.  The default of a side is whole by
`hdefault`, so a value that is no number gives the default. -/
theorem gives_readSide (what : String) {default : Int}
    (hdefault : Scalar.whole (Scalar.ofInt default : α) = .ok default) {v : Value α}
    (h : SideFits v) : Gives (readSide what default v) (.ok (v.wholeOr default)) := by
  unfold readSide
  refine (gives_numberOr _ _ h.1).bind ?_
  unfold Value.scalarOr Value.wholeOr
  cases hx : v.toScalar with
  | error e =>
    dsimp only
    rw [hdefault]
    exact gives_ofExcept _
  | ok x =>
    obtain ⟨n, hn⟩ := Option.isSome_iff_exists.1 (h.2 x hx)
    dsimp only
    unfold Scalar.whole Value.wholeOf
    rw [hn]
    exact gives_ofExcept _

/-! ## 2. Transitions

`parse_transition` never refuses a mistake as such: it prints a line and the state has no
transition.  What can fail is the line, and the time of a timer. -/

/-- A transition can be read, or is left out with a line that can be printed. -/
def TransitionFits : Value α → Prop
  | .null => True
  | .map t => ¬ (Fields.get t "type").Unknown TransitionKind ∧
      (Fields.get t "type" = .text "timer" → NumberFits (Fields.get t "duration"))
  | v => v.writable = true

/-- Why a transition is refused. -/
inductive TransitionFault : Value α → Fault → Prop where
  /-- It is no mapping, and cannot be shown in the line that says so. -/
  | unshown {v : Value α} (hnull : v ≠ .null) (hmap : ∀ t, v ≠ .map t)
      (h : v.writable = false) : TransitionFault v .notANumber
  /-- Its type is unknown, and cannot be shown either. -/
  | unknown {t : Fields α} (h : (Fields.get t "type").Unknown TransitionKind) :
      TransitionFault (.map t) .notANumber
  | duration {t : Fields α} {e : Fault} (htype : Fields.get t "type" = .text "timer")
      (h : NumberFault (Fields.get t "duration") e) : TransitionFault (.map t) e

/-- What a transition is read as: only a mapping for a timer with a duration is one. -/
def transitionOf : Value α → Option (TransitionSpec α)
  | .map t =>
    if (Fields.get t "type").isText "timer" && !(Fields.get t "duration").isNull then
      some {
        kind := .timer
        duration := (Fields.get t "duration").scalarOr 0.0
        nextState := Fields.get t "nextState"
        nextScene := Fields.get t "nextScene" }
    else none
  | _ => none

omit [Scalar α] in
/-- A transition is for a timer, or there is none. -/
theorem ofValue?_timer (v : Value α) :
    Vocabulary.ofValue? v = if v.isText "timer" then some TransitionKind.timer else none := by
  cases v with
  | text w =>
    change List.find? (fun _ => "timer" == w) [TransitionKind.timer] =
      if (w == "timer") = true then _ else _
    rw [BEq.comm (a := w)]
    cases hw : "timer" == w with
    | true => rfl
    | false => rfl
  | _ => rfl

omit [Scalar α] in
/-- A text can always be shown, so it is never the reason that a choice fails. -/
theorem not_unknown_text {κ : Type} [Vocabulary κ] (s : String) :
    ¬ (.text s : Value α).Unknown κ := fun h => by simpa using h.2.2

/-- A transition fits, or there is a reason why not. -/
theorem transition_cases (v : Value α) : TransitionFits v ∨ ∃ e, TransitionFault v e := by
  have hother {v : Value α} (hnull : v ≠ .null) (hmap : ∀ t, v ≠ .map t)
      (hfits : v.writable = true → TransitionFits v) :
      TransitionFits v ∨ ∃ e, TransitionFault v e := by
    cases hv : v.writable with
    | true => exact .inl (hfits hv)
    | false => exact .inr ⟨_, .unshown hnull hmap hv⟩
  cases v with
  | null => exact .inl trivial
  | map t =>
    by_cases hunknown : (Fields.get t "type").Unknown TransitionKind
    · exact .inr ⟨_, .unknown hunknown⟩
    · by_cases htype : Fields.get t "type" = .text "timer"
      · rcases number_cases (Fields.get t "duration") with hfits | ⟨e, h⟩
        · exact .inl ⟨hunknown, fun _ => hfits⟩
        · exact .inr ⟨e, .duration htype h⟩
      · exact .inl ⟨hunknown, fun h => (htype h).elim⟩
  | _ => exact hother nofun nofun id

omit [Scalar α] in
/-- A number that is refused is there. -/
theorem NumberFault.not_null [Scalar α] {v : Value α} {e : Fault} (h : NumberFault v e) :
    v.isNull = false := by
  cases h with
  | huge h =>
    obtain ⟨n, rfl, -⟩ := h
    rfl
  | unreadable h _ =>
    cases v with
    | null => cases h
    | _ => rfl

/-- For every such reason the reading ends with the fault of that reason. -/
theorem gives_readTransition_of_fault {v : Value α} {e : Fault} (h : TransitionFault v e) :
    Gives (readTransition v) (.error e) := by
  cases h with
  | unshown hnull hmap h =>
    cases v with
    | null => exact (hnull rfl).elim
    | map t => exact (hmap t rfl).elim
    | _ => exact (gives_told_of_not h _).bind_error _
  | unknown h => exact (gives_choose_of_unknown _ _ _ h).bind_error _
  | @duration t _ htype h =>
    unfold readTransition
    refine (gives_choose _ _ (htype ▸ not_unknown_text _)).bind ?_
    rw [ofValue?_timer, Value.isText_iff.2 htype, if_pos rfl]
    dsimp only
    rw [h.not_null]
    exact (gives_numberOr_of_fault _ _ h).bind_error _

/-- A transition that fits is read as what it says, or as none. -/
theorem gives_readTransition {v : Value α} (h : TransitionFits v) :
    Gives (readTransition v) (.ok (transitionOf v)) := by
  cases v with
  | null => exact gives_pure _
  | map t =>
    unfold readTransition
    refine (gives_choose _ _ h.1).bind ?_
    rw [ofValue?_timer]
    dsimp only [transitionOf]
    cases htype : (Fields.get t "type").isText "timer" with
    | false => exact gives_pure none
    | true =>
      cases hnull : (Fields.get t "duration").isNull with
      | true => exact (gives_say _).bind (gives_pure none)
      | false => exact (gives_numberOr _ _ (h.2 (Value.isText_iff.1 htype))).bind (gives_pure _)
  | _ => exact gives_warn h _ _

/-! ## 3. Layers

The name of a layer becomes a text before its items are looked at, whether they are a list or not,
and a layer that is no list is reported with the name of its state. -/

/-- The layers of a state whose value is a list, each with its mappings. -/
def listLayers (entries : Fields α) : List (String × List (Fields α)) :=
  entries.filterMap fun
    | (key, .list items) => some (key.plain, entityConfigs items)
    | _ => none

/-- What the layers of a state are read as. -/
def layersOf : Value α → Table (List (Fields α))
  | .map entries => (listLayers entries).foldl (fun t e => t.put e.1 e.2) []
  | _ => []

/-- Every layer has a name that can be written. -/
def LayersNamed (v : Value α) : Prop :=
  ∀ entries, v = .map entries → ∀ entry ∈ entries, entry.1.writable = true

/-- By induction on the entries; a later layer of the same name takes the place of an earlier one.
-/
theorem gives_readLayers {state : Value α} (hstate : state.writable = true) {entries : Fields α}
    (h : ∀ entry ∈ entries, entry.1.writable = true) (layers : Table (List (Fields α))) :
    Gives (readLayers state layers entries)
      (.ok ((listLayers entries).foldl (fun t e => t.put e.1 e.2) layers)) := by
  induction entries generalizing layers with
  | nil => exact gives_pure layers
  | cons entry entries ih =>
    obtain ⟨key, v⟩ := entry
    have hkey : key.writable = true := h _ List.mem_cons_self
    have hrest := ih fun entry hentry => h entry (List.mem_cons_of_mem _ hentry)
    cases v with
    | list items => exact (gives_told hkey _).bind (hrest _)
    | _ =>
      refine (gives_told hstate _).bind ((gives_told hkey _).bind ?_)
      exact (gives_say _).bind (hrest _)

/-- The first name of a layer that cannot be written ends the reading of the layers.  By induction
on the entries.  Those before it are read or reported, and both need the text of their own key
first. -/
theorem gives_readLayers_of_unnamed {state : Value α} (hstate : state.writable = true)
    {entries : Fields α} {entry : Value α × Value α} (hentry : entry ∈ entries)
    (h : entry.1.writable = false) (layers : Table (List (Fields α))) :
    Gives (readLayers state layers entries) (.error .notANumber) := by
  induction entries generalizing layers with
  | nil => cases hentry
  | cons first entries ih =>
    obtain ⟨key, v⟩ := first
    -- both kinds of layers come to the text of the key, and then to the other layers
    have hrest (hkey : key.writable = true) (layers : Table (List (Fields α))) :
        Gives (readLayers state layers entries) (.error .notANumber) := by
      rcases List.mem_cons.1 hentry with rfl | hentry
      · cases hkey.symm.trans h
      · exact ih hentry layers
    have hname {f : String → Act Log (Table (List (Fields α)))}
        (hf : key.writable = true → Gives (f key.plain) (.error .notANumber)) :
        Gives (Act.ofExcept key.written >>= f) (.error .notANumber) := by
      cases hkey : key.writable with
      | false => exact (gives_told_of_not hkey _).bind_error _
      | true => exact (gives_told hkey _).bind (hf hkey)
    cases v with
    | list items =>
      exact hname (f := fun name => readLayers state (layers.put name (entityConfigs items)) entries)
        fun hkey => hrest hkey _
    | _ =>
      refine (gives_told hstate _).bind (hname (f := fun name => do
        warn ("state '" ++ state.plain ++ "' layer '" ++ name ++ "' is not a list, ignoring")
        readLayers state layers entries) fun hkey => ?_)
      exact (gives_say _).bind (hrest hkey _)

/-- What is no mapping has no layers, and is reported unless it is null, false, zero or empty. -/
theorem gives_readLayerTable {state : Value α} (hstate : state.writable = true) {v : Value α}
    (h : LayersNamed v) : Gives (readLayerTable state v) (.ok (layersOf v)) := by
  cases v with
  | map entries => exact gives_readLayers hstate (h entries rfl) []
  | _ =>
    unfold readLayerTable
    dsimp only
    split
    · exact (gives_told hstate _).bind ((gives_say _).bind (gives_pure []))
    · exact gives_pure []

/-- A mapping of layers with a name that cannot be written is refused. -/
theorem gives_readLayerTable_of_unnamed {state : Value α} (hstate : state.writable = true)
    {entries : Fields α} {entry : Value α × Value α} (hentry : entry ∈ entries)
    (h : entry.1.writable = false) :
    Gives (readLayerTable state (.map entries)) (.error .notANumber) :=
  gives_readLayers_of_unnamed hstate hentry h []

/-- Setting new names that are all different adds them in order. -/
theorem foldl_put {β : Type} (es : List (String × β)) (t : Table β)
    (h : (t.names ++ es.map (·.1)).Nodup) : es.foldl (fun t e => t.put e.1 e.2) t = t ++ es := by
  induction es generalizing t with
  | nil => exact (List.append_nil t).symm
  | cons e es ih =>
    have hnew : t.has e.1 = false := by
      have hmem : e.1 ∉ t.names := fun hmem =>
        (List.nodup_append.1 h).2.2 e.1 hmem e.1 List.mem_cons_self rfl
      unfold Table.has
      rw [List.lookup_eq_none_iff.2 fun p hp => ?_]
      · rfl
      · exact bne_iff_ne.2 fun heq => hmem (heq ▸ List.mem_map_of_mem hp)
    have hput : t.put e.1 e.2 = t ++ [e] := by
      rw [Table.put, if_neg (by rw [hnew]; decide)]
    have hnames : (Table.names (t ++ [e]) ++ es.map (·.1)).Nodup := by
      simpa [Table.names] using h
    rw [List.foldl_cons, hput, ih _ hnames, List.append_assoc]
    rfl

/-- If no two layers of a mapping have the same name, all lists are kept, in order. -/
theorem layersOf_of_nodup {entries : Fields α} (h : (entries.map fun e => e.1.plain).Nodup) :
    layersOf (.map entries) = listLayers entries := by
  have hsub : ((listLayers entries).map (·.1)).Sublist (entries.map fun e => e.1.plain) := by
    clear h
    induction entries with
    | nil => exact .slnil
    | cons entry entries ih =>
      obtain ⟨key, v⟩ := entry
      cases v with
      | list items => exact ih.cons_cons _
      | _ => exact ih.cons _
  exact foldl_put (listLayers entries) [] (h.sublist hsub)

/-! ## 4. States

`parse_state` asks for a mapping and for a name that is truthy, reads the layers, turns the name
into a text, and reads the transition. -/

/-- A state can be made from the value. -/
def StateFits (v : Value α) : Prop :=
  ∃ fields, v = .map fields ∧ (Fields.get fields "name").truthy = true ∧
    ((Fields.get fields "name").writable = true ∧ LayersNamed (Fields.get fields "layers")) ∧
    TransitionFits (Fields.get fields "transition")

/-- Why a state is refused: it is the state of this number. -/
inductive StateFault (index : Nat) : Value α → Fault → Prop where
  | notMapping {v : Value α} (h : ∀ fields, v ≠ .map fields) :
      StateFault index v (.document (.stateNotMapping index))
  | unnamed {fields : Fields α} (h : (Fields.get fields "name").truthy = false) :
      StateFault index (.map fields) (.document (.stateUnnamed index))
  /-- Its name, or the name of a layer, cannot be written. -/
  | unwritten {fields : Fields α} (hname : (Fields.get fields "name").truthy = true)
      (h : ¬ ((Fields.get fields "name").writable = true ∧
        LayersNamed (Fields.get fields "layers"))) : StateFault index (.map fields) .notANumber
  | transition {fields : Fields α} {e : Fault} (hname : (Fields.get fields "name").truthy = true)
      (hwritten : (Fields.get fields "name").writable = true ∧
        LayersNamed (Fields.get fields "layers"))
      (h : TransitionFault (Fields.get fields "transition") e) : StateFault index (.map fields) e

/-- A state is what its mapping says. -/
structure ReadsAs (fields : Fields α) (s : StateSpec α) : Prop where
  name : s.name = (Fields.get fields "name").plain
  written : (Fields.get fields "name").writable = true
  clears : s.clears = (Fields.get fields "clearLayers").truthy
  layers : s.layers = layersOf (Fields.get fields "layers")
  /-- If all layers have names of their own, as in every object of a JSON document. -/
  inOrder : ∀ entries, Fields.get fields "layers" = .map entries →
    (entries.map fun e => e.1.plain).Nodup → s.layers = listLayers entries
  transition : s.transition = transitionOf (Fields.get fields "transition")

/-- What a state is read as. -/
def stateOf (fields : Fields α) : StateSpec α where
  name := (Fields.get fields "name").plain
  clears := (Fields.get fields "clearLayers").truthy
  layers := layersOf (Fields.get fields "layers")
  transition := transitionOf (Fields.get fields "transition")

/-- The state that the fields are read as has all that a reading must have. -/
theorem readsAs_stateOf {fields : Fields α} (h : (Fields.get fields "name").writable = true) :
    ReadsAs fields (stateOf fields) where
  name := rfl
  written := h
  clears := rfl
  layers := rfl
  inOrder entries hentries h := by rw [stateOf, hentries, layersOf_of_nodup h]
  transition := rfl

/-- A state fits, or there is a reason why not. -/
theorem state_cases (index : Nat) (v : Value α) : StateFits v ∨ ∃ e, StateFault index v e := by
  cases v with
  | map fields =>
    cases hname : (Fields.get fields "name").truthy with
    | false => exact .inr ⟨_, .unnamed hname⟩
    | true =>
      by_cases hwritten : (Fields.get fields "name").writable = true ∧
          LayersNamed (Fields.get fields "layers")
      · rcases transition_cases (Fields.get fields "transition") with hfits | ⟨e, h⟩
        · exact .inl ⟨fields, rfl, hname, hwritten, hfits⟩
        · exact .inr ⟨e, .transition hname hwritten h⟩
      · exact .inr ⟨_, .unwritten hname hwritten⟩
  | _ => exact .inr ⟨_, .notMapping nofun⟩

/-- A state that fits is read as what its fields say. -/
theorem gives_readState (index : Nat) {fields : Fields α}
    (hname : (Fields.get fields "name").truthy = true)
    (hwritten : (Fields.get fields "name").writable = true ∧
      LayersNamed (Fields.get fields "layers"))
    (hfits : TransitionFits (Fields.get fields "transition")) :
    Gives (readState index (.map fields)) (.ok (stateOf fields)) := by
  unfold readState
  dsimp only
  rw [hname]
  exact (gives_readLayerTable hwritten.1 hwritten.2).bind ((gives_told hwritten.1 _).bind
    ((gives_readTransition hfits).bind (gives_pure _)))

/-- Whatever is not written, a state without it is refused in one way.  A name that is not written
may be met in the lines about the layers or after them; so nothing is said of where it is met. -/
theorem gives_readState_of_unwritten (index : Nat) {fields : Fields α}
    (hname : (Fields.get fields "name").truthy = true)
    (h : ¬ ((Fields.get fields "name").writable = true ∧
      LayersNamed (Fields.get fields "layers"))) :
    Gives (readState index (.map fields)) (.error .notANumber) := by
  unfold readState
  dsimp only
  rw [hname]
  cases hlong : (Fields.get fields "name").writable with
  | false =>
    exact gives_bind_of_fault (reports_readLayerTable (F := (· = .notANumber)) rfl _ _)
      fun _ => (gives_told_of_not hlong _).bind_error _
  | true =>
    have hnamed : ¬ LayersNamed (Fields.get fields "layers") := fun hnamed => h ⟨hlong, hnamed⟩
    unfold LayersNamed at hnamed
    push Not at hnamed
    obtain ⟨entries, hlayers, entry, hentry, hkey⟩ := hnamed
    rw [hlayers]
    exact (gives_readLayerTable_of_unnamed hlong hentry (Bool.eq_false_iff.2 hkey)).bind_error _

/-- A state that does not fit ends the reading with its own fault. -/
theorem gives_readState_of_fault {index : Nat} {v : Value α} {e : Fault}
    (h : StateFault index v e) : Gives (readState index v) (.error e) := by
  cases h with
  | notMapping h =>
    cases v with
    | map fields => exact (h fields rfl).elim
    | _ => exact gives_throw _
  | unnamed h =>
    unfold readState
    dsimp only
    rw [h]
    exact (gives_throw _).bind_error _
  | unwritten hname h => exact gives_readState_of_unwritten index hname h
  | transition hname hwritten h =>
    unfold readState
    dsimp only
    rw [hname]
    exact (gives_readLayerTable hwritten.1 hwritten.2).bind ((gives_told hwritten.1 _).bind
      ((gives_readTransition_of_fault h).bind_error _))

/-- One state is read for each item, in the same order. -/
theorem gives_readStates (index : Nat) {items : List (Value α)} (h : ∀ v ∈ items, StateFits v) :
    ∃ states, Gives (readStates index items) (.ok states) ∧
      List.Forall₂ (fun v s => ∃ fields, v = .map fields ∧ ReadsAs fields s) items states := by
  induction items generalizing index with
  | nil => exact ⟨[], gives_pure [], .nil⟩
  | cons v items ih =>
    obtain ⟨fields, rfl, hname, hwritten, hfits⟩ := h v List.mem_cons_self
    obtain ⟨states, hstates, hall⟩ := ih (index + 1) fun v hv => h v (List.mem_cons_of_mem _ hv)
    exact ⟨stateOf fields :: states, (gives_readState index hname hwritten hfits).bind
      (hstates.bind (gives_pure _)), .cons ⟨fields, rfl, readsAs_stateOf hwritten.1⟩ hall⟩

/-- The first state that is refused is reported. -/
theorem gives_readStates_of_fault (index : Nat) {before after : List (Value α)} {v : Value α}
    {e : Fault} (hbefore : ∀ u ∈ before, StateFits u) (h : StateFault (index + before.length) v e) :
    Gives (readStates index (before ++ v :: after)) (.error e) := by
  induction before generalizing index with
  | nil => exact (gives_readState_of_fault h).bind_error _
  | cons u before ih =>
    obtain ⟨fields, rfl, hname, hwritten, hfits⟩ := hbefore u List.mem_cons_self
    have hlength : index + 1 + before.length = index + (Value.map fields :: before).length := by
      rw [List.length_cons]
      omega
    have hrest := ih (index + 1) (fun u hu => hbefore u (List.mem_cons_of_mem _ hu)) (hlength ▸ h)
    exact (gives_readState index hname hwritten hfits).bind (hrest.bind_error _)

/-- All states fit, or there is a first that does not. -/
theorem states_cases (index : Nat) (items : List (Value α)) : (∀ v ∈ items, StateFits v) ∨
    ∃ before v after e, items = before ++ v :: after ∧ (∀ u ∈ before, StateFits u) ∧
      StateFault (index + before.length) v e := by
  induction items generalizing index with
  | nil => exact .inl nofun
  | cons v items ih =>
    rcases state_cases index v with hfits | ⟨e, hfault⟩
    · rcases ih (index + 1) with hall | ⟨before, u, after, e, rfl, hbefore, hfault⟩
      · exact .inl (List.forall_mem_cons.2 ⟨hfits, hall⟩)
      · have hlength : index + 1 + before.length = index + (v :: before).length := by
          rw [List.length_cons]
          omega
        exact .inr ⟨v :: before, u, after, e, rfl, List.forall_mem_cons.2 ⟨hfits, hbefore⟩,
          hlength ▸ hfault⟩
    · exact .inr ⟨[], v, items, e, rfl, nofun, hfault⟩

/-! ## 5. Documents

Of the values of a document that `parse_scene_config` looks at itself, two are shown if they are of
the wrong kind (`_as_mapping`), and one becomes the name of the scene, at the very end. -/

/-- The fields of a mapping; nothing else has any. -/
def Value.fields : Value α → Fields α
  | .map fields => fields
  | _ => []

/-- The value is a mapping or nothing, or is ignored with a line that can be printed. -/
def MappingFits : Value α → Prop
  | .null | .map _ => True
  | v => v.writable = true

/-- The value of a side of the canvas. -/
def sideValue (doc : Fields α) (key : String) : Value α :=
  Fields.get (Fields.get doc "canvasSize").fields key

/-- The items of the list of states. -/
def stateItems (doc : Fields α) : List (Value α) :=
  match Fields.get doc "states" with
  | .list items => items
  | _ => []

/-- The value that names the scene. -/
def nameValue (doc : Fields α) : Value α :=
  (Fields.get doc "sceneName").orElse (.text "ConfigurableScene")

/-- The canvas of a document can be made, and its assets can be looked at. -/
structure CanvasFits (doc : Fields α) : Prop where
  mapping : MappingFits (Fields.get doc "canvasSize")
  width : SideFits (sideValue doc "width")
  height : SideFits (sideValue doc "height")
  assets : MappingFits (Fields.get doc "assets")

/-- There are no states, or they are a list of states that fit. -/
def StatesFit (doc : Fields α) : Prop :=
  (Fields.get doc "states").truthy = false ∨
    ∃ items, Fields.get doc "states" = .list items ∧ ∀ v ∈ items, StateFits v

/-- The document can be played: it is a mapping, the sides of its canvas are finite numbers where
they are numbers, its states, if there are any, are a list of states that fit, and what is shown or
becomes a name can be written. -/
def Acceptable (doc : Value α) : Prop :=
  ∃ fields, doc = .map fields ∧ CanvasFits fields ∧ StatesFit fields ∧
    (nameValue fields).writable = true

/-- Why there is no canvas, or no assets: the first reason, in the order of reading. -/
inductive CanvasFault (doc : Fields α) : Fault → Prop where
  | mapping (h : ¬ MappingFits (Fields.get doc "canvasSize")) : CanvasFault doc .notANumber
  | width {e : Fault} (hmapping : MappingFits (Fields.get doc "canvasSize"))
      (h : SideFault (sideValue doc "width") e) : CanvasFault doc e
  | height {e : Fault} (hmapping : MappingFits (Fields.get doc "canvasSize"))
      (hwidth : SideFits (sideValue doc "width"))
      (h : SideFault (sideValue doc "height") e) : CanvasFault doc e
  | assets (hmapping : MappingFits (Fields.get doc "canvasSize"))
      (hwidth : SideFits (sideValue doc "width")) (hheight : SideFits (sideValue doc "height"))
      (h : ¬ MappingFits (Fields.get doc "assets")) : CanvasFault doc .notANumber

/-- Why a document is refused: the first mistake that is not answered, in the order of reading. -/
inductive FirstFault : Value α → Fault → Prop where
  | notMapping {doc : Value α} (h : ∀ fields, doc ≠ .map fields) :
      FirstFault doc (.document .notMapping)
  | canvas {fields : Fields α} {e : Fault} (h : CanvasFault fields e) :
      FirstFault (.map fields) e
  | notList {fields : Fields α} (hcanvas : CanvasFits fields)
      (htruthy : (Fields.get fields "states").truthy = true)
      (h : ∀ items, Fields.get fields "states" ≠ .list items) :
      FirstFault (.map fields) (.document .statesNotList)
  | state {fields : Fields α} {before after : List (Value α)} {v : Value α} {e : Fault}
      (hcanvas : CanvasFits fields)
      (hstates : Fields.get fields "states" = .list (before ++ v :: after))
      (hbefore : ∀ u ∈ before, StateFits u) (h : StateFault before.length v e) :
      FirstFault (.map fields) e
  /-- All else is read, and the name of the scene cannot be written. -/
  | name {fields : Fields α} (hcanvas : CanvasFits fields) (hstates : StatesFit fields)
      (h : (nameValue fields).writable = false) : FirstFault (.map fields) .notANumber

/-- The entries of a list of assets. -/
def assetItems (doc : Fields α) (key : String) : List (Value α) :=
  match Fields.get (Fields.get doc "assets").fields key with
  | .list items => items.filter isAssetEntry
  | _ => []

/-- Apart from its canvas, a scene is what its document says, with one state for each item of its
list. -/
structure ReadsParts (folder : Option String) (doc : Fields α) (spec : SceneSpec α) : Prop where
  name : spec.name = (nameValue doc).plain
  written : (nameValue doc).writable = true
  images : spec.assets.images = assetItems doc "images"
  audio : spec.assets.audio = assetItems doc "audio"
  videos : spec.assets.videos = assetItems doc "videos"
  states : List.Forall₂ (fun v s => ∃ fields, v = .map fields ∧ ReadsAs fields s)
    (stateItems doc) spec.states
  folder : spec.folder = folder

/-- A scene is what its document says. -/
structure ReadsScene (folder : Option String) (doc : Fields α) (spec : SceneSpec α) : Prop
    extends ReadsParts folder doc spec where
  canvas : spec.canvas = ((sideValue doc "width").wholeOr standardCanvas.1,
    (sideValue doc "height").wholeOr standardCanvas.2)

/-- What is no mapping counts as an empty one, after a line about it. -/
theorem gives_readMapping (what : String) {v : Value α} (h : MappingFits v) :
    Gives (readMapping what v) (.ok v.fields) := by
  cases v with
  | null => exact gives_pure []
  | map fields => exact gives_pure fields
  | _ => exact gives_warn h _ _

/-- If that line cannot be written, the reading ends with a fault. -/
theorem gives_readMapping_of_not (what : String) {v : Value α} (h : ¬ MappingFits v) :
    Gives (readMapping what v) (.error .notANumber) := by
  cases v with
  | null => exact (h trivial).elim
  | map fields => exact (h trivial).elim
  | _ => exact (gives_told_of_not (Bool.eq_false_iff.2 h) _).bind_error _

/-- Where a mapping is read at all, its fields are. -/
theorem resultsIn_readMapping (what : String) (v : Value α) :
    (readMapping what v).ResultsIn (· = v.fields) := by
  by_cases h : MappingFits v
  · exact (gives_readMapping what h).resultsIn
  · intro log fields log' hrun
    cases (gives_readMapping_of_not what h).eq hrun

omit [Scalar α] in
/-- The paths and mappings of a list are its entries, and everything else is left out. -/
theorem gives_readAssetEntries (what : String) (doc : Fields α) (key : String) :
    Gives (readAssetEntries what (Fields.get (Fields.get doc "assets").fields key))
      (.ok (assetItems doc key)) := by
  unfold assetItems
  cases Fields.get (Fields.get doc "assets").fields key with
  | null => exact gives_pure []
  | list items =>
    unfold readAssetEntries
    dsimp only
    split
    · exact (gives_say _).bind (gives_pure _)
    · exact gives_pure _
  | _ => exact (gives_say _).bind (gives_pure [])

omit [Scalar α] in
/-- States that share a name are reported and kept, so the earlier one hides the later. -/
theorem gives_reportDuplicates (seen : List String) (states : List (StateSpec α)) :
    Gives (reportDuplicates seen states) (.ok ()) := by
  induction states generalizing seen with
  | nil => exact gives_pure ()
  | cons s states ih =>
    unfold reportDuplicates
    split
    · exact (gives_say _).bind (ih _)
    · exact ih _

/-- What is null, false, zero or empty counts as no states at all. -/
theorem gives_optionalList {doc : Fields α}
    (h : (Fields.get doc "states").truthy = false ∨
      ∃ items, Fields.get doc "states" = .list items) :
    Gives (optionalList (Fields.get doc "states")) (.ok (stateItems doc)) := by
  unfold optionalList stateItems
  cases hv : Fields.get doc "states" with
  | list items =>
    cases items with
    | nil => exact gives_pure []
    | cons v items => exact gives_pure (v :: items)
  | _ =>
    rcases h with h | ⟨items, h⟩
    · rw [hv] at h
      rw [h]
      exact gives_pure []
    · rw [hv] at h
      cases h

/-- Any other value that is no list is refused. -/
theorem gives_optionalList_of_not {doc : Fields α}
    (htruthy : (Fields.get doc "states").truthy = true)
    (h : ∀ items, Fields.get doc "states" ≠ .list items) :
    Gives (optionalList (Fields.get doc "states")) (.error (.document .statesNotList)) := by
  unfold optionalList
  rw [htruthy, if_neg (by decide)]
  split
  · next items hitems => exact (h items hitems).elim
  · exact gives_throw _

/-- So the states that are read are the items of the list. -/
theorem resultsIn_optionalList (doc : Fields α) :
    (optionalList (Fields.get doc "states")).ResultsIn (· = stateItems doc) := by
  by_cases h : (Fields.get doc "states").truthy = false ∨
      ∃ items, Fields.get doc "states" = .list items
  · exact (gives_optionalList h).resultsIn
  · rw [not_or, Bool.not_eq_false, not_exists] at h
    intro log raw log' hrun
    cases (gives_optionalList_of_not h.1 h.2).eq hrun

/-- The items that `gives_optionalList` gives fit, each of them. -/
theorem StatesFit.items {doc : Fields α} (h : StatesFit doc) :
    ∀ v ∈ stateItems doc, StateFits v := by
  intro v hv
  unfold stateItems at hv
  split at hv
  · next items hitems =>
    rcases h with hfalse | ⟨items', hitems', hall⟩
    · rw [hitems] at hfalse
      cases items with
      | nil => cases hv
      | cons u items => cases hfalse
    · cases hitems.symm.trans hitems'
      exact hall v hv
  · cases hv

/-- Every state that comes out is read from its own item. -/
theorem resultsIn_readStates (items : List (Value α)) : (readStates 0 items).ResultsIn fun states =>
    List.Forall₂ (fun v s => ∃ fields, v = .map fields ∧ ReadsAs fields s) items states := by
  intro log states log' h
  rcases states_cases 0 items with hall | ⟨before, v, after, e, rfl, hbefore, hfault⟩
  · obtain ⟨states', hread, hreads⟩ := gives_readStates 0 hall
    cases hread.eq h
    exact hreads
  · cases (gives_readStates_of_fault 0 hbefore hfault).eq h

/-- Whatever numbers there are, a document that is accepted is read as what it says.  Each reading
is peeled off in the order of `parse_scene_config`; those that only give numbers say nothing about
the parts. -/
theorem resultsIn_readScene (folder : Option String) (doc : Value α) :
    (readScene folder doc).ResultsIn fun spec =>
      ∃ fields, doc = .map fields ∧ ReadsParts folder fields spec := by
  intro log spec log' h
  cases doc with
  | map fields =>
    refine ⟨fields, rfl, ?_⟩
    unfold readScene at h
    obtain ⟨canvas, _, -, h⟩ := run_bind_eq_ok.1 h
    obtain ⟨width, _, -, h⟩ := run_bind_eq_ok.1 h
    obtain ⟨height, _, -, h⟩ := run_bind_eq_ok.1 h
    obtain ⟨assets, _, hassets, h⟩ := run_bind_eq_ok.1 h
    obtain rfl := resultsIn_readMapping _ _ _ _ _ hassets
    obtain ⟨images, _, himages, h⟩ := run_bind_eq_ok.1 h
    cases (gives_readAssetEntries _ fields _).eq himages
    obtain ⟨audio, _, haudio, h⟩ := run_bind_eq_ok.1 h
    cases (gives_readAssetEntries _ fields _).eq haudio
    obtain ⟨videos, _, hvideos, h⟩ := run_bind_eq_ok.1 h
    cases (gives_readAssetEntries _ fields _).eq hvideos
    obtain ⟨raw, _, hraw, h⟩ := run_bind_eq_ok.1 h
    obtain rfl := resultsIn_optionalList fields _ raw _ hraw
    obtain ⟨states, _, hstates, h⟩ := run_bind_eq_ok.1 h
    obtain ⟨_, _, -, h⟩ := run_bind_eq_ok.1 h
    obtain ⟨name, _, hname, h⟩ := run_bind_eq_ok.1 h
    obtain ⟨hwritten, rfl, -⟩ := run_told_eq_ok hname
    cases h
    exact ⟨rfl, hwritten, rfl, rfl, rfl, resultsIn_readStates _ _ _ _ hstates, rfl⟩
  | _ => cases h

section Scenes

variable (hwidth : Scalar.whole (Scalar.ofInt standardCanvas.1 : α) = .ok standardCanvas.1)
  (hheight : Scalar.whole (Scalar.ofInt standardCanvas.2 : α) = .ok standardCanvas.2)

include hwidth hheight

/-- When the canvas fits, reading goes on with the states.  The manifests are read without a
reason to stop, so what is left are the states, their names, and the name of the scene. -/
theorem gives_readScene_of_canvas (folder : Option String) {doc : Fields α} (h : CanvasFits doc)
    {r : Except Fault (SceneSpec α)} (hrest : Gives (do
      let raw ← optionalList (Fields.get doc "states")
      let states ← readStates 0 raw
      reportDuplicates [] states
      let name ← Act.ofExcept (nameValue doc).written
      return {
        name
        canvas := ((sideValue doc "width").wholeOr standardCanvas.1,
          (sideValue doc "height").wholeOr standardCanvas.2)
        assets := {
          images := assetItems doc "images"
          audio := assetItems doc "audio"
          videos := assetItems doc "videos" }
        states
        folder }) r) : Gives (readScene folder (.map doc)) r := by
  unfold readScene
  dsimp only
  refine (gives_readMapping _ h.mapping).bind ((gives_readSide _ hwidth h.width).bind ?_)
  refine (gives_readSide _ hheight h.height).bind ((gives_readMapping _ h.assets).bind ?_)
  refine (gives_readAssetEntries _ doc _).bind ((gives_readAssetEntries _ doc _).bind ?_)
  exact (gives_readAssetEntries _ doc _).bind hrest

/-- A fault of the canvas comes before anything else is looked at. -/
theorem gives_readScene_of_canvasFault (folder : Option String) {doc : Fields α} {e : Fault}
    (h : CanvasFault doc e) : Gives (readScene folder (.map doc)) (.error e) := by
  cases h with
  | mapping h => exact (gives_readMapping_of_not _ h).bind_error _
  | width hmapping h =>
    exact (gives_readMapping _ hmapping).bind ((gives_readSide_of_fault _ _ h).bind_error _)
  | height hmapping hw h =>
    exact (gives_readMapping _ hmapping).bind ((gives_readSide _ hwidth hw).bind
      ((gives_readSide_of_fault _ _ h).bind_error _))
  | assets hmapping hw hh h =>
    exact (gives_readMapping _ hmapping).bind ((gives_readSide _ hwidth hw).bind
      ((gives_readSide _ hheight hh).bind ((gives_readMapping_of_not _ h).bind_error _)))

/-- All parts fit, so each is read, and together they are the scene. -/
theorem gives_readScene (folder : Option String) {doc : Fields α} (h : Acceptable (.map doc)) :
    ∃ spec, Gives (readScene folder (.map doc)) (.ok spec) ∧ ReadsScene folder doc spec := by
  obtain ⟨fields, hfields, hcanvas, hstates, hname⟩ := h
  cases hfields
  have hlist : (Fields.get doc "states").truthy = false ∨
      ∃ items, Fields.get doc "states" = .list items :=
    hstates.imp id fun ⟨items, hitems, _⟩ => ⟨items, hitems⟩
  obtain ⟨states, hread, hall⟩ := gives_readStates 0 hstates.items
  refine ⟨_, gives_readScene_of_canvas hwidth hheight folder hcanvas
    ((gives_optionalList hlist).bind (hread.bind ((gives_reportDuplicates _ _).bind
      ((gives_told hname _).bind (gives_pure _))))), ?_⟩
  exact ⟨⟨rfl, hname, rfl, rfl, rfl, hall, rfl⟩, rfl⟩

/-- By cases of the first mistake: what comes before it is read, and there the reading ends.  The
cases are in the order in which the reader looks: the document, its canvas, its states, its name. -/
theorem gives_readScene_of_fault (folder : Option String) {doc : Value α} {e : Fault}
    (h : FirstFault doc e) : Gives (readScene folder doc) (.error e) := by
  cases h with
  | notMapping h =>
    cases doc with
    | map fields => exact (h fields rfl).elim
    | _ => exact gives_throw _
  | canvas h => exact gives_readScene_of_canvasFault hwidth hheight folder h
  | notList hcanvas htruthy h =>
    exact gives_readScene_of_canvas hwidth hheight folder hcanvas
      ((gives_optionalList_of_not htruthy h).bind_error _)
  | state hcanvas hstates hbefore h =>
    refine gives_readScene_of_canvas hwidth hheight folder hcanvas
      ((gives_optionalList (.inr ⟨_, hstates⟩)).bind ?_)
    rw [stateItems, hstates]
    refine (gives_readStates_of_fault 0 hbefore ?_).bind_error _
    rwa [Nat.zero_add]
  | name hcanvas hstates h =>
    obtain ⟨states, hread, -⟩ := gives_readStates 0 hstates.items
    exact gives_readScene_of_canvas hwidth hheight folder hcanvas
      ((gives_optionalList (hstates.imp id fun ⟨items, hitems, _⟩ => ⟨items, hitems⟩)).bind
        (hread.bind ((gives_reportDuplicates _ _).bind ((gives_told_of_not h _).bind_error _))))

omit hwidth hheight in
/-- The parts before the states, in the order in which they are read. -/
theorem canvas_cases (doc : Fields α) : CanvasFits doc ∨ ∃ e, CanvasFault doc e := by
  by_cases hmapping : MappingFits (Fields.get doc "canvasSize")
  · rcases side_cases (sideValue doc "width") with hw | ⟨e, hw⟩
    · rcases side_cases (sideValue doc "height") with hh | ⟨e, hh⟩
      · by_cases hassets : MappingFits (Fields.get doc "assets")
        · exact .inl ⟨hmapping, hw, hh, hassets⟩
        · exact .inr ⟨_, .assets hmapping hw hh hassets⟩
      · exact .inr ⟨e, .height hmapping hw hh⟩
    · exact .inr ⟨e, .width hmapping hw⟩
  · exact .inr ⟨_, .mapping hmapping⟩

omit hwidth hheight in
/-- A document can be played, or there is a reason why it is refused.  A search for the first
mistake, in the same order. -/
theorem document_cases (doc : Value α) : Acceptable doc ∨ ∃ e, FirstFault doc e := by
  cases doc with
  | map fields =>
    rcases canvas_cases fields with hcanvas | ⟨e, h⟩
    · have hnamed (hstates : StatesFit fields) :
          Acceptable (.map fields) ∨ ∃ e, FirstFault (.map fields) e := by
        cases hname : (nameValue fields).writable with
        | true => exact .inl ⟨fields, rfl, hcanvas, hstates, hname⟩
        | false => exact .inr ⟨_, .name hcanvas hstates hname⟩
      cases htruthy : (Fields.get fields "states").truthy with
      | false => exact hnamed (.inl htruthy)
      | true =>
        by_cases hlist : ∃ items, Fields.get fields "states" = .list items
        · obtain ⟨items, hitems⟩ := hlist
          rcases states_cases 0 items with hall | ⟨before, v, after, e, rfl, hbefore, hfault⟩
          · exact hnamed (.inr ⟨items, hitems, hall⟩)
          · rw [Nat.zero_add] at hfault
            exact .inr ⟨e, .state hcanvas hitems hbefore hfault⟩
        · exact .inr ⟨_, .notList hcanvas htruthy fun items hitems => hlist ⟨items, hitems⟩⟩
    · exact .inr ⟨e, .canvas h⟩
  | _ => exact .inr ⟨_, .notMapping nofun⟩

/-- **A document is accepted exactly if it can be played, and otherwise its first mistake is
reported.**  It is assumed that the standard canvas has whole sides.  What an accepted document is
read as has a state for each item of its list, in the same order. -/
theorem readScene_accepts (folder : Option String) (doc : Value α) (log : Log) :
    ((∃ spec log', (readScene folder doc).run log = (.ok spec, log')) ↔ Acceptable doc) ∧
    (∀ fault, (∃ log', (readScene folder doc).run log = (.error fault, log')) ↔
      FirstFault doc fault) ∧
    ∀ spec log', (readScene folder doc).run log = (.ok spec, log') →
      ∃ fields, doc = .map fields ∧ ReadsScene folder fields spec := by
  rcases document_cases doc with h | ⟨e, h⟩
  · obtain ⟨fields, rfl, -⟩ := id h
    obtain ⟨spec, hread, hspec⟩ := gives_readScene hwidth hheight folder h
    refine ⟨⟨fun _ => h, fun _ => ⟨spec, hread log⟩⟩, fun fault => ⟨?_, fun hfault => ?_⟩,
      fun spec' log' h' => ⟨fields, rfl, ?_⟩⟩
    · rintro ⟨log', h'⟩
      cases hread.eq h'
    · obtain ⟨log', h'⟩ := gives_readScene_of_fault hwidth hheight folder hfault log
      cases hread.eq h'
    · cases hread.eq h'
      exact hspec
  · have hread := gives_readScene_of_fault hwidth hheight folder h
    refine ⟨⟨?_, fun hdoc => ?_⟩, fun fault => ⟨?_, fun hfault => ?_⟩, fun spec log' h' => ?_⟩
    · rintro ⟨spec, log', h'⟩
      cases hread.eq h'
    · obtain ⟨fields, rfl, -⟩ := id hdoc
      obtain ⟨spec, hok, -⟩ := gives_readScene hwidth hheight folder hdoc
      obtain ⟨log', h'⟩ := hok log
      cases hread.eq h'
    · rintro ⟨log', h'⟩
      cases hread.eq h'
      exact h
    · obtain ⟨log', h'⟩ := gives_readScene_of_fault hwidth hheight folder hfault log
      cases hread.eq h'
      exact hread log
    · cases hread.eq h'

end Scenes

/-- A document with a state for each of these values. -/
def withStates (states : List (Value α)) : Value α := .map [(.text "states", .list states)]

/-- Without a word about the canvas there is nothing wrong with it. -/
theorem canvasFits_withStates (states : List (Value α)) :
    CanvasFits ((withStates states).fields) := by
  have hside : SideFits (.null : Value α) := by
    refine ⟨⟨?_, nofun⟩, fun x h => by cases h⟩
    rintro ⟨n, h, -⟩
    cases h
  exact ⟨trivial, hside, hside, trivial⟩

/-- Two states of which one is named by a number are accepted; of two values that are no states the
first is reported. -/
theorem readScene_accepts_withStates :
    let _ : Scalar Rat := .exact (fun x => x) 57
    (Scalar.whole (Scalar.ofInt standardCanvas.1 : Rat) = .ok standardCanvas.1 ∧
      Scalar.whole (Scalar.ofInt standardCanvas.2 : Rat) = .ok standardCanvas.2) ∧
    (∃ (spec : SceneSpec Rat) (log : Log), (readScene none (withStates
      [.map [(.text "name", .text "day")], .map [(.text "name", .int 2)]])).run #[] =
        (.ok spec, log) ∧ spec.stateNames = ["day", "2"]) ∧
    ∃ log : Log, (readScene none (withStates
      [.map [(.text "name", .text "day")], .int 5, .map []] : Value Rat)).run #[] =
        (.error (.document (.stateNotMapping 1)), log) := by
  intro _
  have hwidth : Scalar.whole (Scalar.ofInt standardCanvas.1 : Rat) = .ok standardCanvas.1 :=
    eq_ok_of_toOption (by decide +kernel)
  have hheight : Scalar.whole (Scalar.ofInt standardCanvas.2 : Rat) = .ok standardCanvas.2 :=
    eq_ok_of_toOption (by decide +kernel)
  have hstate (name : Value Rat) (hname : name.truthy = true) (hwritten : name.writable = true) :
      StateFits (.map [(.text "name", name)] : Value Rat) :=
    ⟨_, rfl, hname, ⟨hwritten, nofun⟩, trivial⟩
  have hday := hstate (.text "day") rfl (Value.writable_text _)
  refine ⟨⟨hwidth, hheight⟩, ?_, ?_⟩
  · obtain ⟨haccept, -, hreads⟩ := readScene_accepts hwidth hheight none (withStates
      [.map [(.text "name", .text "day")], .map [(.text "name", .int 2)]] : Value Rat) #[]
    have htwo := hstate (.int 2) rfl (by decide +kernel)
    obtain ⟨spec, log, hread⟩ := haccept.2 ⟨_, rfl, canvasFits_withStates _, .inr ⟨_, rfl,
      List.forall_mem_cons.2 ⟨hday, List.forall_mem_singleton.2 htwo⟩⟩, Value.writable_text _⟩
    obtain ⟨fields, hfields, hspec⟩ := hreads spec log hread
    cases hfields
    refine ⟨spec, log, hread, ?_⟩
    have hstates := hspec.states
    rw [SceneSpec.stateNames]
    generalize spec.states = states at hstates
    change List.Forall₂ _ [_, _] _ at hstates
    obtain _ | ⟨⟨day, hday, hreadsDay⟩, _ | ⟨⟨two, htwo, hreadsTwo⟩, _ | _⟩⟩ := hstates
    cases hday
    cases htwo
    rw [List.map_cons, List.map_cons, List.map_nil, hreadsDay.name, hreadsTwo.name]
    decide +kernel
  · refine ((readScene_accepts hwidth hheight none (withStates
      [.map [(.text "name", .text "day")], .int 5, .map []] : Value Rat) #[]).2.1 _).2 ?_
    have hfault : StateFault 1 (.int 5 : Value Rat) (.document (.stateNotMapping 1)) :=
      .notMapping nofun
    exact FirstFault.state (canvasFits_withStates _) rfl (List.forall_mem_singleton.2 hday) hfault

/-- **A state whose name is an integer of more than 4300 digits is refused**, although it is a
mapping with a name that is truthy, has no transition, and stands in a list in a document that says
nothing of a canvas: the text of the name is what fails. -/
theorem readScene_refuses_long_name :
    let _ : Scalar Rat := .exact (fun x => x) 57
    let state : Fields Rat := [(.text "name", .int (Int.pow 10 5000))]
    let doc : Value Rat := withStates [.map state]
    doc.fields.get "canvasSize" = .null ∧ doc.fields.get "states" = .list [.map state] ∧
      (state.get "name").truthy = true ∧ state.get "transition" = .null ∧
      ∃ log : Log, (readScene none doc).run #[] = (.error .notANumber, log) := by
  intro _ state doc
  have hwidth : Scalar.whole (Scalar.ofInt standardCanvas.1 : Rat) = .ok standardCanvas.1 :=
    eq_ok_of_toOption (by decide +kernel)
  have hheight : Scalar.whole (Scalar.ofInt standardCanvas.2 : Rat) = .ok standardCanvas.2 :=
    eq_ok_of_toOption (by decide +kernel)
  have htruthy : (state.get "name").truthy = true := by decide +kernel
  have hlong : (state.get "name").writable = false := by decide +kernel
  have hfault : FirstFault doc .notANumber :=
    .state (canvasFits_withStates _) (rfl : _ = Value.list ([] ++ .map state :: []))
      (List.forall_mem_nil _) (.unwritten htruthy fun h => by rw [hlong] at h; cases h.1)
  exact ⟨rfl, rfl, htruthy, rfl, gives_readScene_of_fault hwidth hheight none hfault #[]⟩

end Diorama
