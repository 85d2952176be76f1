/-
# Reading and reporting

What is read from a document depends on the document alone.  An act on the log that reads
something ends in the same way whatever was printed before, and prints the same lines
(`Act.Reports`).  Everything that builds an entity from its description is of this kind, and so
is the reading of a whole scene document.

Mistakes in the data are answered by a line and a default, so there are few faults that such an
act can end with, and `Act.Reports F` says which: a number that is out of range, a value that
cannot be a name, a document with nothing to run in it, or a value whose text is asked for and
that holds a whole number of too many digits.  Where an entity is built, `F` tells which of its
fields is to blame (`Misdescribes`).
-/
import Diorama.Entity.Building
import Diorama.Proofs.Rules

namespace Diorama

namespace Act

variable {β γ : Type} {F : Fault → Prop}

/-- The act ends in the same way whatever is in the log, and adds the same lines to it; if it
ends with a fault, it is one of `F`. -/
def Reports (F : Fault → Prop) (x : Act Log β) : Prop :=
  ∃ (r : Except Fault β) (lines : Log), (∀ e, r = .error e → F e) ∧
    ∀ log : Log, x.run log = (r, log ++ lines)

/-! ## 1. Rules

`Reports F x` says that an act on the log only ever adds lines to it, and that its faults are
among `F`; nothing it does depends on the lines that are there.  The rules follow the text of an
act. -/

theorem reports_pure (b : β) : Reports F (pure b) := by
  refine ⟨.ok b, #[], fun e he => ?_, fun log => ?_⟩
  · cases he
  · rw [run_pure, Array.append_empty]

theorem reports_throw {e : Fault} (h : F e) : Reports F (throw e : Act Log β) := by
  refine ⟨.error e, #[], fun e' he => ?_, fun log => ?_⟩
  · cases he
    exact h
  · rw [run_throw, Array.append_empty]

/-- What is only computed prints nothing. -/
theorem reports_ofExcept {r : Except Fault β} (h : ∀ e, r = .error e → F e) :
    Reports F (ofExcept r) :=
  ⟨r, #[], h, fun log => by rw [run_ofExcept, Array.append_empty]⟩

/-- A value has a text unless a number in it is too long. -/
theorem reports_told {α : Type} {v : Value α} (h : v.writable = false → F .notANumber)
    (text : String) : Reports F (ofExcept (v.told text)) := by
  refine reports_ofExcept fun e he => ?_
  obtain ⟨hlong, rfl⟩ := Value.told_eq_error.1 he
  exact h hlong

theorem reports_say (line : String) : Reports F (say line) := by
  refine ⟨.ok (), #[line], fun e he => ?_, fun log => ?_⟩
  · cases he
  · rw [say, run_modify, Array.append_singleton]

/-- The rest of an act has to be looked at for the results that there can be. -/
theorem reports_bind_of {P : β → Prop} {x : Act Log β} {f : β → Act Log γ} (hx : Reports F x)
    (hP : x.ResultsIn P) (hf : ∀ b, P b → Reports F (f b)) : Reports F (x >>= f) := by
  obtain ⟨r, lines, hr, hx⟩ := hx
  cases r with
  | error e =>
    refine ⟨.error e, lines, fun e' he => ?_, fun log => run_bind_of_error (hx log)⟩
    cases he
    exact hr e rfl
  | ok b =>
    obtain ⟨r', lines', hr', hf⟩ := hf b (hP _ b _ (hx #[]))
    refine ⟨r', lines ++ lines', hr', fun log => ?_⟩
    rw [run_bind_of_ok (hx log), hf, Array.append_assoc]

/-- The lines of a sequence are those of its parts, one after the other. -/
theorem reports_bind {x : Act Log β} {f : β → Act Log γ} (hx : Reports F x)
    (hf : ∀ b, Reports F (f b)) : Reports F (x >>= f) :=
  reports_bind_of hx (P := fun _ => True) (fun _ _ _ _ => trivial) fun b _ => hf b

/-- A value that can be written gives its text and changes nothing. -/
theorem run_told {α σ : Type} {v : Value α} (h : v.writable = true) (text : String) (s : σ) :
    (ofExcept (v.told text) : Act σ String).run s = (.ok text, s) := by
  rw [run_ofExcept, Value.told_of_writable h]

/-- A value that holds a number of too many digits gives a fault instead, wherever its text is
asked for (`str` and `repr` raise `ValueError`). -/
theorem run_told_of_not {α σ : Type} {v : Value α} (h : v.writable = false) (text : String)
    (s : σ) : (ofExcept (v.told text) : Act σ String).run s = (.error .notANumber, s) := by
  rw [run_ofExcept, Value.told_of_not_writable h]

/-- The text that was asked for is the text of the value, and the state is as before. -/
theorem run_told_eq_ok {α σ : Type} {v : Value α} {text t : String} {s s' : σ}
    (h : (ofExcept (v.told text) : Act σ String).run s = (.ok t, s')) :
    v.writable = true ∧ t = text ∧ s' = s := by
  rw [run_ofExcept, Prod.mk.injEq] at h
  obtain ⟨hv, ht⟩ := Value.told_eq_ok.1 h.1
  exact ⟨hv, ht, h.2.symm⟩

/-- What is printed about a value needs its text. -/
theorem reports_tell {α : Type} {v : Value α} (h : v.writable = false → F .notANumber)
    (text : String) (line : String → String) {x : Act Log β} (hx : Reports F x) :
    Reports F (do
      let t ← ofExcept (v.told text)
      say (line t)
      x) :=
  reports_bind (reports_told h text) fun _ => reports_bind (reports_say _) fun _ => hx

theorem reports_ite {c : Prop} [Decidable c] {x y : Act Log β} (hx : Reports F x)
    (hy : Reports F y) : Reports F (if c then x else y) := by
  split
  · exact hx
  · exact hy

/-- A result that was once read is read from every log. -/
theorem Reports.run {x : Act Log β} (hx : Reports F x) {log log' : Log} {r : Except Fault β}
    (h : x.run log = (r, log')) (other : Log) : ∃ log'', x.run other = (r, log'') := by
  obtain ⟨r', lines, -, hx⟩ := hx
  rw [hx] at h
  cases h
  exact ⟨_, hx other⟩

theorem Reports.fault {x : Act Log β} (hx : Reports F x) {log log' : Log} {e : Fault}
    (h : x.run log = (.error e, log')) : F e := by
  obtain ⟨r, lines, hr, hx⟩ := hx
  rw [hx] at h
  cases h
  exact hr e rfl

/-- Forgetting the lines, its faults remain. -/
theorem Reports.faultsIn {x : Act Log β} (hx : Reports F x) : x.FaultsIn F :=
  fun _ _ _ h => hx.fault h

/-! ## 2. What an act gives

`Gives x r` says that `x` ends like `r` on every log, without saying which lines it adds.  This is
how a reading is followed to its end: what comes after it starts from a known result. -/

/-- The act ends in this way, whatever is in the log. -/
def Gives (x : Act Log β) (r : Except Fault β) : Prop := ∀ log, ∃ log', x.run log = (r, log')

theorem gives_pure (b : β) : Gives (pure b) (.ok b) := fun log => ⟨log, rfl⟩

theorem gives_throw (e : Fault) : Gives (throw e : Act Log β) (.error e) := fun log => ⟨log, rfl⟩

theorem gives_ofExcept (r : Except Fault β) : Gives (ofExcept r) r := fun log => ⟨log, rfl⟩

theorem gives_say (line : String) : Gives (say line) (.ok ()) := fun _ => ⟨_, rfl⟩

theorem gives_told {α : Type} {v : Value α} (h : v.writable = true) (text : String) :
    Gives (ofExcept (v.told text)) (.ok text) := by
  rw [Value.told_of_writable h]
  exact gives_ofExcept _

/-- Where a value has no text, asking for one gives a fault. -/
theorem gives_told_of_not {α : Type} {v : Value α} (h : v.writable = false) (text : String) :
    Gives (ofExcept (v.told text)) (.error .notANumber) := by
  rw [Value.told_of_not_writable h]
  exact gives_ofExcept _

/-- What comes after a result goes on with it. -/
theorem Gives.bind {x : Act Log β} {f : β → Act Log γ} {b : β} {r : Except Fault γ}
    (hx : Gives x (.ok b)) (hf : Gives (f b) r) : Gives (x >>= f) r := by
  intro log
  obtain ⟨log', hx⟩ := hx log
  rw [run_bind_of_ok hx]
  exact hf log'

/-- What is printed about a value is printed if it has a text. -/
theorem Gives.tell {α : Type} {v : Value α} {x : Act Log β} {r : Except Fault β} (hx : Gives x r)
    (h : v.writable = true) (text : String) (line : String → String) :
    Gives (do
      let t ← ofExcept (v.told text)
      say (line t)
      x) r :=
  (gives_told h text).bind ((gives_say _).bind hx)

/-- What comes after a fault is never run. -/
theorem Gives.bind_error {x : Act Log β} (f : β → Act Log γ) {e : Fault}
    (hx : Gives x (.error e)) : Gives (x >>= f) (.error e) := by
  intro log
  obtain ⟨log', hx⟩ := hx log
  exact ⟨log', run_bind_of_error hx⟩

/-- Two acts in a row end in a fault if the second ends in it, and the first ends in no other. -/
theorem gives_bind_of_fault {x : Act Log β} {f : β → Act Log γ} {e : Fault}
    (hx : Reports (· = e) x) (hf : ∀ b, Gives (f b) (.error e)) : Gives (x >>= f) (.error e) := by
  obtain ⟨r, lines, hr, hx⟩ := hx
  intro log
  cases r with
  | ok b =>
    obtain ⟨log', hf⟩ := hf b (log ++ lines)
    exact ⟨log', (run_bind_of_ok (hx log)).trans hf⟩
  | error e' =>
    obtain rfl := hr e' rfl
    exact ⟨_, run_bind_of_error (hx log)⟩

/-- An act gives one thing. -/
theorem Gives.eq {x : Act Log β} {r r' : Except Fault β} (hx : Gives x r) {log log' : Log}
    (h : x.run log = (r', log')) : r' = r := by
  obtain ⟨log'', hx⟩ := hx log
  rw [hx] at h
  exact (congrArg (·.1) h).symm

theorem Gives.resultsIn {x : Act Log β} {b : β} (hx : Gives x (.ok b)) : x.ResultsIn (· = b) := by
  intro log c log' h
  exact Except.ok.inj (hx.eq h)

end Act

open Act

variable {α : Type} [Scalar α] {F : Fault → Prop}

/-! ## 3. Words and numbers

A number is read in one way by the readers of documents and by the builders of entities, who
differ in the line with which they report a value that is none (`numberOr`).  A whole number out
of range is a fault, since the reader is only ready for values that are no numbers; and the line
can be one too, if the value cannot be shown. -/

/-- The number that a value stands for; a value that is no number stands for the default. -/
def Value.scalarOr (default : α) (v : Value α) : α :=
  match v.toScalar with
  | .ok x => x
  | .error _ => default

/-- Whether the value is there and no number can be read from it. -/
def Value.unread (v : Value α) : Bool :=
  !v.isNull && match v.toScalar with
    | .ok _ | .error .tooLarge => false
    | .error _ => true

/-- No scalar is near to the integer. -/
def Value.Huge (v : Value α) : Prop := ∃ n, v = .int n ∧ (Scalar.ofInt? n : Option α) = none

/-- The one way in which a value is too large for a scalar: it is a whole number out of range. -/
theorem Value.toScalar_eq_tooLarge {v : Value α} : v.toScalar = .error .tooLarge ↔ v.Huge := by
  unfold Huge
  cases v with
  | int n =>
    unfold toScalar scalarOfInt
    cases h : (Scalar.ofInt? n : Option α) with
    | none => simp [h]
    | some x => simp [h]
  | text s =>
    unfold toScalar
    dsimp only
    split <;> simp
  | _ => simp [toScalar]

theorem Value.toScalar?_of_huge {v : Value α} (h : v.Huge) : v.toScalar? = .error .tooLarge := by
  rw [toScalar?, toScalar_eq_tooLarge.2 h]

/-- Any other value gives its number or, if it is none, nothing. -/
theorem Value.toScalar?_of_not_huge {v : Value α} (h : ¬ v.Huge) :
    v.toScalar? = .ok v.toScalar.toOption := by
  unfold toScalar?
  cases hx : v.toScalar with
  | ok x => rfl
  | error e =>
    cases e with
    | tooLarge => exact (h (toScalar_eq_tooLarge.1 hx)).elim
    | _ => rfl

/-- A scalar has no whole part if it is infinite, or if it is no number. -/
theorem Scalar.whole_eq_error {x : α} {e : Fault} (h : whole x = .error e) :
    e = .tooLarge ∨ e = .notANumber := by
  unfold whole Value.wholeOf at h
  split at h
  · cases h
  · split at h
    · cases h
      exact Or.inr rfl
    · cases h
      exact Or.inl rfl

omit [Scalar α] in
theorem Value.isText_iff {v : Value α} {s : String} : v.isText s = true ↔ v = .text s := by
  unfold isText
  split
  · next t => simp
  · next h =>
    constructor
    · intro hf
      cases hf
    · intro hv
      exact (h s hv).elim

omit [Scalar α] in
/-- Only a text is looked up by itself. -/
theorem Value.nameKey_iff {v : Value α} {s : String} : v.nameKey = .ok (some s) ↔ v = .text s := by
  unfold nameKey
  split
  · simp
  · simp
  · simp
  · next h1 h2 h3 =>
    constructor
    · intro hf
      cases hf
    · intro hv
      exact (h3 s hv).elim

/-- The choice of a word prints the line about an unknown one, which needs the text of the value. -/
theorem reports_choose {κ : Type} [Vocabulary κ] {v : Value α}
    (h : v.writable = false → F .notANumber) (reporter what : String) (default : Option κ) :
    Reports F (Vocabulary.choose reporter what default (.value v)) := by
  unfold Vocabulary.choose
  split
  · exact reports_pure _
  · exact reports_pure _
  · next hv =>
    cases hv
    split
    · exact reports_pure _
    · exact reports_tell h _ (fun word => _ ++ word ++ "'" ++ _) (reports_pure _)

theorem reports_chooseOr {κ : Type} [Vocabulary κ] {v : Value α}
    (h : v.writable = false → F .notANumber) (reporter what : String) (default : κ) :
    Reports F (Vocabulary.chooseOr reporter what default v) :=
  reports_bind (reports_choose h _ _ _) fun _ => reports_pure _

/-- The value names no member, and the line about that cannot be printed. -/
def Value.Unknown (κ : Type) [Vocabulary κ] (v : Value α) : Prop :=
  v ≠ .null ∧ (Vocabulary.ofValue? v : Option κ) = none ∧ v.writable = false

omit [Scalar α] in
theorem Value.isNull_iff {v : Value α} : v.isNull = true ↔ v = .null := by
  cases v <;> simp [isNull]

instance (κ : Type) [Vocabulary κ] (v : Value α) : Decidable (v.Unknown κ) :=
  decidable_of_iff
    (v.isNull = false ∧ (Vocabulary.ofValue? v : Option κ).isNone = true ∧ v.writable = false) <| by
    rw [Value.Unknown, ← Bool.not_eq_true, Value.isNull_iff, Option.isNone_iff_eq_none]

/-- Some member is chosen, or the default, unless the line about an unknown word cannot be
printed. -/
theorem gives_choose_default {κ : Type} [Vocabulary κ] (reporter what : String)
    (default : Option κ) {v : Value α} (h : ¬ v.Unknown κ) :
    Gives (Vocabulary.choose reporter what default (.value v))
      (.ok ((Vocabulary.ofValue? v).or default)) := by
  unfold Vocabulary.choose
  split
  · next h => cases h
  · next h =>
    cases h
    exact gives_pure default
  · next u hnull hu =>
    cases hu
    cases hk : Vocabulary.ofValue? (κ := κ) v with
    | some k => exact gives_pure _
    | none =>
      cases hv : v.writable with
      | true => exact (gives_pure default).tell hv v.plain fun word => _ ++ word ++ "'" ++ _
      | false => exact (h ⟨hnull, hk, hv⟩).elim

/-- A word that is known, or a value that is none and can be written, gives what the vocabulary
has for it. -/
theorem gives_choose {κ : Type} [Vocabulary κ] (reporter what : String) {v : Value α}
    (h : ¬ v.Unknown κ) :
    Gives (Vocabulary.choose reporter what (none : Option κ) (.value v))
      (.ok (Vocabulary.ofValue? v)) := by
  simpa using gives_choose_default reporter what none h

/-- A value that is no word and cannot be written is where the report about it fails. -/
theorem gives_choose_of_unknown {κ : Type} [Vocabulary κ] (reporter what : String)
    (default : Option κ) {v : Value α} (h : v.Unknown κ) :
    Gives (Vocabulary.choose reporter what default (.value v)) (.error .notANumber) := by
  obtain ⟨hnull, hk, hv⟩ := h
  unfold Vocabulary.choose
  split
  · next h => cases h
  · next h => exact (hnull (Choice.value.inj h)).elim
  · next hu =>
    cases hu
    rw [hk]
    exact (gives_told_of_not hv _).bind_error _

/-- A member is chosen only where the value is its word. -/
theorem resultsIn_choose {κ : Type} [Vocabulary κ] (reporter what : String) (v : Value α) :
    (Vocabulary.choose reporter what (none : Option κ) (.value v)).ResultsIn
      (· = Vocabulary.ofValue? v) := by
  intro log k log' hrun
  by_cases h : v.Unknown κ
  · cases (gives_choose_of_unknown reporter what none h).eq hrun
  · exact (gives_choose reporter what h).resultsIn _ _ _ hrun

/-- The number that a value stands for, or the default with a line that says why. -/
def numberOr (line : String → String) (default : α) (v : Value α) : Act Log α :=
  if v.isNull then pure default
  else do
    match ← Act.ofExcept v.toScalar? with
    | some x => return x
    | none =>
      let text ← Act.ofExcept v.shown
      say (line text)
      return default

/-- The numbers of a document (`_as_float`). -/
theorem readNumber_eq (what : String) (default : α) (v : Value α) : readNumber what default v =
    numberOr (fun text => "[SceneConfig] Warning: " ++ (what ++ " is not a number: " ++ text))
      default v :=
  rfl

/-- The numbers of an entity (`_num`): the same reading with another line. -/
theorem fieldNumber_eq (fields : Fields α) (key : String) (default : α) :
    fieldNumber fields key default =
      numberOr (fun text => "[EntityFactory] Warning: '" ++ key ++ "' is not a number: " ++ text)
        default (Fields.get fields key) :=
  rfl

/-- Why no number is read from a value and no default taken: it is out of range, or it is no number
and cannot be reported. -/
inductive NumberFault (v : Value α) : Fault → Prop where
  | huge (h : v.Huge) : NumberFault v .tooLarge
  | unreadable (h : v.unread = true) (hlong : v.writable = false) : NumberFault v .notANumber

/-- A number is read from the value, or the default taken. -/
def NumberFits (v : Value α) : Prop := ¬ v.Huge ∧ (v.unread = true → v.writable = true)

/-- There is no third case: a value is read, or there is a fault that says why not. -/
theorem number_cases (v : Value α) : NumberFits v ∨ ∃ e, NumberFault v e := by
  by_cases hhuge : v.Huge
  · exact .inr ⟨_, .huge hhuge⟩
  · cases hunread : v.unread with
    | false => exact .inl ⟨hhuge, fun h => by rw [hunread] at h; cases h⟩
    | true =>
      cases hlong : v.writable with
      | false => exact .inr ⟨_, .unreadable hunread hlong⟩
      | true => exact .inl ⟨hhuge, fun _ => hlong⟩

/-- A value that is there, and in range if it is an integer, is a number or cannot be read. -/
theorem Value.unread_of_error {v : Value α} {e : Fault} (hnull : v.isNull = false)
    (hhuge : ¬ v.Huge) (h : v.toScalar = .error e) : v.unread = true := by
  unfold unread
  rw [hnull, h]
  cases e with
  | tooLarge => exact (hhuge (toScalar_eq_tooLarge.1 h)).elim
  | _ => rfl

/-- A number that cannot be read ends the reading: one out of range at once, one that is no number
when it is to be shown and cannot be. -/
theorem gives_numberOr_of_fault (line : String → String) (default : α) {v : Value α} {e : Fault}
    (h : NumberFault v e) : Gives (numberOr line default v) (.error e) := by
  cases h with
  | huge h =>
    have hscalar := Value.toScalar?_of_huge h
    obtain ⟨n, rfl, -⟩ := h
    unfold numberOr
    rw [if_neg (by simp [Value.isNull]), hscalar]
    exact (gives_ofExcept _).bind_error _
  | unreadable h hlong =>
    unfold Value.unread at h
    rw [Bool.and_eq_true, Bool.not_eq_true'] at h
    obtain ⟨hnull, h⟩ := h
    unfold numberOr Value.toScalar?
    rw [if_neg (by rw [hnull]; decide)]
    cases hx : v.toScalar with
    | ok x => simp [hx] at h
    | error e =>
      cases e with
      | tooLarge => simp [hx] at h
      | _ => exact (gives_ofExcept _).bind ((gives_told_of_not hlong _).bind_error _)

/-- Where there is no fault the number is the one that is written, or the default. -/
theorem gives_numberOr (line : String → String) (default : α) {v : Value α} (h : NumberFits v) :
    Gives (numberOr line default v) (.ok (v.scalarOr default)) := by
  unfold numberOr
  cases hnull : v.isNull with
  | true =>
    cases v with
    | null => exact gives_pure _
    | _ => cases hnull
  | false =>
    rw [if_neg (by decide), Value.toScalar?_of_not_huge h.1]
    refine (gives_ofExcept _).bind ?_
    unfold Value.scalarOr
    cases hx : v.toScalar with
    | ok x => exact gives_pure x
    | error e =>
      exact (gives_pure default).tell (h.2 (Value.unread_of_error hnull h.1 hx)) v.quoted line

/-- So whatever value there is, no other number can come out. -/
theorem resultsIn_numberOr (line : String → String) (default : α) (v : Value α) :
    (numberOr line default v).ResultsIn (· = v.scalarOr default) := by
  rcases number_cases v with h | ⟨e, h⟩
  · exact (gives_numberOr line default h).resultsIn
  · intro log x log' hrun
    cases (gives_numberOr_of_fault line default h).eq hrun

/-- Two things can go wrong with a number: it is out of range, or it is none and cannot be shown. -/
theorem reports_numberOr {v : Value α} (h : v.Huge → F .tooLarge)
    (hlong : v.writable = false → F .notANumber) (line : String → String) (default : α) :
    Reports F (numberOr line default v) := by
  have hscalar : Reports F (Act.ofExcept v.toScalar?) := by
    refine reports_ofExcept fun e he => ?_
    by_cases hhuge : v.Huge
    · rw [Value.toScalar?_of_huge hhuge] at he
      cases he
      exact h hhuge
    · rw [Value.toScalar?_of_not_huge hhuge] at he
      cases he
  unfold numberOr
  refine reports_ite (reports_pure _) (reports_bind hscalar fun r => ?_)
  split
  · exact reports_pure _
  · exact reports_tell hlong _ line (reports_pure _)

theorem reports_whole (hlarge : F .tooLarge) (hnumber : F .notANumber) (x : α) :
    Reports F (Act.ofExcept (Scalar.whole x)) := by
  refine reports_ofExcept fun e he => ?_
  rcases Scalar.whole_eq_error he with rfl | rfl
  · exact hlarge
  · exact hnumber

theorem reports_readNumber {v : Value α} (h : v.Huge → F .tooLarge)
    (hlong : v.writable = false → F .notANumber) (what : String) (default : α) :
    Reports F (readNumber what default v) := by
  rw [readNumber_eq]
  exact reports_numberOr h hlong _ _

omit [Scalar α] in
/-- What stands in a mapping that can be written can be written. -/
theorem Value.writable_lookup {fields : Fields α} (h : (Value.map fields).writable = true)
    {key : String} {v : Value α} (hv : Fields.lookup fields key = some v) : v.writable = true := by
  induction fields with
  | nil => cases hv
  | cons f fields ih =>
    obtain ⟨k, u⟩ := f
    rw [writable, writableFields, Bool.and_eq_true, Bool.and_eq_true] at h
    unfold Fields.lookup at hv
    split at hv
    · cases hv
      exact h.1.2
    · exact ih (by rw [writable]; exact h.2) hv

omit [Scalar α] in
/-- What can be written as a whole can be written field by field. -/
theorem Value.writable_get {fields : Fields α} (h : (Value.map fields).writable = true)
    (key : String) : (Fields.get fields key).writable = true := by
  unfold Fields.get
  cases hv : Fields.lookup fields key with
  | some v => exact writable_lookup h hv
  | none => simp [Value.writable]

omit [Scalar α] in
/-- A field that cannot be written keeps its mapping from being written. -/
theorem Value.not_writable_of_get {fields : Fields α} {key : String}
    (h : (Fields.get fields key).writable = false) : (Value.map fields).writable = false := by
  cases hfields : (Value.map fields).writable with
  | true => exact (writable_get hfields key).symm.trans h
  | false => rfl

/-! ## 4. Animations, actions, transitions

The three descriptions inside a state or an entity.  Each is a mapping with words and numbers in
it; what is no mapping, has an unknown word or lacks what it needs is reported and left out. -/

/-- The fields of an animation that are numbers. -/
def animationNumbers : List String := ["duration", "delay"]

/-- The line that answers something of the wrong kind, and the answer. -/
theorem reports_warn {β : Type} {v : Value α} (h : v.writable = false → F .notANumber)
    (what : String) (b : β) : Reports F (do
      let text ← Act.ofExcept v.shown
      warn (what ++ text)
      return b) :=
  reports_tell h v.quoted (fun text => "[SceneConfig] Warning: " ++ (what ++ text)) (reports_pure b)

theorem gives_warn {β : Type} {v : Value α} (h : v.writable = true) (what : String) (b : β) :
    Gives (do
      let text ← Act.ofExcept v.shown
      warn (what ++ text)
      return b) (.ok b) :=
  (gives_pure b).tell h v.quoted fun text => "[SceneConfig] Warning: " ++ (what ++ text)

/-- An animation has two numbers, so it may fail by them. -/
theorem reports_readAnimation {v : Value α} (h : ∀ fields, v = .map fields →
      ∀ key ∈ animationNumbers, (Fields.get fields key).Huge → F .tooLarge)
    (hlong : v.writable = false → F .notANumber) : Reports F (readAnimation v) := by
  unfold readAnimation
  split
  · next fields =>
    have hnumber := h fields rfl
    have hfield (key : String) : (Fields.get fields key).writable = false → F .notANumber :=
      fun h => hlong (Value.not_writable_of_get h)
    refine reports_bind (reports_choose (hfield _) _ _ _) fun kind => ?_
    split
    · exact reports_ite (reports_bind (reports_say _) fun _ => reports_pure _) (reports_pure _)
    · refine reports_bind (reports_readNumber (hnumber _ (by decide)) (hfield _) _ _) fun _ => ?_
      refine reports_bind (reports_readNumber (hnumber _ (by decide)) (hfield _) _ _) fun _ => ?_
      refine reports_bind (reports_chooseOr (hfield _) _ _ _) fun _ => ?_
      exact reports_bind (reports_chooseOr (hfield _) _ _ _) fun _ => reports_pure _
  · exact reports_warn hlong _ _

/-- An action has no numbers: only its line can fail. -/
theorem reports_readAction {v : Value α} (hlong : v.writable = false → F .notANumber) :
    Reports F (readAction v) := by
  unfold readAction
  split
  · next fields =>
    refine reports_bind (reports_choose (fun h => hlong (Value.not_writable_of_get h)) _ _ _)
      fun kind => ?_
    split
    · exact reports_ite (reports_bind (reports_say _) fun _ => reports_pure _) (reports_pure _)
    · exact reports_pure _
  · exact reports_warn hlong _ _

/-- An action is read from a mapping, by the word under "action".  A word that is not known gives
no action, whether it is reported or not. -/
theorem resultsIn_readAction (v : Value α) : (readAction v).ResultsIn fun a? => ∀ a ∈ a?,
    ∃ fields, v = .map fields ∧ Vocabulary.ofValue? (Fields.get fields "action") = some a.kind ∧
      a.target = Fields.get fields "target" ∧ a.sound = Fields.get fields "sound" ∧
      a.params = fields := by
  intro log a? log' h
  cases v with
  | map fields =>
    obtain ⟨kind, _, hchoose, h⟩ := run_bind_eq_ok.1 h
    have hkind := resultsIn_choose _ _ _ _ _ _ hchoose
    cases kind with
    | some kind =>
      cases h
      intro a ha
      cases ha
      exact ⟨fields, rfl, hkind.symm, rfl, rfl, rfl⟩
    | none =>
      dsimp only at h
      split at h
      · obtain ⟨_, _, -, h⟩ := run_bind_eq_ok.1 h
        cases h
        exact nofun
      · cases h
        exact nofun
  | _ =>
    obtain ⟨_, _, -, h⟩ := run_bind_eq_ok.1 h
    obtain ⟨_, _, -, h⟩ := run_bind_eq_ok.1 h
    cases h
    exact nofun

/-- A transition has one number, its duration. -/
theorem reports_readTransition (h : F .tooLarge) (hlong : F .notANumber) (v : Value α) :
    Reports F (readTransition v) := by
  unfold readTransition
  split
  · exact reports_pure _
  · refine reports_bind (reports_choose (fun _ => hlong) _ _ _) fun kind => ?_
    split
    · exact reports_pure _
    · refine reports_ite (reports_bind (reports_say _) fun _ => reports_pure _) ?_
      exact reports_bind (reports_readNumber (fun _ => h) (fun _ => hlong) _ _)
        fun _ => reports_pure _
  · exact reports_warn (fun _ => hlong) _ _

/-! ## 5. Scene documents

From the parts of a document to the whole: a document that leaves nothing to run is refused with a
fault of its own, which all others pass through. -/

theorem reports_readMapping (hlong : F .notANumber) (what : String) (v : Value α) :
    Reports F (readMapping what v) := by
  unfold readMapping
  split
  · exact reports_pure _
  · exact reports_pure _
  · exact reports_warn (fun _ => hlong) _ _

omit [Scalar α] in
theorem reports_readAssetEntries (what : String) (v : Value α) :
    Reports F (readAssetEntries what v) := by
  unfold readAssetEntries
  split
  · exact reports_pure _
  · exact reports_ite (reports_bind (reports_say _) fun _ => reports_pure _) (reports_pure _)
  · exact reports_bind (reports_say _) fun _ => reports_pure _

/-- The names of layers become texts before their items are looked at. -/
theorem reports_readLayers (hlong : F .notANumber) (state : Value α)
    (layers : Table (List (Fields α))) (entries : Fields α) :
    Reports F (readLayers state layers entries) := by
  induction entries generalizing layers with
  | nil => exact reports_pure _
  | cons entry entries ih =>
    obtain ⟨key, v⟩ := entry
    cases v with
    | list items => exact reports_bind (reports_told (fun _ => hlong) _) fun _ => ih _
    | _ =>
      refine reports_bind (reports_told (fun _ => hlong) _) fun _ => ?_
      exact reports_bind (reports_told (fun _ => hlong) _) fun _ =>
        reports_bind (reports_say _) fun _ => ih _

theorem reports_readLayerTable (hlong : F .notANumber) (state v : Value α) :
    Reports F (readLayerTable state v) := by
  unfold readLayerTable
  split
  · exact reports_readLayers hlong _ _ _
  · refine reports_ite ?_ (reports_pure _)
    exact reports_tell (fun _ => hlong) _ (fun name => "[SceneConfig] Warning: " ++
      ("state '" ++ name ++ "' layers is not a mapping")) (reports_pure _)

/-- A state is refused without a name; its layers and its transition may fail as well. -/
theorem reports_readState (hlarge : F .tooLarge) (hlong : F .notANumber)
    (hdocument : ∀ f, F (.document f)) (index : Int) (v : Value α) :
    Reports F (readState index v) := by
  have hrest (fields : Fields α) (name : Value α) : Reports F (do
      let layers ← readLayerTable name (Fields.get fields "layers")
      let stateName ← Act.ofExcept name.written
      let transition ← readTransition (Fields.get fields "transition")
      return { name := stateName, clears := (Fields.get fields "clearLayers").truthy,
               layers, transition : StateSpec α }) :=
    reports_bind (reports_readLayerTable hlong _ _) fun _ =>
      reports_bind (reports_told (fun _ => hlong) _) fun _ =>
        reports_bind (reports_readTransition hlarge hlong _) fun _ => reports_pure _
  unfold readState
  split
  · exact reports_ite (reports_bind (reports_throw (hdocument _)) fun _ => hrest _ _) (hrest _ _)
  · exact reports_throw (hdocument _)

theorem reports_readStates (hlarge : F .tooLarge) (hlong : F .notANumber)
    (hdocument : ∀ f, F (.document f)) (index : Nat) (vs : List (Value α)) :
    Reports F (readStates index vs) := by
  induction vs generalizing index with
  | nil => exact reports_pure _
  | cons v vs ih =>
    exact reports_bind (reports_readState hlarge hlong hdocument _ v) fun _ =>
      reports_bind (ih _) fun _ => reports_pure _

omit [Scalar α] in
theorem reports_reportDuplicates (seen : List String) (states : List (StateSpec α)) :
    Reports F (reportDuplicates seen states) := by
  induction states generalizing seen with
  | nil => exact reports_pure _
  | cons s states ih =>
    exact reports_ite (reports_bind (reports_say _) fun _ => ih _) (ih _)

/-- A side of the canvas must be a finite number, unless it is none at all. -/
theorem reports_readSide (hlarge : F .tooLarge) (hnumber : F .notANumber) (what : String)
    (default : Int) (v : Value α) : Reports F (readSide what default v) :=
  reports_bind (reports_readNumber (fun _ => hlarge) (fun _ => hnumber) _ _) fun _ =>
    reports_whole hlarge hnumber _

theorem reports_optionalList (hdocument : ∀ f, F (.document f)) (v : Value α) :
    Reports F (optionalList v) := by
  refine reports_ite (reports_pure _) ?_
  cases v with
  | list items => exact reports_pure _
  | _ => exact reports_throw (hdocument _)

/-- **What is read depends on the document alone**, and a document that cannot be read has nothing
to run in it or a number that is out of range. -/
theorem reports_readScene (hlarge : F .tooLarge) (hnumber : F .notANumber)
    (hdocument : ∀ f, F (.document f)) (folder : Option String) (v : Value α) :
    Reports F (readScene folder v) := by
  unfold readScene
  split
  · refine reports_bind (reports_readMapping hnumber _ _) fun canvas => ?_
    refine reports_bind (reports_readSide hlarge hnumber _ _ _) fun width => ?_
    refine reports_bind (reports_readSide hlarge hnumber _ _ _) fun height => ?_
    refine reports_bind (reports_readMapping hnumber _ _) fun assets => ?_
    refine reports_bind (reports_readAssetEntries _ _) fun images => ?_
    refine reports_bind (reports_readAssetEntries _ _) fun audio => ?_
    refine reports_bind (reports_readAssetEntries _ _) fun videos => ?_
    refine reports_bind (reports_optionalList hdocument _) fun raw => ?_
    refine reports_bind (reports_readStates hlarge hnumber hdocument _ _) fun states => ?_
    refine reports_bind (reports_reportDuplicates _ _) fun _ => ?_
    exact reports_bind (reports_told (fun _ => hnumber) _) fun _ => reports_pure _
  · exact reports_throw (hdocument _)

/-! ## 6. Entities

`Misdescribes fields` lists what can be wrong with the description of an entity, each with its
fault.  Every builder reads fields one by one, so its faults are among those. -/

/-- The fields of a description that are numbers. -/
def numberFields : EntityKind → List String
  | .shape => ["x", "y", "width", "height", "rotation", "scaleX", "scaleY", "alpha", "radius",
      "strokeWidth"]
  | _ => ["x", "y", "width", "height", "rotation", "scaleX", "scaleY", "alpha"]

/-- What an entity is by its description. -/
def kindOf? (fields : Fields α) : Option EntityKind := Vocabulary.ofValue?
    (Fields.get fields "type")

/-- What is wrong with a description of which no entity can be built, or no animation read. -/
inductive Misdescribes (fields : Fields α) : Fault → Prop where
  /-- A number is too large to be near to any scalar. -/
  | number {kind : EntityKind} {key : String} (hkind : kindOf? fields = some kind)
      (hkey : key ∈ numberFields kind) (h : (Fields.get fields key).Huge) :
      Misdescribes fields .tooLarge
  /-- The width of an outline has no whole part. -/
  | stroke {e : Fault} (hkind : kindOf? fields = some .shape)
      (h : Scalar.whole ((Fields.get fields "strokeWidth").scalarOr 1.0) = .error e) :
      Misdescribes fields e
  /-- An image is named by a list or a mapping. -/
  | image {e : Fault} (hkind : kindOf? fields = some .sprite)
      (h : (Fields.get fields "assetId").nameKey = .error e) : Misdescribes fields e
  | animation {animation : Fields α} {key : String}
      (hanimation : Fields.get fields "animation" = .map animation)
      (hkey : key ∈ animationNumbers) (h : (Fields.get animation key).Huge) :
      Misdescribes fields .tooLarge
  /-- A whole number somewhere in the description has too many digits to be written. -/
  | long (h : (Value.map fields).writable = false) : Misdescribes fields .notANumber

omit [Scalar α] in
/-- Whatever cannot be written of a description, it is the description that cannot be written. -/
theorem Misdescribes.long_get [Scalar α] {fields : Fields α} {key : String}
    (h : (Fields.get fields key).writable = false) : Misdescribes fields .notANumber :=
  .long (Value.not_writable_of_get h)

namespace Workshop

variable {fields : Fields α}

omit [Scalar α] in
/-- These numbers every kind of entity has. -/
theorem mem_numberFields (kind : EntityKind) : ∀ key ∈ ["x", "y", "width", "height", "rotation",
    "scaleX", "scaleY", "alpha"], key ∈ numberFields kind := by
  cases kind <;> decide

theorem reports_readClick : Reports (Misdescribes fields) (readClick fields) :=
  reports_ite (reports_pure _) (reports_readAction .long_get)

/-- A text is the plain form of whatever value there is, and fails only where there is no such
form. -/
theorem reports_fieldText (key : String) :
    Reports (Misdescribes fields) (fieldText fields key) := by
  refine reports_told (fun h => .long ?_) _
  cases hv : Fields.lookup fields key with
  | none => simp [hv] at h
  | some v =>
    rw [hv, Option.getD_some] at h
    cases hfields : (Value.map fields).writable with
    | true => exact (Value.writable_lookup hfields hv).symm.trans h
    | false => rfl

theorem reports_fieldTextOr (key default : String) :
    Reports (Misdescribes fields) (fieldTextOr fields key default) := by
  refine reports_told (fun h => ?_) _
  unfold Value.orElse at h
  split at h
  · exact .long_get h
  · simp at h

section Numbers

variable {kind : EntityKind} (hkind : kindOf? fields = some kind)

include hkind

/-- A number that is out of range is a mistake of the field that it stands in. -/
theorem reports_number {key : String} (hkey : key ∈ numberFields kind) (default : α) :
    Reports (Misdescribes fields) (fieldNumber fields key default) := by
  rw [fieldNumber_eq]
  exact reports_numberOr (.number hkind hkey) .long_get _ _

/-- A body is read four numbers at a time: its place, and its look. -/
theorem reports_numbers {k₁ k₂ k₃ k₄ : String} (h₁ : k₁ ∈ numberFields kind)
    (h₂ : k₂ ∈ numberFields kind) (h₃ : k₃ ∈ numberFields kind) (h₄ : k₄ ∈ numberFields kind)
    (d₁ d₂ d₃ d₄ : α) {β : Type} (f : α → α → α → α → β) : Reports (Misdescribes fields) (do
      let a ← fieldNumber fields k₁ d₁
      let b ← fieldNumber fields k₂ d₂
      let c ← fieldNumber fields k₃ d₃
      let d ← fieldNumber fields k₄ d₄
      return f a b c d) := by
  refine reports_bind (reports_number hkind h₁ d₁) fun _ => ?_
  refine reports_bind (reports_number hkind h₂ d₂) fun _ => ?_
  refine reports_bind (reports_number hkind h₃ d₃) fun _ => ?_
  exact reports_bind (reports_number hkind h₄ d₄) fun _ => reports_pure _

theorem reports_readPlace (width height : α) :
    Reports (Misdescribes fields) (readPlace fields width height) := by
  have hnumber := mem_numberFields kind
  exact reports_numbers hkind (hnumber "x" (by decide)) (hnumber "y" (by decide))
    (hnumber "width" (by decide)) (hnumber "height" (by decide)) 0.0 0.0 width height
    fun x y width height => Body.at x y width height

theorem reports_readLook (b : Body α) : Reports (Misdescribes fields) (readLook fields b) := by
  have hnumber := mem_numberFields kind
  exact reports_numbers hkind (hnumber "rotation" (by decide)) (hnumber "scaleX" (by decide))
    (hnumber "scaleY" (by decide)) (hnumber "alpha" (by decide)) 0.0 1.0 1.0 1.0
    fun rotation scaleX scaleY alpha =>
      { b with rotation, scaleX, scaleY, alpha, visible := fieldFlag fields "visible" }

end Numbers

/-- An image is named by a text; to name it by a list or a mapping is a fault, and to name one
that is not there is reported. -/
theorem reports_findImage (shop : Workshop) {id : Value α} (h : ∀ e, id.nameKey = .error e → F e)
    (hlong : id.writable = false → F .notANumber) : Reports F (shop.findImage id) := by
  unfold findImage
  split
  · exact reports_pure _
  · refine reports_ite (reports_pure _) (reports_bind (reports_ofExcept h) fun r => ?_)
    split
    · exact reports_pure _
    · exact reports_tell hlong _ (fun text => _ ++ text ++ "' not loaded") (reports_pure _)

/-- A sprite reads its place, its image and its look. -/
theorem reports_buildSprite (shop : Workshop) (hkind : kindOf? fields = some .sprite) :
    Reports (Misdescribes fields) (shop.buildSprite fields) :=
  reports_bind (reports_readPlace hkind _ _) fun _ =>
    reports_bind (reports_findImage _ (fun _ => .image hkind) .long_get) fun _ =>
      reports_bind (reports_readLook hkind _) fun _ => reports_pure _

/-- A button reads its place, two texts, its look and its action. -/
theorem reports_buildButton (shop : Workshop) (hkind : kindOf? fields = some .button) :
    Reports (Misdescribes fields) (shop.buildButton fields) := by
  unfold buildButton
  refine reports_bind (reports_readPlace hkind _ _) fun _ => ?_
  refine reports_bind (reports_fieldText _) fun _ => ?_
  refine reports_bind (reports_fieldTextOr _ _) fun _ => ?_
  refine reports_bind (reports_readLook hkind _) fun _ => ?_
  exact reports_bind reports_readClick fun _ => reports_pure _

/-- A line of text reads its place, three texts and its look. -/
theorem reports_buildText (shop : Workshop) (hkind : kindOf? fields = some .text) :
    Reports (Misdescribes fields) (shop.buildText fields) := by
  unfold buildText
  refine reports_bind (reports_readPlace hkind _ _) fun _ => ?_
  refine reports_bind (reports_fieldText _) fun _ => ?_
  refine reports_bind (reports_fieldTextOr _ _) fun _ => ?_
  refine reports_bind (reports_fieldTextOr _ _) fun _ => ?_
  exact reports_bind (reports_readLook hkind _) fun _ => reports_pure _

/-- A shape reads its form, its place, its radius, the width of its outline and its look. -/
theorem reports_buildShape (hkind : kindOf? fields = some .shape) :
    Reports (Misdescribes fields) (buildShape fields) := by
  unfold buildShape
  refine reports_bind (reports_chooseOr .long_get _ _ _) fun _ => ?_
  refine reports_bind (reports_readPlace hkind _ _) fun _ => ?_
  refine reports_bind (reports_number hkind (by decide) _) fun _ => ?_
  refine reports_bind_of (reports_number hkind (by decide) _) (resultsIn_numberOr _ _ _)
    fun stroke hstroke => ?_
  refine reports_bind (reports_ofExcept fun e he => .stroke hkind (hstroke ▸ he)) fun _ => ?_
  exact reports_bind (reports_readLook hkind _) fun _ => reports_pure _

/-- **What is built depends on the description and the workshop alone**, and a fault comes from a
mistake in the description. -/
theorem reports_build (shop : Workshop) (fields : Fields α) :
    Reports (Misdescribes fields) (shop.build fields) := by
  unfold build
  refine reports_bind_of (reports_choose .long_get _ _ _) (resultsIn_choose _ _ _)
    fun kind hkind => ?_
  split
  · refine reports_ite ?_ (reports_pure _)
    exact reports_tell .long _ (fun text => "[EntityFactory] Warning: entity without a type: " ++
      text) (reports_pure _)
  · exact reports_bind (reports_buildSprite _ hkind.symm) fun _ => reports_pure _
  · exact reports_bind (reports_buildButton _ hkind.symm) fun _ => reports_pure _
  · exact reports_bind (reports_buildText _ hkind.symm) fun _ => reports_pure _
  · exact reports_bind (reports_buildShape hkind.symm) fun _ => reports_pure _

end Workshop

end Diorama
