/-
# With exact numbers everything can be drawn

What can be wrong with an entity that cannot be drawn is listed by `Entity.Undrawable`.  Most of it
is about numbers that are infinite, undefined or out of range, but for the box of a line.  A
fraction has a nearest whole number and a whole part, a channel of a colour is not infinite, the
size of a typeface is what its figures spell, and a box is measured without a sign.  So with exact
numbers, and a host that refuses nothing, two things are left: the bounds of a button, which must be
numbers of the screen, and a colour that is none and cannot be shown in the line that says so.
Everything else is drawn to the end, whatever has been drawn before (`Entity.run_render_exact`).
-/
import Diorama.Proofs.Aim
import Diorama.Proofs.Coloring
import Diorama.Proofs.Spelling

namespace Diorama

open Act

variable (sine : Rat → Rat) (radian : Rat)

/-! ## 1. Numbers, colours and letters

The reasons of the module before, one by one, with exact numbers.  None of them is infinite and
all of them can be rounded, so hardly a reason is left: a colour that is none, and that cannot be
shown in the line that says so. -/

/-- What is cut off to its whole part does not become negative. -/
theorem Scalar.whole_exact_nonneg {x : Rat} (hx : 0 ≤ x) {n : Int} :
    letI := Scalar.exact sine radian
    Scalar.whole x = .ok n → 0 ≤ n := by
  intro h
  have hn : Decimal.truncDiv x.num x.den = n := Except.ok.inj h
  rw [← hn]
  exact Int.tdiv_nonneg (Rat.num_nonneg.2 hx) (Int.natCast_nonneg _)

namespace Color

/-- No exact number is infinite, so no channel is. -/
theorem not_overflow_exact (vs : List (Value Rat)) : letI := Scalar.exact sine radian
    ¬ Overflow vs := by
  let _ := Scalar.exact sine radian
  rintro ⟨_, v, _, -, ⟨x, -, hfinite, -⟩, -⟩
  cases hfinite

/-- So the channels of a value never fail. -/
theorem ofParts?_exact_ne_error (v : Value Rat) (f : Fault) : letI := Scalar.exact sine radian
    ofParts? v ≠ .error f := by
  intro h
  let _ := Scalar.exact sine radian
  cases hv : channelValues? v with
  | none =>
    rw [ofParts?, hv] at h
    cases h
  | some vs =>
    obtain ⟨hoverflow, -, honly⟩ := ofParts?_of_channels hv
    exact not_overflow_exact sine radian vs (hoverflow.1 (honly f h ▸ h))

/-- A value that lists channels gives no colour and is no fault if it has neither. -/
theorem ofParts?_eq_none_iff {α : Type} [Scalar α] {v : Value α} {vs : List (Value α)}
    (hv : channelValues? v = some vs) :
    ofParts? v = .ok none ↔ ¬ Overflow vs ∧ ∀ c, ¬ Listed vs c := by
  obtain ⟨hover, hlisted, hfault⟩ := ofParts?_of_channels hv
  simp only [← hover, ← hlisted]
  cases h : ofParts? v with
  | error e => simp [hfault e h]
  | ok found => cases found <;> simp

/-- A value that gives no colour and cannot be shown in the line that says so, as two
computations. -/
theorem unsayable_iff {α : Type} [Scalar α] [Host α] {v : Value α} :
    Unsayable v ↔ ofParts? v = .ok none ∧ v.writable = false := by
  unfold Unsayable
  rw [← and_assoc]
  refine and_congr_left fun hlong => ?_
  cases v with
  | text s => simp [Value.writable] at hlong
  | list items =>
    rw [ofParts?_eq_none_iff rfl, overflows_list]
    simp only [given_list]
  | map fields =>
    rw [ofParts?_eq_none_iff rfl, overflows_map]
    simp only [given_map]
  | _ =>
    exact ⟨fun _ => rfl, fun _ => ⟨fun h => (by cases h), fun _ h => (by cases h)⟩⟩

/-- What cannot be painted with exact numbers is a colour that cannot be said. -/
theorem unsayable_of_unpaintable [Host Rat] {v : Value Rat} {f : Fault} :
    letI := Scalar.exact sine radian
    Device.Unpaintable v f → Unsayable v ∧ f = .notANumber := by
  let _ := Scalar.exact sine radian
  intro h
  cases h with
  | infinite h => exact (ofParts?_exact_ne_error sine radian v f h).elim
  | unwritten h hlong => exact ⟨unsayable_iff.2 ⟨h, hlong⟩, rfl⟩

/-- With exact numbers a value is seen in some colour, unless it is none and cannot be said.  A
text or a missing colour always gives one; any other value may name none, and then it has to be
said. -/
theorem seen_exact [Host Rat] (v : Value Rat) : letI := Scalar.exact sine radian
    (Unsayable v → seen v = .error .notANumber) ∧ (¬ Unsayable v → ∃ c, seen v = .ok c) := by
  let _ := Scalar.exact sine radian
  have hwritable {v : Value Rat} (hv : v.writable = true) {r : Except Fault Color}
      (h : ∃ c, r = .ok c) :
      (Unsayable v → r = .error .notANumber) ∧ (¬ Unsayable v → ∃ c, r = .ok c) :=
    ⟨fun hno => (not_unsayable hv hno).elim, fun _ => h⟩
  have hparts (v : Value Rat) (hsome : ∀ c, ofParts? v = .ok (some c) → seen v = .ok c)
      (hnone : ofParts? v = .ok none → seen v = rejected v) :
      (Unsayable v → seen v = .error .notANumber) ∧ (¬ Unsayable v → ∃ c, seen v = .ok c) := by
    rw [unsayable_iff]
    cases h : ofParts? v with
    | error f => exact (ofParts?_exact_ne_error sine radian v f h).elim
    | ok found =>
      cases found with
      | some c => exact ⟨fun hno => (by cases hno.1), fun _ => ⟨c, hsome c h⟩⟩
      | none =>
        rw [hnone h]
        unfold rejected Value.written
        cases hlong : v.writable with
        | true =>
          rw [Value.told_of_writable hlong]
          exact ⟨fun hno => (by cases hno.2), fun _ => ⟨.white, rfl⟩⟩
        | false =>
          rw [Value.told_of_not_writable hlong]
          exact ⟨fun _ => rfl, fun hno => (hno ⟨rfl, rfl⟩).elim⟩
  cases v with
  | null => exact hwritable (by simp [Value.writable]) ⟨_, rfl⟩
  | text s => exact hwritable (by simp [Value.writable]) ⟨_, rfl⟩
  | _ =>
    refine hparts _ (fun c h => ?_) fun h => ?_
    all_goals
      change ofParts? _ >>= _ = _
      rw [h]
      rfl

end Color

/-- Every size that can be spelled comes to a whole number of pixels. -/
theorem Typeface.not_unsized_exact (spelling : String) (f : Fault) :
    letI := Scalar.exact sine radian
    ¬ Typeface.Unsized Rat spelling f := by
  let _ := Scalar.exact sine radian
  let _ := Scalar.Measured.exact sine radian
  rintro ⟨word, -, size, hsize, h⟩
  rw [← String.ofList_toList (s := word)] at hsize
  obtain ⟨whole, fraction, hfigures⟩ := isSize_iff.1 (sizeText?_eq_some.1 hsize).2
  rw [← String.ofList_toList (s := size), pixels_of_worth hfigures rfl rfl] at h
  cases h

/-- With exact numbers and a host that refuses nothing, a line of text can always be written. -/
theorem Line.not_unwritable_exact [Host Rat] (hhost : Host.Obliging Rat) (l : Line Rat)
    (f : Fault) : letI := Scalar.exact sine radian
    ¬ l.Unwritable f := by
  let _ := Scalar.exact sine radian
  rintro (h | ⟨_, h⟩ | ⟨_, h⟩ | h | ⟨_, h⟩ | h | h)
  · exact Typeface.not_unsized_exact sine radian _ _ h
  all_goals first | exact hhost.not_refuses f h | cases h

/-! ## 2. Entities

Beyond the numbers of its parts an entity asks for one thing more: the bounds of a button have to
be numbers that a rectangle of the screen can keep. -/

namespace Entity

variable {e : Entity Rat}

/-- The box of a line is measured without a sign. -/
theorem side_nonneg_of_line {radius : Rat} {filled : Bool} {stroke : Int}
    (hform : e.form = .shape .line radius filled stroke) : letI := Scalar.exact sine radian
    ∀ x ∈ e.sides, 0 ≤ x := by
  intro x hx
  let _ := Scalar.exact sine radian
  simp only [sides, hform, List.mem_cons, List.not_mem_nil, or_false, Scalar.abs_exact] at hx
  rcases hx with rfl | rfl <;> exact abs_nonneg _

/-- The bounds of a button are numbers of the screen. -/
def OnScreen {α : Type} [Scalar α] (e : Entity α) : Prop :=
  e.isButton = true → ∃ r, e.Rounds r ∧ r.Kept

/-- A colour of the entity is none and cannot be said. -/
def HasUnsayable {α : Type} [Scalar α] [Host α] (e : Entity α) : Prop :=
  ∃ v ∈ e.inks, Color.Unsayable v

/-- All other reasons of `Entity.Undrawable` are about numbers that are not finite or too large,
and there are none of these. -/
theorem hasUnsayable_of_undrawable [Host Rat] (hhost : Host.Obliging Rat) {f : Fault} :
    letI := Scalar.exact sine radian
    e.OnScreen → e.Undrawable f → e.HasUnsayable ∧ f = .notANumber := by
  let _ := Scalar.exact sine radian
  intro hscreen h
  cases h with
  | side _ h => cases h
  | ink hv h =>
    obtain ⟨hno, rfl⟩ := Color.unsayable_of_unpaintable sine radian h
    exact ⟨⟨_, hv, hno⟩, rfl⟩
  | refused h => exact (hhost.not_refuses f h).elim
  | place h =>
    cases h with
    | refused h => exact (hhost.not_refuses f h).elim
    | _ h => cases h
  | bounds hbutton h =>
    obtain ⟨r, hr, hkept⟩ := hscreen hbutton
    rw [bounds_of_rounds hr hkept] at h
    cases h
  | corner _ h => cases h
  | label _ _ _ _ h => exact (Line.not_unwritable_exact sine radian hhost _ f h).elim
  | text _ _ h => exact (Line.not_unwritable_exact sine radian hhost _ f h).elim
  | box hform hx hn hneg =>
    have hside := side_nonneg_of_line sine radian hform _ hx
    have hn := Scalar.nearest_exact_nonneg sine radian hside hn
    unfold outline at hneg
    omega
  | ends _ _ h => cases h

/-- **With exact numbers an entity is drawn without a fault**, from any device and for a host that
refuses nothing, if the bounds of a button are numbers of the screen and every colour can be said. -/
theorem run_render_exact [Host Rat] (hhost : Host.Obliging Rat) (canvas : Surface)
    (d : Device Rat) : letI := Scalar.exact sine radian
    e.OnScreen → ∃ r, (e.render canvas).run d = (r, (e.render canvas).after d) ∧
      (r = .ok () ∨ r = .error .notANumber ∧ e.HasUnsayable) := by
  intro hscreen
  let _ := Scalar.exact sine radian
  have hfaults : (e.render canvas).FaultsIn fun f => e.HasUnsayable ∧ f = .notANumber :=
    (e.faultsIn_render canvas).mono fun f h =>
      hasUnsayable_of_undrawable sine radian hhost hscreen h.2.2
  rcases hrun : (e.render canvas).run d with ⟨_ | _, d'⟩
  · obtain ⟨hno, rfl⟩ := hfaults _ _ _ hrun
    exact ⟨_, by rw [after_eq_of_run hrun], .inr ⟨rfl, hno⟩⟩
  · exact ⟨_, by rw [after_eq_of_run hrun], .inl rfl⟩

end Entity

end Diorama
