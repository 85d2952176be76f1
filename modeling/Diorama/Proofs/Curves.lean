/-
# Eased progress

What an effect has done of its way is the eased part of its duration that has passed.  So that it
neither overshoots nor turns back has two reasons, and both are about all numbers between 0 and 1:

* every curve leads from 0 to 1 and rises strictly, also across the point at which the two halves of
  `easeInOut` meet (`Easing.curve_lt`), and it jumps over nothing, being at most twice as steep as
  the progress itself (`Easing.exists_curve_near`);
* the progress is kept between 0 and 1, and a step that does not go back in time does not lower it
  (`Animation.progress_le_step`), whatever it makes of the thing that is moved.

From this the eased progress of an animation only grows from step to step, in a table with any
others (`Motions.eased_rises`).  The numbers are exact.
-/
import Diorama.Proofs.Animating
import Mathlib.Algebra.Order.Archimedean.Basic
import Mathlib.Data.Nat.Find

namespace Diorama

/-! ## 1. Curves

The four curves (`apply_easing`), as functions on the unit interval: where they start and end, and
that they rise. -/

/-- A sequence that begins no higher than a value is last below it somewhere before its end. -/
theorem exists_last_le {f : Nat → Rat} {y : Rat} (n : Nat) (h0 : f 0 ≤ y) :
    ∃ k ≤ n, f k ≤ y ∧ (k < n → y < f (k + 1)) := by
  refine ⟨Nat.findGreatest (f · ≤ y) n, Nat.findGreatest_le n,
    Nat.findGreatest_spec (P := (f · ≤ y)) (Nat.zero_le n) h0, fun hlt => ?_⟩
  exact not_le.1 (Nat.findGreatest_is_greatest (P := (f · ≤ y)) (Nat.lt_succ_self _) hlt)

namespace Easing

variable (sine : Rat → Rat) (radian : Rat) (e : Easing)

/-- Every curve begins at 0. -/
theorem curve_zero : letI := Scalar.exact sine radian
    e.curve (0 : Rat) = 0 := by
  cases e <;> norm_num [curve]

/-- The curve that slows down, as a polynomial. -/
theorem curve_easeOut (t : Rat) : letI := Scalar.exact sine radian
    easeOut.curve t = 1 - (1 - t) * (1 - t) := by
  norm_num [curve]

/-- The first half of `easeInOut`, and the point where it meets the second. -/
theorem curve_easeInOut_of_le {t : Rat} (h : t ≤ 1 / 2) : letI := Scalar.exact sine radian
    easeInOut.curve t = 2 * t * t := by
  norm_num [curve]
  intro hseam
  obtain rfl : t = 1 / 2 := le_antisymm h hseam
  norm_num

/-- The second half of the curve with two halves. -/
theorem curve_easeInOut_of_ge {t : Rat} (h : 1 / 2 ≤ t) : letI := Scalar.exact sine radian
    easeInOut.curve t = 1 - 2 * (1 - t) * (1 - t) := by
  norm_num [curve, not_lt.2 h]
  ring

/-- **Every curve rises strictly.**  When `easeInOut` is read on both sides of its seam, the one
value is below one half and the other above it. -/
theorem curve_lt {s t : Rat} (h0 : 0 ≤ s) (hst : s < t) (h1 : t ≤ 1) :
    letI := Scalar.exact sine radian
    e.curve s < e.curve t := by
  cases e with
  | linear => exact hst
  | easeIn =>
    simp only [curve]
    exact mul_self_lt_mul_self h0 hst
  | easeOut =>
    simp only [curve_easeOut]
    have hleft : (1 - t) * (1 - t) < (1 - s) * (1 - s) :=
      mul_self_lt_mul_self (by linarith) (by linarith)
    linarith
  | easeInOut =>
    rcases le_or_gt t (1 / 2) with hlow | hhigh
    · rw [curve_easeInOut_of_le sine radian hlow, curve_easeInOut_of_le sine radian (by linarith)]
      nlinarith
    rcases le_or_gt (1 / 2) s with hhigh' | hlow
    · rw [curve_easeInOut_of_ge sine radian hhigh.le, curve_easeInOut_of_ge sine radian hhigh']
      nlinarith
    · rw [curve_easeInOut_of_le sine radian hlow.le, curve_easeInOut_of_ge sine radian hhigh.le]
      have hbefore : 2 * s * s < 1 / 2 := by nlinarith
      have hbehind : 2 * (1 - t) * (1 - t) < 1 / 2 := by nlinarith
      linarith

/-- No curve ever falls. -/
theorem curve_le {s t : Rat} (h0 : 0 ≤ s) (hst : s ≤ t) (h1 : t ≤ 1) :
    letI := Scalar.exact sine radian
    e.curve s ≤ e.curve t := by
  rcases hst.eq_or_lt with rfl | hlt
  · exact le_rfl
  · exact (e.curve_lt sine radian h0 hlt h1).le

/-- Eased progress stays between 0 and 1. -/
theorem curve_mem {t : Rat} (h0 : 0 ≤ t) (h1 : t ≤ 1) : letI := Scalar.exact sine radian
    0 ≤ e.curve t ∧ e.curve t ≤ 1 := by
  have hbegin := e.curve_le sine radian le_rfl h0 h1
  have hend := e.curve_le sine radian h0 h1 le_rfl
  rw [curve_zero] at hbegin
  rw [curve_one] at hend
  exact ⟨hbegin, hend⟩

/-- On the way between 0 and 1 a curve is at its end only there. -/
theorem curve_eq_one_iff {t : Rat} (h0 : 0 ≤ t) (h1 : t ≤ 1) : letI := Scalar.exact sine radian
    e.curve t = 1 ↔ t = 1 := by
  refine ⟨fun h => h1.eq_of_not_lt fun hlt => ?_, fun h => by rw [h, e.curve_one sine radian]⟩
  have hend := e.curve_lt sine radian h0 hlt le_rfl
  rw [h, curve_one] at hend
  exact hend.false

/-- No curve rises faster than twice the progress.  For the curve in two pieces the two times may
lie on the same side of the seam or on both. -/
theorem curve_sub_le {s t : Rat} (h0 : 0 ≤ s) (hst : s ≤ t) (h1 : t ≤ 1) :
    letI := Scalar.exact sine radian
    e.curve t - e.curve s ≤ 2 * (t - s) := by
  cases e with
  | linear =>
    simp only [curve]
    linarith
  | easeIn =>
    simp only [curve]
    nlinarith
  | easeOut =>
    simp only [curve_easeOut]
    nlinarith
  | easeInOut =>
    rcases le_total t (1 / 2) with hlow | hhigh
    · rw [curve_easeInOut_of_le sine radian hlow, curve_easeInOut_of_le sine radian (by linarith)]
      nlinarith
    rcases le_total (1 / 2) s with hhigh' | hlow
    · rw [curve_easeInOut_of_ge sine radian hhigh, curve_easeInOut_of_ge sine radian hhigh']
      nlinarith
    · -- The rise is that up to the seam and that from the seam on.
      rw [curve_easeInOut_of_le sine radian hlow, curve_easeInOut_of_ge sine radian hhigh]
      have hbefore : 1 / 2 - 2 * s * s ≤ 2 * (1 / 2 - s) := by nlinarith [sq_nonneg (1 / 2 - s)]
      have hbehind : 1 / 2 - 2 * (1 - t) * (1 - t) ≤ 2 * (t - 1 / 2) := by
        nlinarith [sq_nonneg (t - 1 / 2)]
      linarith

/-- **No curve jumps over a value.**  Of many even steps of the progress, the last one at which the
curve is not yet above the value is no further from it than the curve rises in one step. -/
theorem exists_curve_near {y ε : Rat} (h0 : 0 ≤ y) (h1 : y ≤ 1) (hε : 0 < ε) :
    letI := Scalar.exact sine radian
    ∃ t, 0 ≤ t ∧ t ≤ 1 ∧ |e.curve t - y| < ε := by
  let _ := Scalar.exact sine radian
  obtain ⟨n, hn⟩ := exists_nat_gt (2 / ε)
  have hpos : (0 : Rat) < n := (div_pos two_pos hε).trans hn
  have hrise : 2 * (1 / (n : Rat)) < ε := by
    rw [div_lt_iff₀ hε] at hn
    rw [mul_one_div, div_lt_iff₀ hpos]
    linarith
  obtain ⟨k, hkn, hbelow, hlast⟩ := exists_last_le (f := fun k => e.curve ((k : Rat) / n)) n
    (by simpa [curve_zero] using h0)
  have hk0 : (0 : Rat) ≤ k / n := by positivity
  have hk1 : (k : Rat) / n ≤ 1 := (div_le_one hpos).2 (by exact_mod_cast hkn)
  refine ⟨k / n, hk0, hk1, abs_sub_lt_iff.2 ⟨by linarith, ?_⟩⟩
  rcases hkn.eq_or_lt with rfl | hlt
  · rw [div_self hpos.ne', curve_one]
    linarith
  · have hnext : ((k + 1 : Nat) : Rat) / n - k / n = 1 / n := by
      push_cast
      ring
    have hnext1 : ((k + 1 : Nat) : Rat) / n ≤ 1 := (div_le_one hpos).2 (by exact_mod_cast hlt)
    have hwidth : (0 : Rat) < 1 / n := by positivity
    have hstep := e.curve_sub_le sine radian hk0 (by linarith) hnext1
    rw [hnext] at hstep
    have habove := hlast hlt
    linarith

end Easing

/-! ## 2. One animation

The progress of one animation never falls, since time only goes on. -/

namespace Animation

/-- The eased progress of an animation, which every effect but the pulse is made from. -/
def eased {α : Type} [Scalar α] (m : Animation α) : α := m.easing.curve m.progress

/-- A step changes nothing but the time, which either stands still or goes on, and whether the
effect is over. -/
theorem exists_step_eq {α : Type} [Scalar α] (m : Animation α) (dt : α) (p : Pose α) :
    ∃ elapsed completed, (m.step dt p).1 = { m with elapsed, completed } ∧
      (elapsed = m.elapsed ∨ elapsed = m.elapsed + dt) := by
  unfold step
  split
  · exact ⟨m.elapsed, m.completed, rfl, .inl rfl⟩
  · dsimp only
    split <;> exact ⟨_, _, rfl, .inr rfl⟩

variable (sine : Rat → Rat) (radian : Rat) (m : Animation Rat)

/-- The progress is kept between 0 and 1. -/
theorem progress_mem : letI := Scalar.exact sine radian
    0 ≤ m.progress ∧ m.progress ≤ 1 := by
  rw [progress_exact]
  split
  · exact ⟨zero_le_one, le_rfl⟩
  · exact ⟨le_max_left _ _, max_le zero_le_one (min_le_left _ _)⟩

/-- Later there is no less progress. -/
theorem progress_le_later {t : Rat} (h : m.elapsed ≤ t) (completed : Bool) :
    letI := Scalar.exact sine radian
    m.progress ≤ ({ m with elapsed := t, completed } : Animation Rat).progress := by
  rw [progress_exact, progress_exact]
  split
  · exact le_rfl
  · next hpos =>
    have hpart : (m.elapsed - m.delay) / m.duration ≤ (t - m.delay) / m.duration :=
      div_le_div_of_nonneg_right (by linarith) (not_le.1 hpos).le
    exact max_le_max_left 0 (min_le_min_left 1 hpart)

variable {m} in
/-- A step that does not go back in time does not lower the progress. -/
theorem progress_le_step {dt : Rat} (hdt : 0 ≤ dt) (p : Pose Rat) :
    letI := Scalar.exact sine radian
    m.progress ≤ (m.step dt p).1.progress := by
  let _ := Scalar.exact sine radian
  obtain ⟨elapsed, completed, heq, htime⟩ := m.exists_step_eq dt p
  have hlater : m.elapsed ≤ elapsed := by rcases htime with h | h <;> linarith
  rw [heq]
  exact m.progress_le_later sine radian hlater completed

/-- What is eased stays between 0 and 1. -/
theorem eased_mem : letI := Scalar.exact sine radian
    0 ≤ m.eased ∧ m.eased ≤ 1 :=
  m.easing.curve_mem sine radian (m.progress_mem sine radian).1 (m.progress_mem sine radian).2

variable {m} in
/-- **A step that does not go back in time does not lower the eased progress.** -/
theorem eased_le_step {dt : Rat} (hdt : 0 ≤ dt) (p : Pose Rat) :
    letI := Scalar.exact sine radian
    m.eased ≤ (m.step dt p).1.eased := by
  let _ := Scalar.exact sine radian
  have heasing : (m.step dt p).1.easing = m.easing := by
    obtain ⟨_, _, heq, -⟩ := m.exists_step_eq dt p
    rw [heq]
  unfold eased
  rw [heasing]
  exact m.easing.curve_le sine radian (m.progress_mem sine radian).1
    (progress_le_step sine radian hdt p) ((m.step dt p).1.progress_mem sine radian).2

end Animation

/-! ## 3. All animations of a table

In a table an animation is stepped among others, and a step may end before it comes to it.  So its
time stands still or goes on, and in both cases its progress does not fall. -/

namespace Motions

/-- Of a step of time over a table an animation makes a step of its own or none: its thing may be
missing, or one before it may have no pose. -/
theorem exists_lookup_stepAll {α ε : Type} [Scalar α] [Posed ε α] (dt : α) {i : Nat}
    {m : Animation α} : ∀ {ms : List (Nat × Animation α)} (things : Array ε),
      ms.lookup i = some m → ∃ m', (stepAll dt ms things).1.lookup i = some m' ∧
        (m' = m ∨ ∃ p, m' = (m.step dt p).1)
  | [], _, hm => nomatch hm
  | (k, d) :: ms, things, hm => by
    by_cases hik : i = k
    · subst hik
      rw [List.lookup_cons, beq_self_eq_true] at hm
      cases hm
      cases hthing : things[i]? with
      | none => exact ⟨m, by rw [stepAll_cons_none hthing, List.lookup_cons, beq_self_eq_true],
          .inl rfl⟩
      | some thing =>
        refine ⟨(m.step dt (Posed.pose thing)).1, ?_, .inr ⟨_, rfl⟩⟩
        rcases hstep : m.step dt (Posed.pose thing) with ⟨m', _ | _⟩
        · rw [stepAll_cons_error hthing hstep, List.lookup_cons, beq_self_eq_true]
        · rw [stepAll_cons_some hthing hstep, List.lookup_cons, beq_self_eq_true]
    · have hne : (i == k) = false := beq_false_of_ne hik
      rw [List.lookup_cons, hne] at hm
      cases hthing : things[k]? with
      | none =>
        rw [stepAll_cons_none hthing, List.lookup_cons, hne]
        exact exists_lookup_stepAll dt things hm
      | some thing =>
        rcases hstep : d.step dt (Posed.pose thing) with ⟨d', _ | p⟩
        · rw [stepAll_cons_error hthing hstep, List.lookup_cons, hne]
          exact ⟨m, hm, .inl rfl⟩
        · rw [stepAll_cons_some hthing hstep, List.lookup_cons, hne]
          exact exists_lookup_stepAll dt (things.set! k (Posed.withPose p thing)) hm

variable (sine : Rat → Rat) (radian : Rat) {ε : Type} [Posed ε Rat] {i : Nat} {m : Animation Rat}

/-- Progress is made in a step, or none. -/
theorem eased_le_advance {dt : Rat} (hdt : 0 ≤ dt) {a : Motions Rat} (things : Array ε)
    (hm : a.find? i = some m) : letI := Scalar.exact sine radian
    ∃ m', (a.advance dt things).1.find? i = some m' ∧ m.eased ≤ m'.eased := by
  let _ := Scalar.exact sine radian
  obtain ⟨m', hm', rfl | ⟨p, rfl⟩⟩ := exists_lookup_stepAll dt things hm
  · exact ⟨m', hm', le_rfl⟩
  · exact ⟨_, hm', m.eased_le_step sine radian hdt p⟩

/-- By induction on the steps. -/
theorem eased_le_pass (dts : List Rat) (hdts : ∀ dt ∈ dts, 0 ≤ dt) {s : Motions Rat × Array ε}
    (hm : s.1.find? i = some m) : letI := Scalar.exact sine radian
    ∃ m', (pass dts s).1.find? i = some m' ∧ m.eased ≤ m'.eased := by
  let _ := Scalar.exact sine radian
  induction dts generalizing s m with
  | nil => exact ⟨m, hm, le_rfl⟩
  | cons dt dts ih =>
    obtain ⟨m₁, hm₁, hle₁⟩ := eased_le_advance sine radian (hdts dt List.mem_cons_self) s.2 hm
    obtain ⟨m₂, hm₂, hle₂⟩ := ih (fun d hd => hdts d (List.mem_cons_of_mem _ hd))
      (s := ((s.1.advance dt s.2).1, (s.1.advance dt s.2).2.1)) hm₁
    exact ⟨m₂, hm₂, hle₁.trans hle₂⟩

/-- **Eased progress goes from 0 to 1 and never back.**  Every curve begins at 0, ends at 1 and
rises strictly in between, and there is no value between 0 and 1 that it does not come as near to as
one wishes.  (It need not take it: among fractions there is no progress that `easeIn` bends to one
half.)  The eased progress of every animation is between 0 and 1, whatever its time, delay and
duration are.  In a table with any others, over steps of time none of which goes back, the animation
of a thing stays and its eased progress does not fall. -/
theorem eased_rises (sine : Rat → Rat) (radian : Rat) : letI := Scalar.exact sine radian
    (∀ e : Easing, e.curve (0 : Rat) = 0 ∧ e.curve (1 : Rat) = 1 ∧
      (∀ s t : Rat, 0 ≤ s → s ≤ t → t ≤ 1 →
        0 ≤ e.curve s ∧ e.curve s ≤ e.curve t ∧ e.curve t ≤ 1 ∧
          (s < t → e.curve s < e.curve t)) ∧
      ∀ y ε : Rat, 0 ≤ y → y ≤ 1 → 0 < ε → ∃ t, 0 ≤ t ∧ t ≤ 1 ∧ |e.curve t - y| < ε) ∧
    (∀ m : Animation Rat, 0 ≤ m.eased ∧ m.eased ≤ 1) ∧
    ∀ {ε : Type} [Posed ε Rat] (dts : List Rat) {s : Motions Rat × Array ε} {i : Nat}
      {m : Animation Rat}, (∀ dt ∈ dts, 0 ≤ dt) → s.1.find? i = some m →
      ∃ m', (pass dts s).1.find? i = some m' ∧ m.eased ≤ m'.eased := by
  let _ := Scalar.exact sine radian
  refine ⟨fun e => ⟨e.curve_zero sine radian, e.curve_one sine radian, ?_, ?_⟩,
    fun m => m.eased_mem sine radian, fun dts _ _ _ hdts hm => eased_le_pass sine radian dts hdts hm⟩
  · intro s t h0 hst h1
    exact ⟨(e.curve_mem sine radian h0 (hst.trans h1)).1, e.curve_le sine radian h0 hst h1,
      (e.curve_mem sine radian (h0.trans hst) h1).2, fun hlt => e.curve_lt sine radian h0 hlt h1⟩
  · intro y ε h0 h1 hε
    exact e.exists_curve_near sine radian h0 h1 hε

/-- Across the seam, and for the lamp that goes out after a second.  The lamp waits for a second, so
after two it is half through its time and, eased in, a quarter of the way. -/
theorem eased_rises_lamp : letI := Scalar.exact (fun x => x) 57
    Easing.easeInOut.curve (1 / 4 : Rat) < Easing.easeInOut.curve (3 / 4) ∧
    ∃ m m', ((⟨[(1, beside)]⟩ : Motions Rat).attach 0 dimming (1080, 1920)
        #[lamp, lamp]).1.find? 0 = some m ∧
      (pass [1 / 2, 1, 1 / 2] ((⟨[(1, beside)]⟩ : Motions Rat).attach 0 dimming (1080, 1920)
        #[lamp, lamp])).1.find? 0 = some m' ∧
      m.eased = 0 ∧ m'.eased = 1 / 4 ∧ m.eased ≤ m'.eased := by
  let _ := Scalar.exact (fun x => x) 57
  obtain ⟨hcurves, -, hruns⟩ := eased_rises (fun x => x) 57
  have hseam := (hcurves .easeInOut).2.2.1 (1 / 4) (3 / 4) (by norm_num) (by norm_num)
    (by norm_num)
  refine ⟨hseam.2.2.2 (by norm_num), ?_⟩
  obtain ⟨m', hm', hle⟩ := hruns [1 / 2, 1, 1 / 2] (by norm_num)
    (show ((⟨[(1, beside)]⟩ : Motions Rat).attach 0 dimming (1080, 1920) #[lamp, lamp]).1.find? 0 =
      some (Animation.ofSpec dimming (Posed.pose lamp)) from rfl)
  refine ⟨_, m', rfl, hm', ?_, ?_, hle⟩
  · decide +kernel
  · have hquarter : ((pass [1 / 2, 1, 1 / 2] ((⟨[(1, beside)]⟩ : Motions Rat).attach 0 dimming
        (1080, 1920) #[lamp, lamp])).1.find? 0).map (·.eased) = some (1 / 4) := by decide +kernel
    rw [hm'] at hquarter
    exact Option.some.inj hquarter

end Motions

end Diorama
