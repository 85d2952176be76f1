/-
# Animations do not depend on the frame rate

An animation is moved on step by step: a step adds to the time that has passed, does nothing while
the delay lasts, and nothing any more once the effect is over.  Still, for every effect but sliding
in, what an entity looks like is decided by the total time alone, however it was split into steps.
This is shown with exact numbers, for which nothing is lost in adding up; the sine is any function.

`Entity.seen` is the look at a time in closed form.  One step takes it from one time to the next
(`Animation.Runs.stepsOn`), as long as nothing else touches the entity.  The other animations of the
same table do not, since a thing has at most one (`Motions.stepAll_at`).
-/
import Diorama.Proofs.World.Showing
import Diorama.World.Frames
import Mathlib.Algebra.Order.Field.Basic
import Mathlib.Data.List.Nodup
import Mathlib.Tactic.FieldSimp
import Mathlib.Tactic.Linarith
import Mathlib.Tactic.NormNum
import Mathlib.Tactic.Ring

namespace Diorama

/-! ## 1. Exact numbers

What the model computes with `Scalar`, said with the operations of the rationals.  From here on
the proofs are about fractions. -/

section Exact

variable (sine : Rat → Rat) (radian a b : Rat)

@[simp] theorem Scalar.lt_exact : (Scalar.exact sine radian).lt a b = decide (a < b) := rfl

@[simp] theorem Scalar.le_exact : (Scalar.exact sine radian).le a b = decide (a ≤ b) := rfl

@[simp] theorem Scalar.square_exact : (Scalar.exact sine radian).square a = a * a := rfl

/-- The larger of two, as the program picks it. -/
theorem Scalar.max_exact : letI := Scalar.exact sine radian
    Scalar.max a b = Max.max a b := by
  change (if decide (a < b) = true then b else a) = Max.max a b
  simp only [max_def_lt, decide_eq_true_eq]

/-- The smaller of two, as the program picks it. -/
theorem Scalar.min_exact : letI := Scalar.exact sine radian
    Scalar.min a b = Min.min a b := by
  change (if decide (b < a) = true then b else a) = Min.min a b
  simp only [min_comm a b, min_def_lt, decide_eq_true_eq]

/-- The absolute value, as the program computes it. -/
theorem Scalar.abs_exact (x : Rat) : letI := Scalar.exact sine radian
    Scalar.abs x = |x| := by
  change (if decide (x ≤ (0.0 : Rat)) = true then (0.0 : Rat) - x else x) = |x|
  norm_num
  split
  · next h => exact (abs_of_nonpos h).symm
  · next h => exact (abs_of_nonneg (not_le.1 h).le).symm

/-- Of a frame no more than a tenth of a second counts. -/
theorem World.min_longestFrame_exact (dt : Rat) : letI := Scalar.exact sine radian
    Scalar.min dt longestFrame = min dt (1 / 10) := by
  rw [Scalar.min_exact]
  change min dt (0.1 : Rat) = min dt (1 / 10)
  norm_num

/-- `_clamp01` is the nearest point of the unit interval. -/
theorem clampUnit_exact : letI := Scalar.exact sine radian
    clampUnit a = max 0 (min 1 a) := by
  unfold clampUnit
  simp only [Scalar.lt_exact, decide_eq_true_eq]
  norm_num
  split
  · next h => rw [min_eq_right (by linarith), max_eq_left h.le]
  · next h =>
    split
    · next h' => rw [min_eq_left h'.le, max_eq_right zero_le_one]
    · next h' => rw [min_eq_right (not_lt.1 h'), max_eq_right (not_lt.1 h)]

/-- Every curve ends at 1. -/
theorem Easing.curve_one (e : Easing) : letI := Scalar.exact sine radian
    e.curve (1 : Rat) = 1 := by
  cases e <;> norm_num [Easing.curve]

/-- The full size of what has none. -/
def fullScale (s : Rat) : Rat := if s = 0 then 1 else s

/-- A resting scale of zero counts as full size (`getattr(entity, "scale_x", 1.0) or 1.0`). -/
theorem restingScale_exact : letI := Scalar.exact sine radian
    Animation.restingScale (some a) = fullScale a := by
  have hzero : (0.0 : Rat) = 0 := by norm_num
  have hone : (1.0 : Rat) = 1 := by norm_num
  change (if decide (a = (0.0 : Rat)) = true then (1.0 : Rat) else a) = fullScale a
  unfold fullScale
  simp only [hzero, hone, decide_eq_true_eq]

end Exact

/-! ## 2. The look at a time

`Waits`, `Over` and what lies between are told from the number of steps and the total time.  The
number matters only in that nothing is over before the first step. -/

namespace AnimationSpec

/-- The effect has not begun: no step was made, or the delay has not run out. -/
def Waits (spec : AnimationSpec Rat) (n : Nat) (t : Rat) : Prop := n = 0 ∨ t < spec.delay

instance (spec : AnimationSpec Rat) (n : Nat) (t : Rat) : Decidable (spec.Waits n t) :=
  inferInstanceAs (Decidable (_ ∨ _))

/-- The effect is over; a pulse never is. -/
def Over (spec : AnimationSpec Rat) (n : Nat) (t : Rat) : Prop :=
  spec.kind ≠ .pulse ∧ 1 ≤ n ∧ spec.delay ≤ t ∧
    (spec.duration ≤ 0 ∨ spec.duration ≤ t - spec.delay)

/-- The eased progress at a time. -/
def eased (sine : Rat → Rat) (radian : Rat) (spec : AnimationSpec Rat) (t : Rat) : Rat :=
  letI := Scalar.exact sine radian
  if spec.duration ≤ 0 then 1
  else spec.easing.curve (max 0 (min 1 ((t - spec.delay) / spec.duration)))

/-- An effect that is over waits for nothing. -/
theorem Over.not_waits {spec : AnimationSpec Rat} {n : Nat} {t : Rat} (h : spec.Over n t) :
    ¬ spec.Waits n t := by
  rintro (hn | ht)
  · exact absurd h.2.1 (by omega)
  · exact absurd h.2.2.1 (not_le.2 ht)

/-- An effect that is over stays over. -/
theorem Over.later {spec : AnimationSpec Rat} {n : Nat} {t dt : Rat} (h : spec.Over n t)
    (hdt : 0 ≤ dt) : spec.Over (n + 1) (t + dt) :=
  ⟨h.1, by omega, by linarith [h.2.2.1], h.2.2.2.imp_right fun h => by linarith⟩

/-- When the effect is over there is nothing left to go. -/
theorem Over.eased (sine : Rat → Rat) (radian : Rat) {spec : AnimationSpec Rat} {n : Nat} {t : Rat}
    (h : spec.Over n t) : spec.eased sine radian t = 1 := by
  unfold AnimationSpec.eased
  split
  · rfl
  · next hpos =>
    have hle : 1 ≤ (t - spec.delay) / spec.duration :=
      (one_le_div (not_le.1 hpos)).2 (h.2.2.2.resolve_left hpos)
    rw [min_eq_left hle, max_eq_right zero_le_one]
    exact spec.easing.curve_one sine radian

end AnimationSpec

namespace Entity

variable (sine : Rat → Rat) (radian : Rat) (spec : AnimationSpec Rat) (e : Entity Rat)

/-- The look of an entity before the effect begins. -/
def opening : Entity Rat :=
  match spec.kind with
  | .fadeIn => { e with alpha := 0 }
  | .scale => { e with scaleX := 0, scaleY := 0 }
  | .fadeOut | .pulse | .slideIn => e

/-- The look of an entity at a time at which the effect has begun. -/
def underway (t : Rat) : Entity Rat :=
  match spec.kind with
  | .fadeIn => { e with alpha := spec.eased sine radian t * e.alpha }
  | .fadeOut => { e with alpha := e.alpha * (1 - spec.eased sine radian t) }
  | .scale => { e with
      scaleX := spec.eased sine radian t * fullScale e.scaleX
      scaleY := spec.eased sine radian t * fullScale e.scaleY }
  | .pulse => { e with
      scaleX := fullScale e.scaleX * (1 + 0.1 * sine (4 * (t - spec.delay)))
      scaleY := fullScale e.scaleY * (1 + 0.1 * sine (4 * (t - spec.delay))) }
  | .slideIn => e

/-- The look of an entity after `n` steps, at the time `t`. -/
def seen (n : Nat) (t : Rat) : Entity Rat :=
  if spec.Waits n t then e.opening spec else e.underway sine radian spec t

/-- The look of an entity when the effect is over. -/
def settled : Entity Rat :=
  match spec.kind with
  | .fadeOut => { e with alpha := 0 }
  | .scale => { e with scaleX := fullScale e.scaleX, scaleY := fullScale e.scaleY }
  | .fadeIn | .pulse | .slideIn => e

/-- When the effect is over, the look is the settled one. -/
theorem seen_of_over {n : Nat} {t : Rat} (h : spec.Over n t) :
    e.seen sine radian spec n t = e.settled spec := by
  unfold seen underway settled
  rw [if_neg h.not_waits, h.eased sine radian]
  cases hk : spec.kind with
  | pulse => exact (h.1 hk).elim
  | fadeIn => simp only [one_mul]
  | fadeOut => simp only [sub_self, mul_zero]
  | scale => simp only [one_mul]
  | slideIn => rfl

/-- What is seen of an entity differs from it only in what the effect changes: its opacity, or its
size.  A slide changes neither. -/
theorem exists_seen (n : Nat) (t : Rat) : ∃ a b, e.seen sine radian spec n t = match spec.kind with
    | .fadeIn | .fadeOut => { e with alpha := a }
    | .scale | .pulse => { e with scaleX := a, scaleY := b }
    | .slideIn => e := by
  unfold seen opening underway
  cases spec.kind with
  | fadeIn => dsimp only; split <;> exact ⟨_, 0, rfl⟩
  | fadeOut =>
    dsimp only
    split
    · exact ⟨e.alpha, 0, rfl⟩
    · exact ⟨_, 0, rfl⟩
  | scale => dsimp only; split <;> exact ⟨_, _, rfl⟩
  | pulse =>
    dsimp only
    split
    · exact ⟨e.scaleX, e.scaleY, rfl⟩
    · exact ⟨_, _, rfl⟩
  | slideIn => exact ⟨0, 0, ite_self e⟩

end Entity

/-! ## 3. One animation

The animation of the model carries the time that has passed and whether it is completed.  `Fits`
says that it is the animation of a description, and `Runs` how far it is; one step takes `Runs` at
one time to `Runs` at the next. -/

namespace Animation

/-- The animation is the one that is described, and remembers how the entity was. -/
structure Fits (spec : AnimationSpec Rat) (e : Entity Rat) (m : Animation Rat) : Prop where
  kind : m.kind = spec.kind
  duration : m.duration = spec.duration
  delay : m.delay = spec.delay
  easing : m.easing = spec.easing
  restAlpha : m.restAlpha = e.alpha
  restScaleX : m.restScaleX = fullScale e.scaleX
  restScaleY : m.restScaleY = fullScale e.scaleY

/-- The animation has made `n` steps in the total time `t`; when it is over its time stands still. -/
structure Runs (spec : AnimationSpec Rat) (e : Entity Rat) (n : Nat) (t : Rat)
    (m : Animation Rat) : Prop extends Fits spec e m where
  completed : m.completed = true ↔ spec.Over n t
  elapsed : m.completed = false → m.elapsed = t

variable {spec : AnimationSpec Rat} {e : Entity Rat}

/-- The time is no part of what the animation is. -/
theorem Fits.at {m : Animation Rat} (h : Fits spec e m) (elapsed : Rat) (completed : Bool) :
    Fits spec e { m with elapsed, completed } :=
  ⟨h.kind, h.duration, h.delay, h.easing, h.restAlpha, h.restScaleX, h.restScaleY⟩

section Pose

variable {α : Type} [Scalar α] {m : Animation α} (p : Pose α)

/-- The opacity grows from nothing to what it was. -/
theorem pose_fadeIn (h : m.kind = .fadeIn) :
    m.pose p = .ok { p with alpha := some (m.easing.curve m.progress * m.restAlpha) } := by
  unfold pose
  rw [h]
  rfl

/-- The opacity shrinks from what it was to nothing. -/
theorem pose_fadeOut (h : m.kind = .fadeOut) :
    m.pose p = .ok { p with alpha := some (m.restAlpha * (1.0 - m.easing.curve m.progress)) } := by
  unfold pose
  rw [h]
  rfl

/-- The scale grows from nothing to what it was. -/
theorem pose_scale (h : m.kind = .scale) :
    m.pose p = .ok { p with
      scaleX := some (m.easing.curve m.progress * m.restScaleX)
      scaleY := some (m.easing.curve m.progress * m.restScaleY) } := by
  unfold pose
  rw [h]
  rfl

/-- The scale swings around what it was. -/
theorem pose_pulse (h : m.kind = .pulse) {s : α} (hs : Scalar.sine m.angle = .ok s) :
    m.pose p = .ok { p with
      scaleX := some (m.restScaleX * (1.0 + pulseAmplitude * s))
      scaleY := some (m.restScaleY * (1.0 + pulseAmplitude * s)) } := by
  unfold pose
  rw [h, hs]
  rfl

variable (dt : α)

/-- A completed animation moves nothing. -/
theorem step_of_completed (h : m.completed = true) : m.step dt p = (m, .ok p) := if_pos h

/-- During the delay only time passes. -/
theorem step_of_delay (h : m.completed = false)
    (hdelay : Scalar.lt (m.elapsed + dt) m.delay = true) :
    m.step dt p = ({ m with elapsed := m.elapsed + dt }, .ok p) := by
  unfold step
  rw [if_neg (Bool.eq_false_iff.1 h)]
  exact if_pos hdelay

/-- After the delay the pose is that of the present time. -/
theorem step_of_begun (h : m.completed = false)
    (hdelay : ¬ Scalar.lt (m.elapsed + dt) m.delay = true) :
    m.step dt p =
      ({ m with
        elapsed := m.elapsed + dt
        completed := m.kind != .pulse &&
          Scalar.le 1.0 ({ m with elapsed := m.elapsed + dt } : Animation α).progress },
      ({ m with elapsed := m.elapsed + dt } : Animation α).pose p) := by
  unfold step
  rw [if_neg (Bool.eq_false_iff.1 h)]
  exact if_neg hdelay

end Pose

section Exact

variable (sine : Rat → Rat) (radian : Rat)

/-- An animation starts at the time zero, with its rest remembered. -/
theorem runs_ofSpec (spec : AnimationSpec Rat) (e : Entity Rat) :
    letI := Scalar.exact sine radian
    Runs spec e 0 0 (ofSpec spec (Posed.pose e)) where
  kind := rfl
  duration := rfl
  delay := rfl
  easing := rfl
  restAlpha := rfl
  restScaleX := restingScale_exact sine radian e.scaleX
  restScaleY := restingScale_exact sine radian e.scaleY
  completed := ⟨nofun, fun h => absurd h.2.1 (by omega)⟩
  elapsed _ := by
    change (0.0 : Rat) = 0
    norm_num

/-- The start of an effect is its look at the beginning. -/
theorem start_ofSpec (hkind : spec.kind ≠ .slideIn) (canvas : Rat × Rat) :
    letI := Scalar.exact sine radian
    Posed.withPose ((ofSpec spec (Posed.pose e)).start canvas (Posed.pose e)) e =
      e.seen sine radian spec 0 0 := by
  have hzero : (0.0 : Rat) = 0 := by norm_num
  have hseen : e.seen sine radian spec 0 0 = e.opening spec := if_pos (Or.inl rfl)
  rw [hseen]
  obtain ⟨kind, duration, delay, easing, side⟩ := spec
  cases kind with
  | slideIn => exact (hkind rfl).elim
  | fadeIn =>
    change { e with alpha := (0.0 : Rat) } = { e with alpha := 0 }
    rw [hzero]
  | scale =>
    change { e with scaleX := (0.0 : Rat), scaleY := (0.0 : Rat) } =
      { e with scaleX := 0, scaleY := 0 }
    rw [hzero]
  | fadeOut => rfl
  | pulse => rfl

/-- The progress is the part of the duration that has passed, but no less than none of it and no more
than all. -/
theorem progress_exact (m : Animation Rat) : letI := Scalar.exact sine radian
    m.progress = if m.duration ≤ 0 then 1
      else max 0 (min 1 ((m.elapsed - m.delay) / m.duration)) := by
  have hzero : (0.0 : Rat) = 0 := by norm_num
  have hone : (1.0 : Rat) = 1 := by norm_num
  unfold Animation.progress activeTime
  rw [clampUnit_exact]
  simp only [Scalar.le_exact, decide_eq_true_eq, hzero, hone]

variable {m : Animation Rat} (h : Fits spec e m)

include h

/-- The progress is the share of the duration that has passed since the delay, between 0 and 1. -/
theorem Fits.progress : letI := Scalar.exact sine radian
    m.progress = if spec.duration ≤ 0 then 1
      else max 0 (min 1 ((m.elapsed - spec.delay) / spec.duration)) := by
  rw [progress_exact, h.duration, h.delay]

/-- The progress is complete when the duration has passed. -/
theorem Fits.one_le_progress : letI := Scalar.exact sine radian
    1 ≤ m.progress ↔ spec.duration ≤ 0 ∨ spec.duration ≤ m.elapsed - spec.delay := by
  rw [h.progress]
  split
  · next hneg => exact ⟨fun _ => Or.inl hneg, fun _ => le_rfl⟩
  · next hpos =>
    rw [le_max_iff, le_min_iff, one_le_div (not_le.1 hpos)]
    constructor
    · rintro (h | ⟨-, h⟩)
      · exact absurd h (by norm_num)
      · exact Or.inr h
    · exact fun h => Or.inr ⟨le_rfl, h.resolve_left hpos⟩

/-- The eased progress is a function of the time. -/
theorem Fits.curve_progress : letI := Scalar.exact sine radian
    m.easing.curve m.progress = spec.eased sine radian m.elapsed := by
  rw [h.progress, h.easing]
  unfold AnimationSpec.eased
  split
  · exact spec.easing.curve_one sine radian
  · rfl

/-- Every angle has a sine. -/
theorem Fits.sine_angle : letI := Scalar.exact sine radian
    Scalar.sine m.angle = .ok (sine (4 * (m.elapsed - spec.delay))) := by
  have hfour : (4.0 : Rat) = 4 := by norm_num
  rw [← h.delay, ← hfour]
  rfl

/-- Once it has begun, an effect moves the entity from its look at one time to that at
another.  One case for each effect but the slide, which has lemmas of its own: the pose is the
value of the curve at the progress, between the resting values of the entity. -/
theorem Fits.pose (hkind : spec.kind ≠ .slideIn) {n : Nat} {t : Rat}
    (hu : ¬ spec.Waits (n + 1) m.elapsed) : letI := Scalar.exact sine radian
    ∃ p, m.pose (Posed.pose (e.seen sine radian spec n t)) = .ok p ∧
      Posed.withPose p (e.seen sine radian spec n t) =
        e.seen sine radian spec (n + 1) m.elapsed := by
  let _ := Scalar.exact sine radian
  have hone : (1.0 : Rat) = 1 := by norm_num
  have hseen : e.seen sine radian spec (n + 1) m.elapsed = e.underway sine radian spec m.elapsed :=
    if_neg hu
  unfold Entity.underway at hseen
  obtain ⟨a, b, ha⟩ := e.exists_seen sine radian spec n t
  cases hk : spec.kind with
  | slideIn => exact (hkind hk).elim
  | fadeIn =>
    rw [hk] at ha
    rw [pose_fadeIn _ (h.kind.trans hk), h.curve_progress sine radian, h.restAlpha, ha, hseen, hk]
    exact ⟨_, rfl, rfl⟩
  | fadeOut =>
    rw [hk] at ha
    rw [pose_fadeOut _ (h.kind.trans hk), h.curve_progress sine radian, h.restAlpha, ha, hone,
      hseen, hk]
    exact ⟨_, rfl, rfl⟩
  | scale =>
    rw [hk] at ha
    rw [pose_scale _ (h.kind.trans hk), h.curve_progress sine radian, h.restScaleX, h.restScaleY,
      ha, hseen, hk]
    exact ⟨_, rfl, rfl⟩
  | pulse =>
    rw [hk] at ha
    rw [pose_pulse _ (h.kind.trans hk) (h.sine_angle sine radian), h.restScaleX, h.restScaleY, ha,
      hone, hseen, hk]
    exact ⟨_, rfl, rfl⟩

end Exact

section Steps

variable (sine : Rat → Rat) (radian : Rat) {n : Nat} {t dt : Rat} {m : Animation Rat}

/-- A step takes the entity from its look at one time to its look at the next. -/
def StepsOn (spec : AnimationSpec Rat) (e : Entity Rat) (n : Nat) (t dt : Rat)
    (m : Animation Rat) : Prop :=
  letI := Scalar.exact sine radian
  ∃ m' p, m.step dt (Posed.pose (e.seen sine radian spec n t)) = (m', .ok p) ∧
    Posed.withPose p (e.seen sine radian spec n t) = e.seen sine radian spec (n + 1) (t + dt) ∧
    Runs spec e (n + 1) (t + dt) m'

/-- A step takes an animation on to the next time, whatever is moved by it.  A completed animation
stands still, one within its delay only counts the time, and any other one advances; these are the
branches of `step`. -/
theorem Runs.step (h : Runs spec e n t m) (hdt : 0 ≤ dt) (p : Pose Rat) :
    letI := Scalar.exact sine radian
    Runs spec e (n + 1) (t + dt) (m.step dt p).1 := by
  let _ := Scalar.exact sine radian
  cases hc : m.completed with
  | true =>
    have hlater := (h.completed.1 hc).later hdt
    rw [step_of_completed p dt hc]
    exact ⟨h.toFits, ⟨fun _ => hlater, fun _ => hc⟩, by simp [hc]⟩
  | false =>
    have helapsed := h.elapsed hc
    by_cases hdelay : t + dt < spec.delay
    -- the delay is not over yet, so the effect cannot be either
    · have hwaits : spec.Waits (n + 1) (t + dt) := Or.inr hdelay
      rw [step_of_delay p dt hc (by simp [helapsed, h.delay, hdelay])]
      exact ⟨h.toFits.at _ _, ⟨by simp [hc], fun hover => (hover.not_waits hwaits).elim⟩,
        fun _ => by rw [helapsed]⟩
    · have hone : (1.0 : Rat) = 1 := by norm_num
      have hfits : Fits spec e { m with elapsed := m.elapsed + dt } := h.toFits.at _ _
      have hprogress := hfits.one_le_progress sine radian
      rw [step_of_begun p dt hc (by simp [helapsed, h.delay, hdelay])]
      refine ⟨h.toFits.at _ _, ?_, fun _ => by rw [helapsed]⟩
      rw [helapsed] at hprogress
      rw [Bool.and_eq_true, bne_iff_ne, helapsed, hone, Scalar.le_exact, decide_eq_true_eq,
        hprogress, h.kind]
      exact ⟨fun h => ⟨h.1, by omega, not_lt.1 hdelay, h.2⟩, fun h => ⟨h.1, h.2.2.2⟩⟩

/-- When the effect is over nothing changes any more. -/
theorem Runs.stepsOn_of_completed (h : Runs spec e n t m) (hdt : 0 ≤ dt)
    (hc : m.completed = true) : StepsOn sine radian spec e n t dt m := by
  let _ := Scalar.exact sine radian
  have hover := h.completed.1 hc
  refine ⟨_, _, Prod.ext rfl (by rw [step_of_completed _ dt hc]), ?_, h.step sine radian hdt _⟩
  rw [Entity.seen_of_over sine radian spec e hover,
    Entity.seen_of_over sine radian spec e (hover.later hdt)]
  rfl

/-- As long as the delay has not run out nothing changes yet. -/
theorem Runs.stepsOn_of_delay (h : Runs spec e n t m) (hdt : 0 ≤ dt) (hc : m.completed = false)
    (hdelay : t + dt < spec.delay) : StepsOn sine radian spec e n t dt m := by
  let _ := Scalar.exact sine radian
  have helapsed := h.elapsed hc
  have hwaits : spec.Waits n t := Or.inr (by linarith)
  have hwaits' : spec.Waits (n + 1) (t + dt) := Or.inr hdelay
  have hlt : Scalar.lt (m.elapsed + dt) m.delay = true := by simp [helapsed, h.delay, hdelay]
  refine ⟨_, _, Prod.ext rfl (by rw [step_of_delay _ dt hc hlt]), ?_, h.step sine radian hdt _⟩
  unfold Entity.seen
  rw [if_pos hwaits, if_pos hwaits']
  rfl

/-- From then on the entity has its look at the time. -/
theorem Runs.stepsOn_of_begun (h : Runs spec e n t m) (hkind : spec.kind ≠ .slideIn)
    (hdt : 0 ≤ dt) (hc : m.completed = false) (hdelay : ¬ t + dt < spec.delay) :
    StepsOn sine radian spec e n t dt m := by
  let _ := Scalar.exact sine radian
  have helapsed := h.elapsed hc
  have hwaits : ¬ spec.Waits (n + 1) (t + dt) := by
    rintro (hn | ht)
    · cases hn
    · exact hdelay ht
  have hlt : ¬ Scalar.lt (m.elapsed + dt) m.delay = true := by simp [helapsed, h.delay, hdelay]
  have hfits : Fits spec e { m with elapsed := m.elapsed + dt } := h.toFits.at _ _
  obtain ⟨p, hp, hlook⟩ := hfits.pose sine radian hkind (n := n) (t := t)
    (by rw [helapsed]; exact hwaits)
  refine ⟨_, p, Prod.ext rfl (by rw [step_of_begun _ dt hc hlt, hp]), ?_, h.step sine radian hdt _⟩
  rw [hlook, helapsed]

/-- **One step takes the entity from its look at one time to its look at the next.** -/
theorem Runs.stepsOn (h : Runs spec e n t m) (hkind : spec.kind ≠ .slideIn) (hdt : 0 ≤ dt) :
    StepsOn sine radian spec e n t dt m := by
  cases hc : m.completed with
  | true => exact h.stepsOn_of_completed sine radian hdt hc
  | false =>
    by_cases hdelay : t + dt < spec.delay
    · exact h.stepsOn_of_delay sine radian hdt hc hdelay
    · exact h.stepsOn_of_begun sine radian hkind hdt hc hdelay

end Steps

/-- With exact numbers every step has a pose. -/
theorem exists_step (sine : Rat → Rat) (radian : Rat) (m : Animation Rat) (dt : Rat)
    (p : Pose Rat) : letI := Scalar.exact sine radian
    ∃ q, (m.step dt p).2 = .ok q := by
  let _ := Scalar.exact sine radian
  have hpose (m : Animation Rat) : ∃ q, m.pose p = .ok q := by
    obtain ⟨kind, duration, delay, easing, side, _, _, _, _, _, _, _⟩ := m
    cases kind <;> cases side <;> exact ⟨_, rfl⟩
  unfold step
  split
  · exact ⟨p, rfl⟩
  · dsimp only
    split
    · exact ⟨p, rfl⟩
    · exact hpose _

end Animation

/-! ## 4. All animations of a table

A table steps its animations one after the other and stops at the first that has no pose.  For one
thing only its own animation matters, since each thing has at most one. -/

namespace Motions

section Table

variable {α ε : Type} [Scalar α] [Posed ε α] {dt : α}

/-- Things without an animation are not moved. -/
theorem stepAll_other {i : Nat} : ∀ (ms : List (Nat × Animation α)) (things : Array ε),
    i ∉ ms.map (·.1) → (stepAll dt ms things).2.1[i]? = things[i]?
  | [], _, _ => rfl
  | (k, m) :: rest, things, h => by
    rw [List.map_cons, List.mem_cons, not_or] at h
    unfold stepAll
    split
    · exact stepAll_other rest things h.2
    · split
      · rfl
      · rw [show _ = _ from stepAll_other rest _ h.2, Array.set!_eq_setIfInBounds,
          Array.getElem?_setIfInBounds_ne (Ne.symm h.1)]

/-- A thing that is gone is passed over. -/
theorem stepAll_cons_none {k : Nat} {m : Animation α} {rest : List (Nat × Animation α)}
    {things : Array ε} (h : things[k]? = none) :
    stepAll dt ((k, m) :: rest) things =
      ((k, m) :: (stepAll dt rest things).1, (stepAll dt rest things).2) := by
  rw [stepAll, h]

/-- An animation with a pose moves its thing, and the others come next. -/
theorem stepAll_cons_some {k : Nat} {m m' : Animation α} {rest : List (Nat × Animation α)}
    {things : Array ε} {e : ε} {p : Pose α} (he : things[k]? = some e)
    (hstep : m.step dt (Posed.pose e) = (m', .ok p)) :
    stepAll dt ((k, m) :: rest) things =
      ((k, m') :: (stepAll dt rest (things.set! k (Posed.withPose p e))).1,
        (stepAll dt rest (things.set! k (Posed.withPose p e))).2) := by
  rw [stepAll, he]
  dsimp only
  rw [hstep]

/-- An animation without a pose ends the step; those behind it are not stepped. -/
theorem stepAll_cons_error {k : Nat} {m m' : Animation α} {rest : List (Nat × Animation α)}
    {things : Array ε} {e : ε} {f : Fault} (he : things[k]? = some e)
    (hstep : m.step dt (Posed.pose e) = (m', .error f)) :
    stepAll dt ((k, m) :: rest) things = ((k, m') :: rest, things, .error f) := by
  rw [stepAll, he]
  dsimp only
  rw [hstep]

/-- A thing with an animation is moved by that one, once, if no step is without a pose.  By
induction on the animations.  Those of other things come before or after it and leave it alone,
since no thing has two. -/
theorem stepAll_at (hok : ∀ (m : Animation α) (p : Pose α), ∃ q, (m.step dt p).2 = .ok q)
    {i : Nat} {m m' : Animation α} {e : ε} {p : Pose α}
    (hstep : m.step dt (Posed.pose e) = (m', .ok p)) :
    ∀ (ms : List (Nat × Animation α)) (things : Array ε), (ms.map (·.1)).Nodup →
      ms.lookup i = some m → things[i]? = some e →
      (stepAll dt ms things).1.lookup i = some m' ∧
        (stepAll dt ms things).2.1[i]? = some (Posed.withPose p e)
  | [], _, _, hm, _ => by cases hm
  | (k, d) :: rest, things, hkeys, hm, he => by
    rw [List.map_cons, List.nodup_cons] at hkeys
    rw [List.lookup_cons] at hm
    by_cases hki : i = k
    · subst hki
      rw [beq_self_eq_true] at hm
      cases hm
      rw [stepAll_cons_some he hstep, List.lookup_cons, beq_self_eq_true,
        stepAll_other rest _ hkeys.1, Array.set!_eq_setIfInBounds,
        Array.getElem?_setIfInBounds_self_of_lt (Array.getElem?_eq_some_iff.1 he).1]
      exact ⟨rfl, rfl⟩
    · rw [beq_false_of_ne hki] at hm
      have hrest (others : Array ε) (ho : others[i]? = some e) :=
        stepAll_at hok hstep rest others hkeys.2 hm ho
      cases hk : things[k]? with
      | none =>
        rw [stepAll_cons_none hk, List.lookup_cons, beq_false_of_ne hki]
        exact hrest things he
      | some t =>
        obtain ⟨q, hq⟩ := hok d (Posed.pose t)
        rw [stepAll_cons_some hk (Prod.ext rfl hq), List.lookup_cons, beq_false_of_ne hki]
        refine hrest _ ?_
        rw [Array.set!_eq_setIfInBounds, Array.getElem?_setIfInBounds_ne (Ne.symm hki), he]

/-- If every animation has a pose at every time, the step ends with a result. -/
theorem stepAll_ok (hok : ∀ (m : Animation α) (p : Pose α), ∃ q, (m.step dt p).2 = .ok q) :
    ∀ (ms : List (Nat × Animation α)) (things : Array ε), (stepAll dt ms things).2.2 = .ok ()
  | [], _ => rfl
  | (k, d) :: rest, things => by
    cases hk : things[k]? with
    | none =>
      rw [stepAll_cons_none hk]
      exact stepAll_ok hok rest things
    | some t =>
      obtain ⟨q, hq⟩ := hok d (Posed.pose t)
      rw [stepAll_cons_some hk (Prod.ext rfl hq)]
      exact stepAll_ok hok rest _

end Table

section Put

variable {α : Type}

/-- What was put into the table is found there. -/
theorem find?_put (a : Motions α) (i : Nat) (m : Animation α) : (a.put i m).find? i = some m := by
  obtain ⟨entries⟩ := a
  unfold put find? contains find?
  split
  · next h =>
    dsimp only at h ⊢
    induction entries with
    | nil => cases h
    | cons p entries ih =>
      obtain ⟨k, d⟩ := p
      rw [List.map_cons]
      by_cases hk : k = i
      · rw [if_pos (by simp [hk]), List.lookup_cons, beq_self_eq_true]
      · rw [List.lookup_cons, beq_false_of_ne (Ne.symm hk)] at h
        rw [if_neg (by simp [hk]), List.lookup_cons, beq_false_of_ne (Ne.symm hk)]
        exact ih h
  · next h =>
    rw [List.lookup_append, Option.not_isSome_iff_eq_none.1 h, Option.none_or, List.lookup_cons,
      beq_self_eq_true]

/-- Every thing has at most one animation.  Putting either replaces an entry under its own key or
adds one under a key that was not there. -/
theorem nodup_put {a : Motions α} (h : (a.entries.map (·.1)).Nodup) (i : Nat) (m : Animation α) :
    ((a.put i m).entries.map (·.1)).Nodup := by
  unfold put
  split
  · have hkeys : (a.entries.map fun e => if e.1 == i then (i, m) else e).map (·.1) =
        a.entries.map (·.1) := by
      rw [List.map_map]
      refine List.map_congr_left fun p _ => ?_
      simp only [Function.comp_apply]
      split
      · next hp => exact (beq_iff_eq.1 hp).symm
      · rfl
    rw [hkeys]
    exact h
  · next hnone =>
    have hlookup : a.entries.lookup i = none := Option.not_isSome_iff_eq_none.1 hnone
    rw [List.map_append, List.nodup_append]
    refine ⟨h, List.nodup_singleton i, fun k hk j hj hkj => ?_⟩
    obtain ⟨p, hp, rfl⟩ := List.mem_map.1 hk
    have hne : i ≠ p.1 := bne_iff_ne.1 (List.lookup_eq_none_iff.1 hlookup p hp)
    exact hne (hkj.trans (List.mem_singleton.1 hj)).symm

end Put

/-! ## 5. Runs

By induction on the steps: the look after each of them is the closed form at the time that has
passed by then. -/

/-- Lets time pass again and again. -/
def pass {α ε : Type} [Scalar α] [Posed ε α] :
    List α → Motions α × Array ε → Motions α × Array ε
  | [], s => s
  | dt :: dts, s => pass dts ((s.1.advance dt s.2).1, (s.1.advance dt s.2).2.1)

/-- The entity `i` has an animation and looks like it, after `n` steps and at the time `t`. -/
structure Shows (sine : Rat → Rat) (radian : Rat) (spec : AnimationSpec Rat) (i : Nat)
    (e : Entity Rat) (n : Nat) (t : Rat) (s : Motions Rat × Array (Entity Rat)) : Prop where
  keys : (s.1.entries.map (·.1)).Nodup
  runs : ∃ m, s.1.find? i = some m ∧ m.Runs spec e n t
  look : s.2[i]? = some (e.seen sine radian spec n t)

section Exact

variable (sine : Rat → Rat) (radian : Rat) {spec : AnimationSpec Rat} {i : Nat} {e : Entity Rat}

/-- Attaching shows the opening look, at the time zero. -/
theorem shows_attach {a : Motions Rat} (hkeys : (a.entries.map (·.1)).Nodup)
    {things : Array (Entity Rat)} (he : things[i]? = some e) (hkind : spec.kind ≠ .slideIn)
    (canvas : Rat × Rat) : letI := Scalar.exact sine radian
    Shows sine radian spec i e 0 0 (a.attach i spec canvas things) := by
  let _ := Scalar.exact sine radian
  unfold attach
  rw [he]
  refine ⟨nodup_put hkeys i _, ⟨_, find?_put a i _, Animation.runs_ofSpec sine radian spec e⟩, ?_⟩
  dsimp only
  rw [Array.set!_eq_setIfInBounds,
    Array.getElem?_setIfInBounds_self_of_lt (Array.getElem?_eq_some_iff.1 he).1,
    Animation.start_ofSpec sine radian hkind canvas]

variable {sine radian}

/-- One step more. -/
theorem Shows.advance {n : Nat} {t dt : Rat} {s : Motions Rat × Array (Entity Rat)}
    (h : Shows sine radian spec i e n t s) (hkind : spec.kind ≠ .slideIn) (hdt : 0 ≤ dt) :
    letI := Scalar.exact sine radian
    Shows sine radian spec i e (n + 1) (t + dt)
      ((s.1.advance dt s.2).1, (s.1.advance dt s.2).2.1) := by
  let _ := Scalar.exact sine radian
  obtain ⟨m, hm, hruns⟩ := h.runs
  obtain ⟨m', p, hstep, hlook, hruns'⟩ := hruns.stepsOn sine radian hkind hdt
  obtain ⟨hm', hp⟩ := stepAll_at (fun m => m.exists_step sine radian dt) hstep s.1.entries s.2 h.keys
    hm h.look
  refine ⟨?_, ⟨m', hm', hruns'⟩, hp.trans (congrArg some hlook)⟩
  change ((stepAll dt s.1.entries s.2).1.map (·.1)).Nodup
  rw [keys_stepAll]
  exact h.keys

/-- Any number of steps. -/
theorem Shows.pass (hkind : spec.kind ≠ .slideIn) :
    ∀ (dts : List Rat) {n : Nat} {t : Rat} {s : Motions Rat × Array (Entity Rat)},
      (∀ dt ∈ dts, 0 ≤ dt) → Shows sine radian spec i e n t s → letI := Scalar.exact sine radian
      Shows sine radian spec i e (n + dts.length) (t + dts.sum) (pass dts s)
  | [], n, t, s, _, h => by
    rw [List.length_nil, List.sum_nil, add_zero, add_zero]
    exact h
  | dt :: dts, n, t, s, hdts, h => by
    have hrest := Shows.pass hkind dts (fun d hd => hdts d (List.mem_cons_of_mem _ hd))
      (h.advance hkind (hdts dt List.mem_cons_self))
    rw [List.length_cons, List.sum_cons, Nat.add_comm dts.length, ← Nat.add_assoc, ← add_assoc]
    exact hrest

variable (sine radian)

/-- When an animation is completed, no step changes the entity, whatever its length. -/
theorem pass_of_completed {m : Animation Rat} (hm : m.completed = true) :
    ∀ (dts : List Rat) {s : Motions Rat × Array (Entity Rat)}, (s.1.entries.map (·.1)).Nodup →
      s.1.find? i = some m → s.2[i]? = some e → letI := Scalar.exact sine radian
      (pass dts s).2[i]? = some e
  | [], _, _, _, he => he
  | dt :: dts, s, hkeys, hfind, he => by
    let _ := Scalar.exact sine radian
    obtain ⟨hm', he'⟩ := stepAll_at (fun m => m.exists_step sine radian dt)
      (Animation.step_of_completed _ dt hm) s.1.entries s.2 hkeys hfind he
    refine pass_of_completed hm dts ?_ hm' he'
    change ((stepAll dt s.1.entries s.2).1.map (·.1)).Nodup
    rw [keys_stepAll]
    exact hkeys

end Exact

/-- **Fading, growing and pulsing do not depend on the frame rate.**  An entity gets an animation
and then time passes in any number of steps.  What it looks like is the look at the total time, with
all its other attributes as before; the animation is completed exactly when the effect is over.
From then on the entity has its final look and no step changes it.  No step ends with a fault. -/
theorem look_of_total_time (sine : Rat → Rat) (radian : Rat) : letI := Scalar.exact sine radian
    ∀ {a : Motions Rat} {spec : AnimationSpec Rat} {i : Nat} {things : Array (Entity Rat)}
      {e : Entity Rat} (canvas : Rat × Rat) (dts : List Rat),
      (a.entries.map (·.1)).Nodup → things[i]? = some e → spec.kind ≠ .slideIn →
      (∀ dt ∈ dts, 0 ≤ dt) →
      ∃ m, (pass dts (a.attach i spec canvas things)).1.find? i = some m ∧
        (pass dts (a.attach i spec canvas things)).2[i]? =
          some (e.seen sine radian spec dts.length dts.sum) ∧
        (m.completed = true ↔ spec.Over dts.length dts.sum) ∧
        (m.completed = true → e.seen sine radian spec dts.length dts.sum = e.settled spec ∧
          ∀ dts' : List Rat,
            (pass dts' (pass dts (a.attach i spec canvas things))).2[i]? = some (e.settled spec)) ∧
        ∀ dt, ((pass dts (a.attach i spec canvas things)).1.advance dt
          (pass dts (a.attach i spec canvas things)).2).2.2 = .ok () := by
  intro a spec i things e canvas dts hkeys he hkind hdts
  let _ := Scalar.exact sine radian
  have hshows := (shows_attach sine radian hkeys he hkind canvas).pass hkind dts hdts
  rw [Nat.zero_add, zero_add] at hshows
  obtain ⟨m, hm, hruns⟩ := hshows.runs
  refine ⟨m, hm, hshows.look, hruns.completed, fun hc => ?_, fun dt => ?_⟩
  · have hsettled := e.seen_of_over sine radian spec (hruns.completed.1 hc)
    refine ⟨hsettled, fun dts' => ?_⟩
    exact pass_of_completed sine radian hc dts' hshows.keys hm (hsettled ▸ hshows.look)
  · exact stepAll_ok (fun m => m.exists_step sine radian dt) _ _

/-! A lamp goes out in two seconds, after one second, while the entity beside it pulses. -/

def lamp : Entity Rat where
  x := 10
  y := 20
  width := 30
  height := 40
  rotation := 0
  alpha := 4 / 5
  scaleX := 1
  scaleY := 1
  form := .divider

def dimming : AnimationSpec Rat where
  kind := .fadeOut
  duration := 2
  delay := 1
  easing := .easeIn
  side := .top

def beside : Animation Rat where
  kind := .pulse
  duration := 1
  delay := 0
  easing := .linear
  side := .top
  elapsed := 7
  restAlpha := 1
  restX := 0
  restY := 0
  restScaleX := 1
  restScaleY := 1

/-- Two seconds in three steps, and two more in one. -/
theorem look_of_total_time_lamp : letI := Scalar.exact (fun x => x) 57
    (pass [1 / 2, 1, 1 / 2] ((⟨[(1, beside)]⟩ : Motions Rat).attach 0 dimming (1080, 1920)
      #[lamp, lamp])).2[0]? = some { lamp with alpha := 3 / 5 } ∧
    (pass [1 / 2, 1, 1 / 2, 2] ((⟨[(1, beside)]⟩ : Motions Rat).attach 0 dimming (1080, 1920)
      #[lamp, lamp])).2[0]? = some { lamp with alpha := 0 } := by
  have hlook (dts : List Rat) (hdts : ∀ dt ∈ dts, 0 ≤ dt) :=
    look_of_total_time (fun x => x) 57 (a := ⟨[(1, beside)]⟩) (1080, 1920) dts (by simp)
      (show #[lamp, lamp][0]? = some lamp from rfl)
      (show dimming.kind ≠ .slideIn by decide) hdts
  obtain ⟨-, -, hthree, -⟩ := hlook [1 / 2, 1, 1 / 2] (by norm_num)
  obtain ⟨m, -, hfour, hover, hsettled, -⟩ := hlook [1 / 2, 1, 1 / 2, 2] (by norm_num)
  refine ⟨hthree.trans ?_, hfour.trans ?_⟩
  · congr 1
    norm_num [Entity.seen, Entity.underway, AnimationSpec.Waits, AnimationSpec.eased, dimming, lamp,
      Easing.curve]
  · have hdone : dimming.Over 4 ([1 / 2, 1, 1 / 2, 2] : List Rat).sum := by
      refine ⟨by decide, by decide, ?_, Or.inr ?_⟩ <;> norm_num [dimming]
    exact congrArg some (hsettled (hover.2 hdone)).1

end Motions

end Diorama
