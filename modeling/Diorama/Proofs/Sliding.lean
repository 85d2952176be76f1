/-
# Sliding in

An entity that slides in is moved, at every step, a part of the way from where it is to where it
rests.  So unlike the look of the other effects its place depends on how the time was split into
steps, and the finer the steps the nearer it is.

What a step leaves of the distance is one less its eased progress.  What all steps together leave is
the product (`AnimationSpec.left`), so everything that is said here of the way is read off from a
product of numbers between 0 and 1: it only gets shorter, it keeps its sign, more factors make it no
longer, and the factor 0 of a step after the end makes it nothing.
-/
import Diorama.Proofs.Curves

namespace Diorama

/-! ## 1. What is left of the way

In each step after the delay a slide goes a part of the way that is left, the part being its eased
progress.  So what is left is a product of factors between 0 and 1. -/

namespace AnimationSpec

variable (sine : Rat → Rat) (radian : Rat) (spec : AnimationSpec Rat)

/-- The eased progress lies between 0 and 1, so what it leaves does too. -/
theorem eased_mem (t : Rat) : 0 ≤ spec.eased sine radian t ∧ spec.eased sine radian t ≤ 1 := by
  unfold eased
  split
  · norm_num
  · exact spec.easing.curve_mem sine radian (le_max_left _ _)
      (max_le zero_le_one (min_le_left _ _))

/-- The times at which steps end, when the first of them begins at `t`. -/
def moments : Rat → List Rat → List Rat
  | _, [] => []
  | t, dt :: dts => (t + dt) :: moments (t + dt) dts

/-- The part of the way that is left after steps from the time `t` on: every step that ends when
the delay is over leaves one less its eased progress. -/
def left (t : Rat) (dts : List Rat) : Rat :=
  (((moments t dts).filter (spec.delay ≤ ·)).map fun t => 1 - spec.eased sine radian t).prod

@[simp] theorem left_nil (t : Rat) : spec.left sine radian t [] = 1 := rfl

/-- A step during the delay leaves everything, and a step after it leaves one less the progress. -/
theorem left_cons (t dt : Rat) (dts : List Rat) :
    spec.left sine radian t (dt :: dts) =
      (if spec.delay ≤ t + dt then 1 - spec.eased sine radian (t + dt) else 1) *
        spec.left sine radian (t + dt) dts := by
  by_cases h : spec.delay ≤ t + dt <;> simp [left, moments, h]

/-- What two stretches of time leave is the product, the second starting where the first ended. -/
theorem left_append (t : Rat) (dts more : List Rat) :
    spec.left sine radian t (dts ++ more) =
      spec.left sine radian t dts * spec.left sine radian (t + dts.sum) more := by
  induction dts generalizing t with
  | nil => simp
  | cons dt dts ih =>
    simp only [List.cons_append, left_cons, ih, List.sum_cons, mul_assoc, add_assoc]

/-- A product of numbers between 0 and 1 is one. -/
theorem left_mem (t : Rat) (dts : List Rat) :
    0 ≤ spec.left sine radian t dts ∧ spec.left sine radian t dts ≤ 1 := by
  induction dts generalizing t with
  | nil => simp
  | cons dt dts ih =>
    obtain ⟨hnonneg, hle⟩ := ih (t + dt)
    obtain ⟨h0, h1⟩ := spec.eased_mem sine radian (t + dt)
    rw [left_cons]
    split
    · exact ⟨mul_nonneg (by linarith) hnonneg, mul_le_one₀ (by linarith) hnonneg hle⟩
    · rw [one_mul]
      exact ⟨hnonneg, hle⟩

/-- Making one step in several leaves no more of the way, since the last of them ends when the one
would. -/
theorem left_le_left_sum {block : List Rat} (hblock : block ≠ []) (t : Rat) :
    spec.left sine radian t block ≤ spec.left sine radian t [block.sum] := by
  obtain ⟨dts, dt, rfl⟩ := (List.eq_nil_or_concat' block).resolve_left hblock
  have hlast : spec.left sine radian t [(dts ++ [dt]).sum] =
      spec.left sine radian (t + dts.sum) [dt] := by
    simp only [left_cons, left_nil, List.sum_append, List.sum_singleton, add_assoc]
  rw [hlast, left_append]
  exact mul_le_of_le_one_left (spec.left_mem sine radian _ _).1 (spec.left_mem sine radian _ _).2

/-- Steps may be grouped into longer ones: what many small steps leave is no more. -/
theorem left_flatten_le {blocks : List (List Rat)} (hblocks : ∀ b ∈ blocks, b ≠ []) (t : Rat) :
    spec.left sine radian t blocks.flatten ≤ spec.left sine radian t (blocks.map List.sum) := by
  induction blocks generalizing t with
  | nil => simp
  | cons b blocks ih =>
    have hb := spec.left_le_left_sum sine radian (hblocks b List.mem_cons_self) t
    have hrest := ih (fun c hc => hblocks c (List.mem_cons_of_mem b hc)) (t + b.sum)
    have hsplit : spec.left sine radian t ((b :: blocks).map List.sum) =
        spec.left sine radian t [b.sum] *
          spec.left sine radian (t + b.sum) (blocks.map List.sum) := by
      simp only [List.map_cons, left_cons, left_nil, mul_one]
    rw [List.flatten_cons, left_append, hsplit]
    exact mul_le_mul hb hrest (spec.left_mem sine radian _ _).1 (spec.left_mem sine radian _ _).1

/-- A step that ends after the effect leaves nothing. -/
theorem left_eq_zero (hkind : spec.kind ≠ .pulse) {dts : List Rat} (hdts : dts ≠ []) {t : Rat}
    (h : spec.delay + max spec.duration 0 ≤ t + dts.sum) : spec.left sine radian t dts = 0 := by
  obtain ⟨dts, dt, rfl⟩ := (List.eq_nil_or_concat' dts).resolve_left hdts
  have hsum : t + dts.sum + dt = t + (dts ++ [dt]).sum := by
    rw [List.sum_append, List.sum_singleton, add_assoc]
  have hdelay : spec.delay ≤ t + dts.sum + dt := by
    linarith [le_max_right spec.duration 0]
  have hover : spec.Over 1 (t + dts.sum + dt) :=
    ⟨hkind, le_rfl, hdelay, Or.inr (by linarith [le_max_left spec.duration 0])⟩
  rw [left_append, left_cons, if_pos hdelay, hover.eased sine radian, sub_self, zero_mul, mul_zero]

end AnimationSpec

/-! ## 2. Moving along one axis

A slide moves the entity along one axis, and the other coordinate is not touched. -/

namespace Entity

variable {α : Type}

/-- The coordinate on the axis on which one comes in from a side. -/
def along (side : Side) (e : Entity α) : α :=
  match side with
  | .top | .bottom => e.y
  | .left | .right => e.x

/-- The entity at another place on this axis. -/
def movedTo (side : Side) (p : α) (e : Entity α) : Entity α :=
  match side with
  | .top | .bottom => { e with y := p }
  | .left | .right => { e with x := p }

/-- Where an entity starts to slide in. -/
def offstage [Scalar α] (side : Side) (canvas : α × α) (e : Entity α) : α :=
  match side with
  | .top => -e.height - Animation.margin
  | .bottom => canvas.2 + Animation.margin
  | .left => -e.width - Animation.margin
  | .right => canvas.1 + Animation.margin

/-- To move to where one is changes nothing. -/
@[simp] theorem movedTo_along (side : Side) (e : Entity α) : e.movedTo side (e.along side) = e := by
  cases side <;> rfl

end Entity

namespace Animation

section Start

variable {α : Type} [Scalar α]

/-- Where an animation comes to rest on its axis. -/
def restAlong (m : Animation α) : α :=
  match m.side with
  | .top | .bottom => m.restY
  | .left | .right => m.restX

/-- Attaching moves the entity to where it starts to slide in, and does nothing else to it. -/
theorem start_slide {spec : AnimationSpec α} (h : spec.kind = .slideIn) (e : Entity α)
    (canvas : α × α) :
    Posed.withPose ((ofSpec spec (Posed.pose e)).start canvas (Posed.pose e)) e =
      e.movedTo spec.side (e.offstage spec.side canvas) := by
  obtain ⟨kind, duration, delay, easing, side⟩ := spec
  cases h
  cases side <;> rfl

/-- A step moves the entity a part of the way to its resting place. -/
theorem pose_slide {m : Animation α} (hkind : m.kind = .slideIn) {side : Side}
    (hside : m.side = side) (e : Entity α) (p : α) :
    ∃ q, m.pose (Posed.pose (e.movedTo side p)) = .ok q ∧
      Posed.withPose q (e.movedTo side p) =
        e.movedTo side (lerp p m.restAlong (m.easing.curve m.progress)) := by
  obtain ⟨kind, duration, delay, easing, origin, elapsed, completed, _, _, _, _, _⟩ := m
  cases hkind
  cases hside
  cases origin <;> exact ⟨_, rfl, rfl⟩

end Start

/-! ## 3. One animation

One step of the animation is one factor of the product; with the progress at 1 it is put at its
place exactly. -/

/-- The animation has made `n` steps in the total time `t`, and remembers where the entity rests. -/
structure Slides (spec : AnimationSpec Rat) (e : Entity Rat) (n : Nat) (t : Rat)
    (m : Animation Rat) : Prop extends Runs spec e n t m where
  side : m.side = spec.side
  restX : m.restX = e.x
  restY : m.restY = e.y

variable (sine : Rat → Rat) (radian : Rat) {spec : AnimationSpec Rat} {e : Entity Rat} {n : Nat}
  {t dt p : Rat} {m : Animation Rat}

/-- A slide starts with its rest remembered. -/
theorem slides_ofSpec (spec : AnimationSpec Rat) (e : Entity Rat) :
    letI := Scalar.exact sine radian
    Slides spec e 0 0 (ofSpec spec (Posed.pose e)) :=
  letI := Scalar.exact sine radian
  ⟨runs_ofSpec sine radian spec e, rfl, rfl, rfl⟩

/-- The resting place along the axis of the slide. -/
theorem Slides.restAlong (h : Slides spec e n t m) : m.restAlong = e.along spec.side := by
  rw [Animation.restAlong, h.side, h.restX, h.restY]
  rfl

/-- What is remembered does not change. -/
theorem Slides.step (h : Slides spec e n t m) (hdt : 0 ≤ dt) (q : Pose Rat) :
    letI := Scalar.exact sine radian
    Slides spec e (n + 1) (t + dt) (m.step dt q).1 := by
  let _ := Scalar.exact sine radian
  have hkept : (m.step dt q).1.side = m.side ∧ (m.step dt q).1.restX = m.restX ∧
      (m.step dt q).1.restY = m.restY := by
    unfold Animation.step
    split
    · exact ⟨rfl, rfl, rfl⟩
    · dsimp only
      split <;> exact ⟨rfl, rfl, rfl⟩
  exact ⟨h.toRuns.step sine radian hdt q, hkept.1.trans h.side, hkept.2.1.trans h.restX,
    hkept.2.2.trans h.restY⟩

/-- Where an entity at `p` is after a step. -/
def nearer (spec : AnimationSpec Rat) (e : Entity Rat) (t dt p : Rat) : Rat :=
  e.along spec.side + (p - e.along spec.side) * spec.left sine radian t [dt]

/-- **One step shortens the way that is left.**  An animation that is completed moves nothing; then
the entity is where it rests, and there is no way left. -/
theorem Slides.moves (dt : Rat) (h : Slides spec e n t m) (hkind : spec.kind = .slideIn)
    (hp : spec.Over n t → p = e.along spec.side) : letI := Scalar.exact sine radian
    ∃ q, (m.step dt (Posed.pose (e.movedTo spec.side p))).2 = .ok q ∧
      Posed.withPose q (e.movedTo spec.side p) =
        e.movedTo spec.side (nearer sine radian spec e t dt p) := by
  let _ := Scalar.exact sine radian
  have hstays (q : Rat) : Posed.withPose (Posed.pose (e.movedTo spec.side q))
      (e.movedTo spec.side q) = e.movedTo spec.side q := rfl
  cases hc : m.completed with
  | true =>
    refine ⟨_, by rw [step_of_completed _ dt hc], ?_⟩
    rw [hstays, nearer, hp (h.completed.1 hc), sub_self, zero_mul, add_zero]
  | false =>
    have helapsed := h.elapsed hc
    by_cases hdelay : t + dt < spec.delay
    · refine ⟨_, by rw [step_of_delay _ dt hc (by simp [helapsed, h.delay, hdelay])], ?_⟩
      rw [hstays, nearer, AnimationSpec.left_cons, if_neg (not_le.2 hdelay),
        AnimationSpec.left_nil, mul_one, mul_one, add_sub_cancel]
    · have hfits : Fits spec e { m with elapsed := m.elapsed + dt } := h.toFits.at _ _
      obtain ⟨q, hq, hmoved⟩ := pose_slide (hfits.kind.trans hkind) h.side e p
      refine ⟨q, ?_, hmoved.trans ?_⟩
      · rw [step_of_begun _ dt hc (by simp [helapsed, h.delay, hdelay]), hq]
      · rw [hfits.curve_progress sine radian, helapsed, lerp, nearer, AnimationSpec.left_cons,
          if_pos (not_lt.1 hdelay), AnimationSpec.left_nil, mul_one,
          show ({ m with elapsed := t + dt } : Animation Rat).restAlong = _ from h.restAlong]
        congr 1
        ring

end Animation

/-! ## 4. Runs

By induction on the steps, with the place in hand and not only the time: each step multiplies what
is left of the way. -/

namespace Motions

open Animation

/-- The entity `i` slides in and is at `p`, after `n` steps and at the time `t`. -/
structure Comes (spec : AnimationSpec Rat) (i : Nat) (e : Entity Rat) (n : Nat) (t p : Rat)
    (s : Motions Rat × Array (Entity Rat)) : Prop where
  keys : (s.1.entries.map (·.1)).Nodup
  slides : ∃ m, s.1.find? i = some m ∧ m.Slides spec e n t
  look : s.2[i]? = some (e.movedTo spec.side p)
  arrived : spec.Over n t → p = e.along spec.side

/-- Attaching puts the entity where it starts. -/
theorem attach_slide {α : Type} [Scalar α] (a : Motions α) {spec : AnimationSpec α} {i : Nat}
    {things : Array (Entity α)} {e : Entity α} (he : things[i]? = some e)
    (hkind : spec.kind = .slideIn) (canvas : α × α) :
    (a.attach i spec canvas things).2[i]? =
      some (e.movedTo spec.side (e.offstage spec.side canvas)) := by
  unfold attach
  rw [he]
  dsimp only
  rw [Array.set!_eq_setIfInBounds,
    Array.getElem?_setIfInBounds_self_of_lt (Array.getElem?_eq_some_iff.1 he).1,
    start_slide hkind]

variable (sine : Rat → Rat) (radian : Rat) {spec : AnimationSpec Rat} {i : Nat} {e : Entity Rat}

/-- Attaching moves the entity to its start outside the canvas. -/
theorem comes_attach {a : Motions Rat} (hkeys : (a.entries.map (·.1)).Nodup)
    {things : Array (Entity Rat)} (he : things[i]? = some e) (hkind : spec.kind = .slideIn)
    (canvas : Rat × Rat) : letI := Scalar.exact sine radian
    Comes spec i e 0 0 (e.offstage spec.side canvas) (a.attach i spec canvas things) := by
  let _ := Scalar.exact sine radian
  have hlook := attach_slide a he hkind canvas
  unfold attach at hlook ⊢
  rw [he] at hlook ⊢
  exact ⟨nodup_put hkeys i _, ⟨_, find?_put a i _, slides_ofSpec sine radian spec e⟩, hlook,
    fun hover => absurd hover.2.1 (by omega)⟩

/-- One step more. -/
theorem Comes.advance {n : Nat} {t dt p : Rat} {s : Motions Rat × Array (Entity Rat)}
    (h : Comes spec i e n t p s) (hkind : spec.kind = .slideIn) (hdt : 0 ≤ dt) :
    letI := Scalar.exact sine radian
    Comes spec i e (n + 1) (t + dt) (nearer sine radian spec e t dt p)
      ((s.1.advance dt s.2).1, (s.1.advance dt s.2).2.1) := by
  let _ := Scalar.exact sine radian
  obtain ⟨m, hm, hslides⟩ := h.slides
  obtain ⟨q, hq, hmoved⟩ := hslides.moves sine radian dt hkind h.arrived
  obtain ⟨hm', hlook⟩ := stepAll_at (fun m => m.exists_step sine radian dt) (Prod.ext rfl hq)
    s.1.entries s.2 h.keys hm h.look
  refine ⟨?_, ⟨_, hm', hslides.step sine radian hdt _⟩, hlook.trans (congrArg some hmoved),
    fun hover => ?_⟩
  · change ((stepAll dt s.1.entries s.2).1.map (·.1)).Nodup
    rw [keys_stepAll]
    exact h.keys
  · rw [nearer, AnimationSpec.left_cons, if_pos hover.2.2.1, hover.eased sine radian, sub_self,
      zero_mul, mul_zero, add_zero]

/-- Any number of steps. -/
theorem Comes.pass (hkind : spec.kind = .slideIn) (dts : List Rat) {n : Nat} {t p : Rat}
    {s : Motions Rat × Array (Entity Rat)} (hdts : ∀ dt ∈ dts, 0 ≤ dt)
    (h : Comes spec i e n t p s) : letI := Scalar.exact sine radian
    Comes spec i e (n + dts.length) (t + dts.sum)
      (e.along spec.side + (p - e.along spec.side) * spec.left sine radian t dts) (pass dts s) := by
  induction dts generalizing n t p s with
  | nil => simpa [Motions.pass] using h
  | cons dt dts ih =>
    have hrest := ih (fun d hd => hdts d (List.mem_cons_of_mem _ hd))
      (h.advance sine radian hkind (hdts dt List.mem_cons_self))
    have hplace : (nearer sine radian spec e t dt p - e.along spec.side) *
        spec.left sine radian (t + dt) dts = (p - e.along spec.side) *
          spec.left sine radian t (dt :: dts) := by
      simp only [nearer, AnimationSpec.left_cons, AnimationSpec.left_nil]
      ring
    rw [hplace, add_assoc, add_assoc, Nat.add_comm 1] at hrest
    rwa [List.sum_cons, List.length_cons]

variable (spec e)

/-- Where the entity is after steps from the start. -/
def placeAfter (canvas : Rat × Rat) (dts : List Rat) : Rat :=
  letI := Scalar.exact sine radian
  e.along spec.side +
    (e.offstage spec.side canvas - e.along spec.side) * spec.left sine radian 0 dts

variable {spec e}

/-- More steps do not take the entity farther away. -/
theorem abs_placeAfter_append_le (canvas : Rat × Rat) (dts more : List Rat) :
    |placeAfter sine radian spec e canvas (dts ++ more) - e.along spec.side| ≤
      |placeAfter sine radian spec e canvas dts - e.along spec.side| := by
  have hmore := spec.left_mem sine radian (0 + dts.sum) more
  simp only [placeAfter, add_sub_cancel_left, AnimationSpec.left_append, abs_mul,
    abs_of_nonneg hmore.1]
  rw [← mul_assoc]
  exact mul_le_of_le_one_right (by positivity) hmore.2

/-- Steps in between do not leave the entity farther away. -/
theorem abs_placeAfter_flatten_le (canvas : Rat × Rat) {blocks : List (List Rat)}
    (hblocks : ∀ b ∈ blocks, b ≠ []) :
    |placeAfter sine radian spec e canvas blocks.flatten - e.along spec.side| ≤
      |placeAfter sine radian spec e canvas (blocks.map List.sum) - e.along spec.side| := by
  have hle := spec.left_flatten_le sine radian hblocks 0
  simp only [placeAfter, add_sub_cancel_left, abs_mul,
    abs_of_nonneg (spec.left_mem sine radian _ _).1]
  exact mul_le_mul_of_nonneg_left hle (abs_nonneg _)

/-- **Sliding in approaches the resting place, never passes it, and arrives.**  An entity gets an
animation that lets it slide in from a side, and then time passes in any number of steps.  It is
only moved on the axis of this side, and no step ends with a fault.  After steps `dts` it is at the
place `p dts`: what is left of the way from the start is what the steps after the delay leave.  So

* it never passes its resting place, and further steps never take it farther away;
* from the first step on that ends after the delay and the duration it is where it rests;
* it is never farther away if a step is made in several, each of `blocks` in place of one. -/
theorem approach_of_slide (sine : Rat → Rat) (radian : Rat) : letI := Scalar.exact sine radian
    ∀ {a : Motions Rat} {spec : AnimationSpec Rat} {i : Nat} {things : Array (Entity Rat)}
      {e : Entity Rat} (canvas : Rat × Rat),
      (a.entries.map (·.1)).Nodup → things[i]? = some e → spec.kind = .slideIn →
      ∃ p : List Rat → Rat,
        (∀ dts : List Rat, (∀ dt ∈ dts, 0 ≤ dt) →
          (pass dts (a.attach i spec canvas things)).2[i]? =
            some (e.movedTo spec.side (p dts)) ∧
          (∀ dt, ((pass dts (a.attach i spec canvas things)).1.advance dt
            (pass dts (a.attach i spec canvas things)).2).2.2 = .ok ()) ∧
          p dts - e.along spec.side =
            (e.offstage spec.side canvas - e.along spec.side) *
              (((AnimationSpec.moments 0 dts).filter (spec.delay ≤ ·)).map
                fun t => 1 - spec.eased sine radian t).prod ∧
          (e.offstage spec.side canvas ≤ e.along spec.side → p dts ≤ e.along spec.side) ∧
          (e.along spec.side ≤ e.offstage spec.side canvas → e.along spec.side ≤ p dts) ∧
          (∀ more : List Rat, (∀ dt ∈ more, 0 ≤ dt) →
            |p (dts ++ more) - e.along spec.side| ≤ |p dts - e.along spec.side|) ∧
          (dts ≠ [] → spec.delay + max spec.duration 0 ≤ dts.sum → p dts = e.along spec.side)) ∧
        ∀ blocks : List (List Rat), (∀ b ∈ blocks, b ≠ [] ∧ ∀ dt ∈ b, 0 ≤ dt) →
          |p blocks.flatten - e.along spec.side| ≤
            |p (blocks.map List.sum) - e.along spec.side| := by
  intro a spec i things e canvas hkeys he hkind
  let _ := Scalar.exact sine radian
  refine ⟨placeAfter sine radian spec e canvas, fun dts hdts => ?_, fun blocks hblocks =>
    abs_placeAfter_flatten_le sine radian canvas fun b hb => (hblocks b hb).1⟩
  have hcomes := (comes_attach sine radian hkeys he hkind canvas).pass sine radian hkind dts hdts
  rw [zero_add, zero_add] at hcomes
  have hleft := spec.left_mem sine radian 0 dts
  refine ⟨hcomes.look, fun dt => stepAll_ok (fun m => m.exists_step sine radian dt) _ _,
    add_sub_cancel_left _ _, fun hbefore => ?_, fun hbehind => ?_,
    fun more _ => abs_placeAfter_append_le sine radian canvas dts more, fun hne hlate => ?_⟩
  · have := mul_nonneg (sub_nonneg.2 hbefore) hleft.1
    unfold placeAfter
    linarith
  · have := mul_nonneg (sub_nonneg.2 hbehind) hleft.1
    unfold placeAfter
    linarith
  · have hpulse : spec.kind ≠ .pulse := by simp [hkind]
    rw [placeAfter, spec.left_eq_zero sine radian hpulse hne (by rwa [zero_add]), mul_zero,
      add_zero]

/-! The lamp comes from the top, 160 pixels in two seconds after one second, while the entity beside
it pulses. -/

def lowering : AnimationSpec Rat where
  kind := .slideIn
  duration := 2
  delay := 1
  easing := .linear
  side := .top

/-- After two steps of a second it has half of the way to go, and after four half seconds
less.  The products of the general theorem are computed here for steps of one second and of half a
second. -/
theorem approach_of_slide_lamp : letI := Scalar.exact (fun x => x) 57
    (pass [1, 1] ((⟨[(1, beside)]⟩ : Motions Rat).attach 0 lowering (1080, 1920)
      #[lamp, lamp])).2[0]? = some { lamp with y := -60 } ∧
    (pass [1 / 2, 1 / 2, 1 / 2, 1 / 2] ((⟨[(1, beside)]⟩ : Motions Rat).attach 0 lowering
      (1080, 1920) #[lamp, lamp])).2[0]? = some { lamp with y := -40 } ∧
    (pass [1, 1, 1] ((⟨[(1, beside)]⟩ : Motions Rat).attach 0 lowering (1080, 1920)
      #[lamp, lamp])).2[0]? = some lamp := by
  obtain ⟨p, hp, -⟩ := approach_of_slide (fun x => x) 57 (a := ⟨[(1, beside)]⟩) (1080, 1920)
    (by simp) (show #[lamp, lamp][0]? = some lamp from rfl) (show lowering.kind = .slideIn from rfl)
  obtain ⟨htwo, -, hplace, -⟩ := hp [1, 1] (by norm_num)
  obtain ⟨hfour, -, hplace', -⟩ := hp [1 / 2, 1 / 2, 1 / 2, 1 / 2] (by norm_num)
  obtain ⟨hthree, -, -, -, -, -, harrived⟩ := hp [1, 1, 1] (by norm_num)
  have hp : p [1, 1] = -60 := by
    norm_num [lowering, lamp, Entity.along, Entity.offstage, Animation.margin,
      AnimationSpec.moments, AnimationSpec.eased, Easing.curve] at hplace
    linarith
  have hp' : p [1 / 2, 1 / 2, 1 / 2, 1 / 2] = -40 := by
    norm_num [lowering, lamp, Entity.along, Entity.offstage, Animation.margin,
      AnimationSpec.moments, AnimationSpec.eased, Easing.curve] at hplace'
    linarith
  refine ⟨hp ▸ htwo, hp' ▸ hfour, ?_⟩
  rw [hthree, harrived (by simp) (by norm_num [lowering]), Entity.movedTo_along]

end Motions

end Diorama
