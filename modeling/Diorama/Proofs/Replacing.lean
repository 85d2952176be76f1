/-
# Replacing an animation

An animation remembers how the entity is when it is attached, and an entity that fades in, slides in
or grows is brought back to that.  If the entity was moved by another animation at that time, this
is wherever it had got to, and not where it rested before the first.

An effect of these kinds leaves the entity a share of the way from its start to its rest
(`Entity.between`), and every step, of whatever length, changes this share only; the animation is
completed exactly when the share is 1.  So where the second effect ends is told from the share of
the first at which it was replaced.  This is shown with exact numbers.
-/
import Diorama.Proofs.Independence
import Diorama.Proofs.Offstage

namespace Diorama

/-! ## 1. Effects that end at rest

Fading in, growing and sliding in end where the entity was when the effect was attached.  On the
way there the entity is at a share of it (`between`), in the values that the effect drives and in
no others. -/

namespace AnimationSpec

/-- The effect brings the entity to where it rests. -/
def Settles {α : Type} (spec : AnimationSpec α) : Prop :=
  spec.kind = .fadeIn ∨ spec.kind = .slideIn ∨ spec.kind = .scale

/-- What an effect remembers of a value it drives: a scale of nothing counts as full size. -/
def rest (spec : AnimationSpec Rat) (v : Rat) : Rat :=
  match spec.kind with
  | .scale | .pulse => fullScale v
  | .fadeIn | .fadeOut | .slideIn => v

end AnimationSpec

namespace Entity

/-- The values that an effect drives. -/
def driven {α : Type} (spec : AnimationSpec α) (e : Entity α) : List α :=
  match spec.kind with
  | .fadeIn | .fadeOut => [e.alpha]
  | .slideIn => [e.along spec.side]
  | .scale | .pulse => [e.scaleX, e.scaleY]

/-- The entity at a share of the way from its start to its rest; only one that slides in does not
start at nothing. -/
def between (spec : AnimationSpec Rat) (start share : Rat) (e : Entity Rat) : Entity Rat :=
  match spec.kind with
  | .fadeIn => { e with alpha := share * e.alpha }
  | .slideIn => e.movedTo spec.side (start + (e.along spec.side - start) * share)
  | .scale => { e with
      scaleX := share * fullScale e.scaleX
      scaleY := share * fullScale e.scaleY }
  | .fadeOut | .pulse => e

@[simp] theorem along_movedTo {α : Type} (side : Side) (p : α) (e : Entity α) :
    (e.movedTo side p).along side = p := by
  cases side <;> rfl

/-- Opposite sides share an axis. -/
theorem along_of_axis {α : Type} {s t : Side} (h : s.axis = t.axis) (e : Entity α) :
    e.along s = e.along t := by
  cases s <;> cases t <;> first | rfl | cases h

variable {spec : AnimationSpec Rat} {start : Rat} {e : Entity Rat}

/-- At the end of the way the entity rests. -/
theorem driven_between_one (hspec : spec.Settles) :
    (e.between spec start 1).driven spec = (e.driven spec).map spec.rest := by
  rcases hspec with h | h | h <;> simp [driven, between, AnimationSpec.rest, h]

end Entity

/-! ## 2. One animation

Attaching remembers the look of the entity at that moment (`from_config`), whatever led to it;
from then on what is remembered does not change. -/

namespace Animation

/-- The animation is the one that is described, and remembers how the entity was. -/
structure Remembers (spec : AnimationSpec Rat) (e : Entity Rat) (m : Animation Rat) : Prop
    extends Fits spec e m where
  side : m.side = spec.side
  restX : m.restX = e.x
  restY : m.restY = e.y

variable (sine : Rat → Rat) (radian : Rat) {spec : AnimationSpec Rat} {e : Entity Rat}
  {start share : Rat} {m : Animation Rat}

/-- An animation remembers the rest of its kind. -/
theorem remembers_ofSpec (spec : AnimationSpec Rat) (e : Entity Rat) :
    letI := Scalar.exact sine radian
    Remembers spec e (ofSpec spec (Posed.pose e)) :=
  letI := Scalar.exact sine radian
  ⟨(runs_ofSpec sine radian spec e).toFits, rfl, rfl, rfl⟩

/-- The time is no part of what is remembered. -/
theorem Remembers.at (h : Remembers spec e m) (elapsed : Rat) (completed : Bool) :
    Remembers spec e { m with elapsed, completed } :=
  ⟨h.toFits.at elapsed completed, h.side, h.restX, h.restY⟩

theorem Remembers.restAlong (h : Remembers spec e m) : m.restAlong = e.along spec.side := by
  rw [Animation.restAlong, h.side, h.restX, h.restY]
  rfl

/-- No step changes what is remembered. -/
theorem Remembers.step (h : Remembers spec e m) (dt : Rat) (p : Pose Rat) :
    letI := Scalar.exact sine radian
    Remembers spec e (m.step dt p).1 := by
  let _ := Scalar.exact sine radian
  obtain ⟨elapsed, completed, heq, -⟩ := m.exists_step_eq dt p
  rw [heq]
  exact h.at elapsed completed

/-- Attaching puts the entity at the start of its way. -/
theorem start_between (hspec : spec.Settles) (canvas : Rat × Rat) :
    letI := Scalar.exact sine radian
    Posed.withPose ((ofSpec spec (Posed.pose e)).start canvas (Posed.pose e)) e =
      e.between spec (e.offstage spec.side canvas) 0 := by
  let _ := Scalar.exact sine radian
  rcases hspec with hk | hk | hk
  · rw [start_ofSpec sine radian (by simp [hk])]
    simp [Entity.seen, AnimationSpec.Waits, Entity.opening, Entity.between, hk]
  · rw [start_slide hk]
    simp [Entity.between, hk]
  · rw [start_ofSpec sine radian (by simp [hk])]
    simp [Entity.seen, AnimationSpec.Waits, Entity.opening, Entity.between, hk]

/-- The eased progress is full exactly if the progress is. -/
theorem curve_progress_eq_one_iff (m : Animation Rat) : letI := Scalar.exact sine radian
    m.easing.curve m.progress = 1 ↔ 1 ≤ m.progress := by
  let _ := Scalar.exact sine radian
  obtain ⟨h0, h1⟩ := m.progress_mem sine radian
  rw [m.easing.curve_eq_one_iff sine radian h0 h1]
  exact ⟨fun heq => heq.ge, fun hle => le_antisymm h1 hle⟩

/-- Once it has begun, an effect moves the entity to another share of its way, which is the end of
it if its own progress is complete. -/
theorem Remembers.pose (h : Remembers spec e m) (hspec : spec.Settles) (hshare : share ≠ 1) :
    letI := Scalar.exact sine radian
    ∃ share' q, m.pose (Posed.pose (e.between spec start share)) = .ok q ∧
      Posed.withPose q (e.between spec start share) = e.between spec start share' ∧
      (share' = 1 ↔ 1 ≤ m.progress) := by
  let _ := Scalar.exact sine radian
  have hend := m.curve_progress_eq_one_iff sine radian
  rcases hspec with hk | hk | hk
  · refine ⟨m.easing.curve m.progress, _, pose_fadeIn _ (h.kind.trans hk), ?_, hend⟩
    simp only [Entity.between, hk, h.restAlpha]
    rfl
  · obtain ⟨q, hq, hmoved⟩ := pose_slide (h.kind.trans hk) h.side e
      (start + (e.along spec.side - start) * share)
    have hplace : e.between spec start share =
        e.movedTo spec.side (start + (e.along spec.side - start) * share) := by
      simp only [Entity.between, hk]
    refine ⟨1 - (1 - share) * (1 - m.easing.curve m.progress), q, hplace ▸ hq, ?_, ?_⟩
    · rw [hplace, hmoved, h.restAlong, lerp]
      simp only [Entity.between, hk]
      congr 1
      ring
    · -- What is left of the way is a product, and the first factor is not nothing.
      rw [← hend, sub_eq_self, mul_eq_zero, sub_eq_zero, sub_eq_zero, or_iff_right hshare.symm]
      exact eq_comm
  · refine ⟨m.easing.curve m.progress, _, pose_scale _ (h.kind.trans hk), ?_, hend⟩
    simp only [Entity.between, hk, h.restScaleX, h.restScaleY]
    rfl

/-- **A step changes the share of the way, and completes the animation exactly at its end.** The
branches of `step`: completed and within the delay the share stays, and otherwise the pose gives
the new share. -/
theorem Remembers.moves (h : Remembers spec e m) (hspec : spec.Settles) (dt : Rat)
    (hc : m.completed = true ↔ share = 1) : letI := Scalar.exact sine radian
    ∃ share' q, (m.step dt (Posed.pose (e.between spec start share))).2 = .ok q ∧
      Posed.withPose q (e.between spec start share) = e.between spec start share' ∧
      ((m.step dt (Posed.pose (e.between spec start share))).1.completed = true ↔ share' = 1) := by
  let _ := Scalar.exact sine radian
  cases hdone : m.completed with
  | true => exact ⟨share, _, by rw [step_of_completed _ dt hdone], rfl, by
      rw [step_of_completed _ dt hdone, hc]⟩
  | false =>
    have hshare : share ≠ 1 := fun h1 => by simp [hc.2 h1] at hdone
    by_cases hdelay : Scalar.lt (m.elapsed + dt) m.delay = true
    · exact ⟨share, _, by rw [step_of_delay _ dt hdone hdelay], rfl, by
        rw [step_of_delay _ dt hdone hdelay, ← hc]⟩
    · have hone : (1.0 : Rat) = 1 := by norm_num
      have hpulse : m.kind ≠ .pulse := by
        rw [h.kind]
        rcases hspec with hk | hk | hk <;> simp [hk]
      have hat : Remembers spec e { m with elapsed := m.elapsed + dt } := h.at _ _
      obtain ⟨share', q, hq, hmoved, hend⟩ := hat.pose sine radian hspec hshare
      refine ⟨share', q, by rw [step_of_begun _ dt hdone hdelay, hq], hmoved, ?_⟩
      rw [step_of_begun _ dt hdone hdelay, hend, Bool.and_eq_true, bne_iff_ne, hone,
        Scalar.le_exact, decide_eq_true_eq]
      exact and_iff_right hpulse

end Animation

/-! ## 3. Runs

By induction on the steps: what was remembered at the beginning is what is shown at the end. -/

namespace Motions

open Animation

/-- The entity `i` is at a share of the way of its effect, which is over at the end of it. -/
structure Partway (spec : AnimationSpec Rat) (i : Nat) (e : Entity Rat) (start share : Rat)
    (s : Motions Rat × Array (Entity Rat)) : Prop where
  keys : (s.1.entries.map (·.1)).Nodup
  holds : ∃ m, s.1.find? i = some m ∧ m.Remembers spec e ∧ (m.completed = true ↔ share = 1)
  look : s.2[i]? = some (e.between spec start share)

variable (sine : Rat → Rat) (radian : Rat) {spec : AnimationSpec Rat} {i : Nat} {e : Entity Rat}
  {start share : Rat} {s : Motions Rat × Array (Entity Rat)}

/-- Attaching puts the entity at its start: none of the way is done. -/
theorem partway_attach {a : Motions Rat} (hkeys : (a.entries.map (·.1)).Nodup)
    {things : Array (Entity Rat)} (he : things[i]? = some e) (hspec : spec.Settles)
    (canvas : Rat × Rat) : letI := Scalar.exact sine radian
    Partway spec i e (e.offstage spec.side canvas) 0 (a.attach i spec canvas things) := by
  let _ := Scalar.exact sine radian
  unfold attach
  rw [he]
  refine ⟨nodup_put hkeys i _, ⟨_, find?_put a i _, remembers_ofSpec sine radian spec e, ?_⟩, ?_⟩
  · exact ⟨nofun, fun h => absurd h (by norm_num)⟩
  · dsimp only
    rw [Array.set!_eq_setIfInBounds,
      Array.getElem?_setIfInBounds_self_of_lt (Array.getElem?_eq_some_iff.1 he).1,
      start_between sine radian hspec]

/-- One step more, of whatever length. -/
theorem Partway.advance (h : Partway spec i e start share s) (hspec : spec.Settles) (dt : Rat) :
    letI := Scalar.exact sine radian
    ∃ share', Partway spec i e start share'
      ((s.1.advance dt s.2).1, (s.1.advance dt s.2).2.1) := by
  let _ := Scalar.exact sine radian
  obtain ⟨m, hm, hmem, hc⟩ := h.holds
  obtain ⟨share', q, hq, hmoved, hend⟩ := hmem.moves sine radian hspec dt hc
  obtain ⟨hm', hlook⟩ := stepAll_at (fun m => m.exists_step sine radian dt) (Prod.ext rfl hq)
    s.1.entries s.2 h.keys hm h.look
  refine ⟨share', ?_, ⟨_, hm', hmem.step sine radian dt _, hend⟩,
    hlook.trans (congrArg some hmoved)⟩
  change ((stepAll dt s.1.entries s.2).1.map (·.1)).Nodup
  rw [keys_stepAll]
  exact h.keys

/-- Any number of steps. -/
theorem Partway.pass (hspec : spec.Settles) (dts : List Rat) (h : Partway spec i e start share s) :
    letI := Scalar.exact sine radian
    ∃ share', Partway spec i e start share' (pass dts s) := by
  induction dts generalizing share s with
  | nil => exact ⟨share, h⟩
  | cons dt dts ih =>
    obtain ⟨share', h'⟩ := h.advance sine radian hspec dt
    exact ih h'

/-! ## 4. The second of two effects

A second effect of the same kind takes the first one's place, and what it remembers is the look
that the first one had reached.  So the entity ends at its old look exactly if the first effect
had reached it. -/

/-- When an effect is over the values it drives are those it remembers. -/
theorem Partway.rests (h : Partway spec i e start share s) (hspec : spec.Settles)
    {m : Animation Rat} (hm : s.1.find? i = some m) (hc : m.completed = true) :
    ∃ e', s.2[i]? = some e' ∧ e'.driven spec = (e.driven spec).map spec.rest := by
  obtain ⟨m', hm', -, hend⟩ := h.holds
  cases hm.symm.trans hm'
  have hlook := h.look
  rw [hend.1 hc] at hlook
  exact ⟨_, hlook, Entity.driven_between_one hspec⟩

end Motions

/-- A point part of the way is at its end only if the whole way is done or there was no way to go.
-/
theorem share_eq_one_or (start share r : Rat) :
    start + (r - start) * share = r ↔ share = 1 ∨ start = r := by
  have hleft : start + (r - start) * share - r = (r - start) * (share - 1) := by ring
  rw [← sub_eq_zero, hleft, mul_eq_zero, sub_eq_zero, sub_eq_zero, or_comm]
  exact or_congr_right eq_comm

theorem fullScale_ne_zero (s : Rat) : fullScale s ≠ 0 := by
  unfold fullScale
  split
  · exact one_ne_zero
  · assumption

/-- For scales there is one exception: a scale of nothing is remembered as full size. -/
theorem fullScale_mul_eq_iff {share r : Rat} (hr : r ≠ 0) :
    fullScale (share * fullScale r) = r ↔ share = 1 ∨ share = 0 ∧ r = 1 := by
  unfold fullScale
  rw [if_neg hr]
  by_cases hshare : share = 0
  · simp [hshare, eq_comm]
  · rw [if_neg (mul_ne_zero hshare hr), mul_eq_right₀ hr]
    simp [hshare]

namespace Entity

variable {spec : AnimationSpec Rat} {start share : Rat} {e : Entity Rat}

/-- **What is remembered on the way is the rest of the way's end only if that end is reached**, or if
the entity has not left a start that counts for it. -/
theorem rest_between_iff (hspec : spec.Settles) (hx : e.scaleX ≠ 0) (hy : e.scaleY ≠ 0) :
    ((e.between spec start share).driven spec).map spec.rest = e.driven spec ↔
      share = 1 ∨ ((e.between spec start share).driven spec = (e.between spec start 0).driven spec ∧
        ((e.between spec start 0).driven spec).map spec.rest = e.driven spec) := by
  rcases hspec with hk | hk | hk
  · have hfade := share_eq_one_or 0 share e.alpha
    simp only [driven, between, AnimationSpec.rest, hk, List.map_cons, List.map_nil,
      List.cons.injEq, and_true]
    rw [zero_add, sub_zero, mul_comm] at hfade
    rw [hfade, zero_mul, mul_eq_zero]
    refine or_congr_right ⟨fun h => ⟨Or.inr h.symm, h⟩, fun h => h.2⟩
  · simp only [driven, between, AnimationSpec.rest, hk, List.map_cons, List.map_nil,
      List.cons.injEq, and_true, along_movedTo, mul_zero, add_zero]
    rw [share_eq_one_or]
    refine or_congr_right ⟨fun h => ⟨?_, h⟩, fun h => h.2⟩
    rw [h, sub_self, zero_mul, add_zero]
  · simp only [driven, between, AnimationSpec.rest, hk, List.map_cons, List.map_nil,
      List.cons.injEq, and_true, zero_mul]
    rw [fullScale_mul_eq_iff hx, fullScale_mul_eq_iff hy]
    constructor
    · rintro ⟨h | ⟨h, hx1⟩, h' | ⟨-, hy1⟩⟩
      · exact Or.inl h
      · exact Or.inl h
      · exact Or.inl h'
      · exact Or.inr ⟨⟨by rw [h, zero_mul], by rw [h, zero_mul]⟩, hx1.symm, hy1.symm⟩
    · rintro (h | ⟨⟨h, -⟩, hx1, hy1⟩)
      · exact ⟨Or.inl h, Or.inl h⟩
      · have hshare : share = 0 := (mul_eq_zero.1 h).resolve_right (fullScale_ne_zero _)
        exact ⟨Or.inr ⟨hshare, hx1.symm⟩, Or.inr ⟨hshare, hy1.symm⟩⟩

end Entity

namespace Motions

/-- Two effects of one kind, on one axis if the entity slides in, drive the same values. -/
theorem driven_congr {α : Type} {first second : AnimationSpec α} (hkind : second.kind = first.kind)
    (hside : first.kind = .slideIn → second.side.axis = first.side.axis) (e : Entity α) :
    e.driven second = e.driven first := by
  unfold Entity.driven
  rw [hkind]
  cases hk : first.kind with
  | slideIn => rw [Entity.along_of_axis (hside hk)]
  | _ => rfl

/-- Effects of one kind come to rest in the same attributes. -/
theorem rest_congr {first second : AnimationSpec Rat} (hkind : second.kind = first.kind) :
    second.rest = first.rest := by
  funext v
  unfold AnimationSpec.rest
  rw [hkind]

/-- **A replaced animation is forgotten, and with it where the entity rests.**  An entity of some
size gets an effect that brings it to its rest; time passes in any steps; it gets a second effect of
the same kind, on the same axis if it slides in, and time passes again.  When the second effect is
over, the values it drives are those at which it found the entity.  So they are those from before
the first effect exactly if the first was over when it was replaced, or if it had not taken the
entity away from its start and this start counts as the rest: for a value that rests where the
effect starts, and for a scale of nothing, which counts as 1. -/
theorem rest_of_replacing (sine : Rat → Rat) (radian : Rat) : letI := Scalar.exact sine radian
    ∀ {a : Motions Rat} {first second : AnimationSpec Rat} {i : Nat} {things : Array (Entity Rat)}
      {e : Entity Rat} (canvas canvas' : Rat × Rat) (dts dts' : List Rat),
      (a.entries.map (·.1)).Nodup → things[i]? = some e → e.scaleX ≠ 0 → e.scaleY ≠ 0 →
      first.Settles → second.kind = first.kind →
      (first.kind = .slideIn → second.side.axis = first.side.axis) →
      let s₀ := a.attach i first canvas things
      let s₁ := pass dts s₀
      let s₂ := pass dts' (s₁.1.attach i second canvas' s₁.2)
      ∃ m₁ m₂ e₀ e₁ e₂, s₀.2[i]? = some e₀ ∧ s₁.1.find? i = some m₁ ∧ s₁.2[i]? = some e₁ ∧
        s₂.1.find? i = some m₂ ∧ s₂.2[i]? = some e₂ ∧
        (m₂.completed = true →
          e₂.driven second = (e₁.driven second).map second.rest ∧
          (e₂.driven second = e.driven second ↔ m₁.completed = true ∨
            e₁.driven second = e₀.driven second ∧
              (e₀.driven second).map second.rest = e.driven second)) := by
  intro a first second i things e canvas canvas' dts dts' hkeys he hx hy hfirst hkind hside
  let _ := Scalar.exact sine radian
  intro s₀ s₁ s₂
  have hsecond : second.Settles := by
    unfold AnimationSpec.Settles
    rw [hkind]
    exact hfirst
  have h₀ := partway_attach sine radian hkeys he hfirst canvas
  obtain ⟨share, h₁⟩ := h₀.pass sine radian hfirst dts
  obtain ⟨m₁, hm₁, -, hc₁⟩ := h₁.holds
  obtain ⟨share', h₂⟩ :=
    (partway_attach sine radian h₁.keys h₁.look hsecond canvas').pass sine radian hsecond dts'
  obtain ⟨m₂, hm₂, -⟩ := h₂.holds
  refine ⟨m₁, m₂, _, _, _, h₀.look, hm₁, h₁.look, hm₂, h₂.look, fun hc => ?_⟩
  obtain ⟨e₂, he₂, hrests⟩ := h₂.rests hsecond hm₂ hc
  cases h₂.look.symm.trans he₂
  refine ⟨hrests, ?_⟩
  rw [hrests, rest_congr hkind]
  simp only [driven_congr hkind hside]
  rw [Entity.rest_between_iff hfirst hx hy, hc₁]

/-! The lamp lights up, and after half of the way the same is begun again: it stays half as
bright. -/

/-- A lamp is replaced halfway, at half of its brightness, and comes to rest there: the second
animation has remembered what it found. -/
theorem rest_of_replacing_lamp : letI := Scalar.exact (fun x => x) 57
    let s₁ := pass [1 / 2] ((⟨[(1, beside)]⟩ : Motions Rat).attach 0 lighting (1080, 1920)
      #[lamp, lamp])
    let s₂ := pass [1 / 2, 1 / 2] (s₁.1.attach 0 lighting (1080, 1920) s₁.2)
    ∃ m e, s₂.1.find? 0 = some m ∧ s₂.2[0]? = some e ∧ m.completed = true ∧
      e.driven lighting = [2 / 5] ∧ lamp.driven lighting = [4 / 5] := by
  let _ := Scalar.exact (fun x => x) 57
  intro s₁ s₂
  obtain ⟨m₁, m₂, e₀, e₁, e₂, -, -, he₁, hm₂, he₂, hrests⟩ :=
    rest_of_replacing (fun x => x) 57 (a := ⟨[(1, beside)]⟩) (1080, 1920) (1080, 1920) [1 / 2]
      [1 / 2, 1 / 2] (by simp) (show #[lamp, lamp][0]? = some lamp from rfl) one_ne_zero one_ne_zero
      (show lighting.Settles from Or.inl rfl) (show lighting.kind = lighting.kind from rfl)
      (fun _ => rfl)
  have hdone : (s₂.1.find? 0).map (·.completed) = some true := by decide +kernel
  have hhalf : s₁.2[0]?.map (·.alpha) = some (2 / 5) := by decide +kernel
  rw [show s₂.1.find? 0 = some m₂ from hm₂] at hdone
  rw [show s₁.2[0]? = some e₁ from he₁] at hhalf
  refine ⟨m₂, e₂, hm₂, he₂, Option.some.inj hdone, ?_, rfl⟩
  rw [(hrests (Option.some.inj hdone)).1, show e₁.driven lighting = [2 / 5] from
    congrArg (fun v => [v]) (Option.some.inj hhalf)]
  rfl

end Motions

end Diorama
