/-
# The animation of one entity

An animation moves the *pose* of an entity: its position, opacity and scale.  When it is
attached it remembers the resting pose and moves the entity to the start of the effect; every
step then computes the pose from the time that has passed:

    fadeIn   opacity 0 -> resting
    fadeOut  opacity resting -> 0
    slideIn  from outside the canvas on one side -> resting position
    scale    scale 0 -> resting
    pulse    scale oscillates by a tenth around the resting one, forever

An easing bends the progress on the way: each curve starts at 0 and ends at 1, and `easeInOut`
consists of two halves that meet at one half.

All but `slideIn` and `pulse` depend only on the total time and the resting pose; `slideIn`
approaches the resting position from wherever the entity is.
-/
import Diorama.Document.Scene
import Diorama.Scalar
import Diorama.Vocabulary

namespace Diorama

variable {α : Type} [Scalar α]

/-! ## 1. Easing -/

/-- The eased progress (`apply_easing`). -/
def Easing.curve : Easing → α → α
  | .linear, t => t
  | .easeIn, t => t * t
  | .easeOut, t => 1.0 - (1.0 - t) * (1.0 - t)
  | .easeInOut, t =>
    if Scalar.lt t 0.5 then 2.0 * t * t else 1.0 - Scalar.square (-2.0 * t + 2.0) / 2.0

/-- The curve of a word; a word that names no easing bends nothing (`apply_easing`). -/
def Easing.curveOfWord (word : String) (t : α) : α :=
  match Vocabulary.ofWord? (κ := Easing) word with
  | some e => e.curve t
  | none => t

/-- The point that lies the part `t` of the way from `a` to `b` (`lerp`). -/
def lerp (a b t : α) : α := a + (b - a) * t

/-- The nearest point between 0 and 1 (`_clamp01`). -/
def clampUnit (v : α) : α :=
  if Scalar.lt v 0.0 then 0.0 else if Scalar.lt 1.0 v then 1.0 else v

/-! ## 2. Animations -/

/-- What an animation reads and moves.  A thing may lack some of it: what is missing is read as
a neutral value, and is there once it has been moved. -/
structure Pose (α : Type) where
  x : Option α := none
  y : Option α := none
  width : Option α := none
  height : Option α := none
  alpha : Option α := none
  scaleX : Option α := none
  scaleY : Option α := none

/-- A running animation with the resting pose it remembers (`Animation`). -/
structure Animation (α : Type) where
  kind : AnimationKind
  duration : α
  delay : α
  easing : Easing
  side : Side
  elapsed : α
  completed : Bool := false
  restAlpha : α
  restX : α
  restY : α
  restScaleX : α
  restScaleY : α

namespace Animation

/-- How far outside the canvas an entity starts to slide in (`SLIDE_OFFSCREEN_MARGIN`). -/
def margin : α := 100.0

/-- The greatest deviation of the pulsing scale (`PULSE_AMPLITUDE`). -/
def pulseAmplitude : α := 0.1

/-- The radians per second of the pulse (`PULSE_SPEED`). -/
def pulseSpeed : α := 4.0

/-- A resting scale: nothing, or none at all, counts as full size. -/
def restingScale (s : Option α) : α :=
  match s with
  | some s => if Scalar.isZero s then 1.0 else s
  | none => 1.0

/-- The animation of a thing that now has the given pose (`Animation.from_config`). -/
def ofSpec (spec : AnimationSpec α) (p : Pose α) : Animation α where
  kind := spec.kind
  duration := spec.duration
  delay := spec.delay
  easing := spec.easing
  side := spec.side
  elapsed := 0.0
  restAlpha := p.alpha.getD 1.0
  restX := p.x.getD 0.0
  restY := p.y.getD 0.0
  restScaleX := restingScale p.scaleX
  restScaleY := restingScale p.scaleY

/-- The pose at the start of the effect, on a canvas of the given size (`Animation.apply_start`). -/
def start (a : Animation α) (canvas : α × α) (p : Pose α) : Pose α :=
  match a.kind, a.side with
  | .fadeIn, _ => { p with alpha := some 0.0 }
  | .slideIn, .top => { p with y := some (-(p.height.getD 0.0) - margin) }
  | .slideIn, .bottom => { p with y := some (canvas.2 + margin) }
  | .slideIn, .left => { p with x := some (-(p.width.getD 0.0) - margin) }
  | .slideIn, .right => { p with x := some (canvas.1 + margin) }
  | .scale, _ => { p with scaleX := some 0.0, scaleY := some 0.0 }
  | .fadeOut, _ | .pulse, _ => p

/-- The time since the delay ran out; negative before (`Animation.active_time`). -/
def activeTime (a : Animation α) : α := a.elapsed - a.delay

/-- The part of the duration that has passed (`Animation.progress`). -/
def progress (a : Animation α) : α :=
  if Scalar.le a.duration 0.0 then 1.0 else clampUnit (a.activeTime / a.duration)

/-- The angle of the pulse, in radians. -/
def angle (a : Animation α) : α := pulseSpeed * a.activeTime

/-- The pose at the present time, if there is one: a pulse has none at an infinite angle
(`Animation.step`). -/
def pose (a : Animation α) (p : Pose α) : Except Fault (Pose α) := do
  let e := a.easing.curve a.progress
  match a.kind, a.side with
  | .fadeIn, _ => return { p with alpha := some (e * a.restAlpha) }
  | .fadeOut, _ => return { p with alpha := some (a.restAlpha * (1.0 - e)) }
  | .slideIn, .top | .slideIn, .bottom =>
    return { p with y := some (lerp (p.y.getD 0.0) a.restY e) }
  | .slideIn, .left | .slideIn, .right =>
    return { p with x := some (lerp (p.x.getD 0.0) a.restX e) }
  | .scale, _ =>
    return { p with scaleX := some (e * a.restScaleX), scaleY := some (e * a.restScaleY) }
  | .pulse, _ =>
    let f := 1.0 + pulseAmplitude * (← Scalar.sine a.angle)
    return { p with scaleX := some (a.restScaleX * f), scaleY := some (a.restScaleY * f) }

/-- Lets time pass (`Animation.step`).  During the delay nothing moves; a completed animation does
nothing more, and a pulse never completes.  Time has passed also when there is no pose. -/
def step (dt : α) (a : Animation α) (p : Pose α) : Animation α × Except Fault (Pose α) :=
  if a.completed then (a, .ok p)
  else
    let a := { a with elapsed := a.elapsed + dt }
    if Scalar.lt a.elapsed a.delay then (a, .ok p)
    else
      let done := a.kind != .pulse && Scalar.le 1.0 a.progress
      ({ a with completed := done }, a.pose p)

end Animation

end Diorama
