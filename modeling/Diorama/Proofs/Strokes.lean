/-
# Lines end where they are said to

A line is drawn on a surface of its own, as large as the line leads to either side with room for its
width all around.  Where it starts in there depends on which way it leads, on each axis by itself.

On one axis this is a matter of three numbers: how far the line leads, the length of the surface, and
where it is placed.  `inside_of_line` says that both ends lie in the room that is left by the width,
but for half a pixel, and `abs_placed_le` that they are within five quarters of a pixel of where
they should be on the canvas: half a pixel for the middle, a quarter for the length, and another half
for the halving of a whole number.  `Entity.Stroked` is the sight of a line on both axes, and
`Entity.line_in_frame` says what it looks like.
-/
import Diorama.Proofs.Drawable

namespace Diorama

open Act

/-! ## 1. One axis

Both coordinates of a line are treated alike, so there is one axis to look at: a start, a
direction and a padding by the stroke. -/

namespace Entity

section Exact

variable (sine : Rat → Rat) (radian : Rat)

/-- A line starts at the side that it leads away from, one width inside the box. -/
theorem lineStart_exact (delta : Rat) (side stroke : Int) : letI := Scalar.exact sine radian
    lineStart delta side stroke = if 0 ≤ delta then stroke else side - stroke := by
  unfold lineStart
  simp only [Scalar.le_exact, decide_eq_true_eq]
  norm_num

end Exact

end Entity

section Axis

variable {m stroke start : Int} {delta : Rat} (hm : |(m : Rat) - (|delta|)| ≤ 1 / 2)
  (hstart : start = if 0 ≤ delta then stroke else m + stroke * 2 - stroke)

include hm hstart

/-- **Both ends lie in the room that the width leaves**, but for half a pixel. -/
theorem inside_of_line {q : Rat} (hq : q = start ∨ q = start + delta) :
    (stroke : Rat) - 1 / 2 ≤ q ∧ q ≤ ((m + stroke * 2 : Int) : Rat) - stroke + 1 / 2 := by
  have hnonneg : (0 : Rat) ≤ m := by exact_mod_cast nonneg_of_near (abs_nonneg delta) hm
  have hm := abs_le.1 hm
  rcases le_or_gt 0 delta with hforth | hback
  · rw [if_pos hforth] at hstart
    rw [abs_of_nonneg hforth] at hm
    subst hstart
    push_cast
    rcases hq with rfl | rfl <;> constructor <;> linarith [hm.1, hm.2]
  · rw [if_neg (not_le.2 hback)] at hstart
    rw [abs_of_neg hback] at hm
    subst hstart
    push_cast at hq ⊢
    rcases hq with rfl | rfl <;> constructor <;> linarith [hm.1, hm.2]

/-- **A line that is placed by its middle starts within five quarters of a pixel of where it
should.** -/
theorem abs_placed_le {c : Int} {origin : Rat} (hc : |(c : Rat) - (origin + delta / 2)| ≤ 1 / 2) :
    |((c - (m + stroke * 2) / 2 : Int) : Rat) + start - origin| ≤ 5 / 4 := by
  have hhalf : (m + stroke * 2) / 2 = m / 2 + stroke := by omega
  obtain ⟨hlow, hhigh⟩ := half_near m
  have hm := abs_le.1 hm
  have hc := abs_le.1 hc
  rw [hhalf, abs_le]
  rcases le_or_gt 0 delta with hforth | hback
  · rw [if_pos hforth] at hstart
    rw [abs_of_nonneg hforth] at hm
    subst hstart
    push_cast
    constructor <;> linarith [hm.1, hm.2, hc.1, hc.2]
  · rw [if_neg (not_le.2 hback)] at hstart
    rw [abs_of_neg hback] at hm
    subst hstart
    push_cast
    constructor <;> linarith [hm.1, hm.2, hc.1, hc.2]

end Axis

/-! ## 2. The sight of a line

The surface of a line is as large as its box with the stroke on all sides, and the line is drawn
within it. -/

/-- What was drawn before it was turned and faded to be placed. -/
def Picture.drawn {α : Type} : Picture α → Picture α
  | .turned p _ | .faded p _ => p.drawn
  | p => p

/-- An empty panel of no negative side. -/
theorem Panel.blank_of_nonneg {α : Type} {width height : Int} (hwidth : 0 ≤ width)
    (hheight : 0 ≤ height) :
    blank width height = .ok (⟨.blank width height, width, height⟩ : Panel α) := by
  refine if_neg ?_
  rw [Bool.or_eq_true, decide_eq_true_eq, decide_eq_true_eq]
  omega

namespace Entity

section Sight

variable {α : Type} [Scalar α] {e : Entity α} {p : Panel α} {s : Sight α}

/-- To present a picture turns and fades it; what was drawn is the same. -/
theorem drawn_of_presented (h : e.presented p = .ok (some s)) :
    s.picture.drawn = p.picture.drawn := by
  have hfaded (p : Panel α) (opacity : Int) : (p.faded opacity).picture.drawn = p.picture.drawn := by
    unfold Panel.faded
    split <;> rfl
  unfold presented at h
  obtain ⟨opacity, -, h⟩ := except_bind_eq_ok.1 h
  obtain ⟨x, -, h⟩ := except_bind_eq_ok.1 h
  obtain ⟨y, -, h⟩ := except_bind_eq_ok.1 h
  cases h
  rw [hfaded]
  split <;> rfl

/-- How far a line leads on an axis, with its sign. -/
def course (e : Entity α) (a : Axis) : α := e.span a * Scalar.abs (e.scale a)

/-- A line from a point on a surface of a size. -/
def linePanel (e : Entity α) (c : Color) (stroke : Int) (start : Axis → Int) (width height : Int) :
    Panel α where
  picture := .line (.blank width height) (.color c) (start .across, start .down)
    (.exact (Scalar.ofInt (start .across) + e.course .across)
      (Scalar.ofInt (start .down) + e.course .down)) stroke
  width := width
  height := height

/-- The sight of a line is a box with one line in it, once its sides are known. -/
theorem lineSight_eq (c : Color) {stroke : Int} {m : Axis → Int}
    (hm : ∀ a, Scalar.nearest (Scalar.abs (e.course a)) = .ok (m a))
    (hroom : ∀ a, 0 ≤ m a + stroke * 2) :
    e.lineSight c stroke =
      e.presented (e.linePanel c stroke
        (fun a => lineStart (e.course a) (m a + stroke * 2) stroke)
        (m .across + stroke * 2) (m .down + stroke * 2)) := by
  have hx : Scalar.nearest (Scalar.abs (e.width * Scalar.abs e.scaleX)) = .ok (m .across) :=
    hm .across
  have hy : Scalar.nearest (Scalar.abs (e.height * Scalar.abs e.scaleY)) = .ok (m .down) :=
    hm .down
  unfold lineSight
  dsimp only
  rw [hx, hy]
  change (do
    let p ← Panel.blank (m .across + stroke * 2) (m .down + stroke * 2)
    e.presented { p with picture := _ }) = _
  rw [Panel.blank_of_nonneg (hroom .across) (hroom .down)]
  rfl

end Sight

/-- On each axis the sight is as long as the course of a line when it is rounded to `m`, with room
for the stroke; it is placed by the middle; and the line starts on the side that it leads away
from. -/
structure Stroked (course middle : Axis → Rat) (stroke : Int) (s : Sight Rat)
    (m start : Axis → Int) : Prop where
  near : ∀ a, |(m a : Rat) - (|course a|)| ≤ 1 / 2
  length : ∀ a, s.length a = m a + stroke * 2
  start : ∀ a, start a = if 0 ≤ course a then stroke else m a + stroke * 2 - stroke
  middle : ∀ a, ∃ c : Int, |(c : Rat) - middle a| ≤ 1 / 2 ∧ s.low a = c - s.length a / 2

namespace Stroked

variable {course middle : Axis → Rat} {stroke : Int} {s : Sight Rat} {m start : Axis → Int}
  (h : Stroked course middle stroke s m start)

include h

/-- The box has room for the width on both sides. -/
theorem room (a : Axis) : 2 * stroke ≤ s.length a := by
  have hnonneg := nonneg_of_near (abs_nonneg _) (h.near a)
  rw [h.length]
  omega

/-- Both ends of the line lie inside the box, one width from its edges but for half a pixel. -/
theorem inside (a : Axis) {q : Rat} (hq : q = start a ∨ q = start a + course a) :
    (stroke : Rat) - 1 / 2 ≤ q ∧ q ≤ s.length a - stroke + 1 / 2 := by
  rw [h.length]
  exact inside_of_line (h.near a) (h.start a) hq

/-- Both ends lie where they should on the canvas, but for five quarters of a pixel. -/
theorem placed (a : Axis) {origin : Rat} (horigin : middle a = origin + course a / 2) :
    |s.low a + (start a : Rat) - origin| ≤ 5 / 4 ∧
      |s.low a + (start a + course a) - (origin + course a)| ≤ 5 / 4 := by
  obtain ⟨c, hc, hlow⟩ := h.middle a
  rw [horigin] at hc
  have hplaced := abs_placed_le (h.near a) (h.start a) hc
  rw [hlow, h.length]
  refine ⟨hplaced, ?_⟩
  rwa [← add_assoc, add_sub_add_right_eq_sub]

end Stroked

/-- A line has a sight.  With exact numbers every rounding succeeds, so the two sides, the two
starts and the place are there; the sides get the room of the stroke on both ends. -/
theorem exists_stroked (sine : Rat → Rat) (radian : Rat) (e : Entity Rat) (c : Color) {stroke : Int}
    (hstroke : 1 ≤ stroke) : letI := Scalar.exact sine radian
    ∃ (s : Sight Rat) (m start : Axis → Int), e.lineSight c stroke = .ok (some s) ∧
      Stroked e.course e.middle stroke s m start ∧
      s.picture.drawn = (e.linePanel c stroke start s.width s.height).picture ∧
      (Scalar.isZero e.rotation = true → s.picture.frame = some (s.width, s.height)) := by
  let _ := Scalar.exact sine radian
  obtain ⟨m, hm⟩ : ∃ m : Axis → Int, ∀ a, Scalar.nearest (Scalar.abs (e.course a)) = .ok (m a) :=
    ⟨_, fun a => rfl⟩
  have hnear (a : Axis) : |(m a : Rat) - (|e.course a|)| ≤ 1 / 2 := by
    have hrounded := Scalar.nearest_exact sine radian (hm a)
    rwa [Scalar.abs_exact] at hrounded
  have hroom (a : Axis) : 0 ≤ m a + stroke * 2 := by
    have hnonneg := nonneg_of_near (abs_nonneg _) (hnear a)
    omega
  obtain ⟨s, hs⟩ : ∃ s, e.presented (e.linePanel c stroke
      (fun a => lineStart (e.course a) (m a + stroke * 2) stroke)
      (m .across + stroke * 2) (m .down + stroke * 2)) = .ok (some s) := ⟨_, rfl⟩
  have hcenters := centers_of_presented hs
  refine ⟨s, m, _, (lineSight_eq c hm hroom).trans hs, ⟨hnear, fun a => ?_,
    fun a => lineStart_exact sine radian _ _ _, fun a => ?_⟩, ?_, fun hrotation => ?_⟩
  · cases a
    · exact hcenters.width
    · exact hcenters.height
  · obtain ⟨middle, hmiddle, hlow⟩ := hcenters.low a
    exact ⟨middle, Scalar.nearest_exact sine radian hmiddle, hlow⟩
  · rw [drawn_of_presented hs, hcenters.width, hcenters.height]
    rfl
  · exact framed_of_presented hrotation (show (e.linePanel c stroke _ _ _).Framed from rfl) hs

/-- **A line fits its surface and ends where it is said to.**  Let a line be visible, with some
opacity; position, size, scales and the width of its stroke may be any numbers, also negative ones.
Then it has a sight, which rendering places and nothing else: a line from one point to another, in
some colour, on a surface that was empty.  Only a colour that is none and cannot be said in the log
ends the rendering instead, before there is a surface.

* The surface is at least twice as wide and as high as the stroke, and on each axis both points lie
  in it with room for the stroke, but for half a pixel.
* If the line is not turned and neither enlarged nor mirrored, the surface is placed in its own
  size, and on each axis the first point comes within five quarters of a pixel of the corner of the
  entity and the second as near to the opposite corner. -/
theorem line_in_frame [Host Rat] (sine : Rat → Rat) (radian : Rat) :
    letI := Scalar.exact sine radian
    ∀ {e : Entity Rat} {radius : Rat} {filled : Bool} {stroke : Int} (look : Sheet → Picture Rat),
      e.form = .shape .line radius filled stroke → e.visible = true → 0 < e.alpha →
      (∀ (d : Device Rat) (canvas : Surface),
        (e.render canvas).Displays (fun _ => False) d canvas (e.sight d.view)) ∧
      (Color.Unsayable e.color → e.sight look = .error .notANumber) ∧
      (¬ Color.Unsayable e.color → ∃ (s : Sight Rat) (c : Color) (x₀ y₀ : Int) (x₁ y₁ : Rat),
        e.sight look = .ok (some s) ∧
        s.picture.drawn =
          .line (.blank s.width s.height) (.color c) (x₀, y₀) (.exact x₁ y₁) (max 1 stroke) ∧
        (∀ a, 2 * max 1 stroke ≤ s.length a ∧ ∀ q : Rat, q = a.pick x₀ y₀ ∨ q = a.pick x₁ y₁ →
          (max 1 stroke : Int) - 1 / 2 ≤ q ∧ q ≤ s.length a - (max 1 stroke : Int) + 1 / 2) ∧
        (e.rotation = 0 → e.scaleX = 1 → e.scaleY = 1 →
          s.picture.frame = some (s.width, s.height) ∧
          ∀ a, |s.low a + (a.pick x₀ y₀ : Int) - e.origin a| ≤ 5 / 4 ∧
            |s.low a + a.pick x₁ y₁ - (e.origin a + e.span a)| ≤ 5 / 4)) := by
  intro e radius filled stroke look hform hvisible halpha
  let _ := Scalar.exact sine radian
  have hopaque : ¬ e.alpha ≤ (0.0 : Rat) := by
    norm_num
    exact halpha
  have hsight : e.sight look = e.shapeSight .line radius filled stroke := by
    unfold sight
    rw [show (!e.visible || Scalar.le e.alpha 0.0) = false by simp [hvisible, hopaque], hform]
    rfl
  obtain ⟨hnever, hseen⟩ := Color.seen_exact sine radian e.color
  refine ⟨fun d canvas => displays_render e ⟨by simp [hform], by simp [hform]⟩,
    fun hno => ?_, fun hsayable => ?_⟩
  · rw [hsight, shapeSight, hnever hno]
    rfl
  rw [hsight]
  obtain ⟨c, hc⟩ := hseen hsayable
  obtain ⟨s, m, start, hline, hstroked, hdrawn, hframe⟩ :=
    exists_stroked sine radian e c (le_max_left 1 stroke)
  have hfirst (a : Axis) : a.pick (start .across) (start .down) = start a := by cases a <;> rfl
  have hsecond (a : Axis) : a.pick (start .across + e.course .across : Rat)
      (start .down + e.course .down) = start a + e.course a := by cases a <;> rfl
  refine ⟨s, c, start .across, start .down, start .across + e.course .across,
    start .down + e.course .down, ?_, hdrawn, fun a => ⟨hstroked.room a, fun q hq => ?_⟩,
    fun hrotation hx hy => ⟨hframe ?_, fun a => ?_⟩⟩
  · simp only [shapeSight, hc]
    exact hline
  · rw [hfirst, hsecond] at hq
    exact hstroked.inside a hq
  · rw [hrotation]
    exact decide_eq_true (by norm_num)
  · have hcourse : e.course a = e.span a := by
      cases a <;> simp [course, scale, hx, hy, Scalar.abs_exact]
    have hmiddle : e.middle a = e.origin a + e.course a / 2 := by
      rw [middle_eq, hcourse, pivot, hform]
      norm_num
    rw [hfirst, hsecond, ← hcourse]
    exact hstroked.placed a hmiddle

/-! A wire that leads to the left and down, by half pixels. -/

def wire : Entity Rat where
  x := 10
  y := 20
  width := -7 / 2
  height := 5 / 2
  rotation := 0
  alpha := 1
  scaleX := 1
  scaleY := 1
  form := .shape .line 0 false 3

theorem line_in_frame_wire : letI := Scalar.exact (fun x => x) 57
    letI : Host Rat := .recording
    ∃ (s : Sight Rat) (c : Color) (x₀ y₀ : Int) (x₁ y₁ : Rat), wire.sight .given = .ok (some s) ∧
      s.picture.drawn = .line (.blank s.width s.height) (.color c) (x₀, y₀) (.exact x₁ y₁) 3 ∧
      6 ≤ s.width ∧ |s.low .across + (x₀ : Rat) - 10| ≤ 5 / 4 ∧
      |s.low .across + x₁ - 13 / 2| ≤ 5 / 4 := by
  let _ := Scalar.exact (fun x => x) 57
  let _ : Host Rat := .recording
  have hsayable : ¬ Color.Unsayable wire.color :=
    Color.not_unsayable (by simp [wire, Value.writable])
  obtain ⟨-, -, hline⟩ := line_in_frame (fun x => x) 57 .given
    (show wire.form = .shape .line 0 false 3 from rfl) rfl (by norm_num [wire])
  obtain ⟨s, c, x₀, y₀, x₁, y₁, hs, hdrawn, hinside, hplaced⟩ := hline hsayable
  obtain ⟨-, hends⟩ := hplaced rfl rfl rfl
  have hcorner : wire.origin .across + wire.span .across = 13 / 2 := by
    norm_num [wire, origin, span]
  obtain ⟨hfirst, hsecond⟩ := hends .across
  rw [hcorner] at hsecond
  exact ⟨s, c, x₀, y₀, x₁, y₁, hs, hdrawn, (hinside .across).1, hfirst, hsecond⟩

end Entity

end Diorama
