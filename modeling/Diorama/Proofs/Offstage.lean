/-
# Where an entity is drawn

An entity that slides in starts at a coordinate that is worked out from its width or height alone.
What is drawn of it depends on more: on its scale and on the radius of a disc, about a centre, on
the width of a stroke, and on the size of a label and its alignment.  So whether it starts off the
canvas is a question about its sight.

On each axis the sight begins and ends within a pixel and a half of where the attributes say
(`Entity.near_of_sight`): it begins `e.lead` after the coordinate of the entity and is `e.extent`
long.  `e.overhang` is how far this goes beyond the box of the entity on the side from which the
canvas is seen.  The start leaves a margin of 100 pixels.  An overhang that uses it up reaches over
the edge, and one that does not is hidden (`Entity.reaches_of_offstage`).  A sprite, a button or a
rectangle that is not enlarged has none.  A disc may have any, since its radius does not depend on
its box.
-/
import Diorama.Proofs.Sights
import Diorama.Proofs.Sliding

namespace Diorama

open Act Decimal

/-! ## 1. Whole numbers near a fraction

Sizes and places on the screen are whole numbers, by rounding or by dropping the fraction, so they
are near the exact ones but not the same. -/

/-- The nearest whole number to a quotient is at most half away. -/
theorem Decimal.roundDiv_spec (num : Int) {den : Nat} (h : 0 < den) :
    2 * num - den ≤ 2 * (roundDiv num den * den) ∧
      2 * (roundDiv num den * den) ≤ 2 * num + den := by
  have hq : (den : Int) * (num.fdiv den) + num.fmod den = num := Int.mul_fdiv_add_fmod num den
  have hr : 0 ≤ num.fmod den := Int.fmod_nonneg_of_pos num (by omega)
  have hlt : num.fmod den < den := Int.fmod_lt_of_pos num (by omega)
  have hsucc : (num.fdiv den + 1) * (den : Int) = num.fdiv den * den + den := by ring
  rw [mul_comm] at hq
  unfold roundDiv
  dsimp only
  split_ifs
  · omega
  · rw [hsucc]
    omega
  · omega
  · rw [hsucc]
    omega

/-- A quotient without its fraction is less than one away. -/
theorem Decimal.truncDiv_spec (num : Int) {den : Nat} (h : 0 < den) :
    num - den < truncDiv num den * den ∧ truncDiv num den * den < num + den := by
  have hq := Int.tdiv_mul_add_tmod num den
  have hlt := Int.tmod_lt_of_pos num (show (0 : Int) < den by omega)
  have hgt := Int.lt_tmod_of_pos num (show (0 : Int) < den by omega)
  unfold truncDiv
  omega

/-- A whole number is as near to a fraction as its multiple is to the numerator. -/
theorem abs_sub_le_of_scaled {x c : Rat} {n : Int} (h : |(n : Rat) * x.den - x.num| ≤ c * x.den) :
    |(n : Rat) - x| ≤ c := by
  have hden : (0 : Rat) < x.den := by exact_mod_cast x.den_pos
  have hscaled : |(n : Rat) - x| * x.den = |(n : Rat) * x.den - x.num| := by
    rw [← Rat.mul_den_eq_num x, ← sub_mul, abs_mul, abs_of_pos hden]
  exact le_of_mul_le_mul_right (hscaled.trans_le h) hden

/-- Rounding moves an exact number by at most one half. -/
theorem Scalar.nearest_exact (sine : Rat → Rat) (radian : Rat) {x : Rat} {n : Int} :
    letI := Scalar.exact sine radian
    Scalar.nearest x = .ok n → |(n : Rat) - x| ≤ 1 / 2 := by
  intro h
  have hn : roundDiv x.num x.den = n := Except.ok.inj h
  obtain ⟨hlow, hhigh⟩ := hn ▸ roundDiv_spec x.num x.den_pos
  have hlow : 2 * (x.num : Rat) - x.den ≤ 2 * (n * x.den) := by exact_mod_cast hlow
  have hhigh : 2 * ((n : Rat) * x.den) ≤ 2 * x.num + x.den := by exact_mod_cast hhigh
  exact abs_sub_le_of_scaled (abs_le.2 ⟨by linarith, by linarith⟩)

/-- What is near to a number that is not negative is not negative. -/
theorem nonneg_of_near {n : Int} {x : Rat} (hx : 0 ≤ x) (h : |(n : Rat) - x| ≤ 1 / 2) : 0 ≤ n := by
  have hlow : (-1 : Rat) < n := by linarith [(abs_le.1 h).1]
  have hlow : -1 < n := by exact_mod_cast hlow
  omega

/-- What is rounded to the nearest whole number does not become negative. -/
theorem Scalar.nearest_exact_nonneg (sine : Rat → Rat) (radian : Rat) {x : Rat} (hx : 0 ≤ x)
    {n : Int} : letI := Scalar.exact sine radian
    Scalar.nearest x = .ok n → 0 ≤ n :=
  fun h => nonneg_of_near hx (Scalar.nearest_exact sine radian h)

/-- Half of a whole number without its fraction. -/
theorem half_near (n : Int) :
    2 * ((n / 2 : Int) : Rat) ≤ n ∧ (n : Rat) ≤ 2 * ((n / 2 : Int) : Rat) + 1 :=
  ⟨by exact_mod_cast (by omega : 2 * (n / 2) ≤ n), by exact_mod_cast (by omega : n ≤ 2 * (n / 2) + 1)⟩

/-- Dropping the fraction moves it by less than one. -/
theorem Scalar.whole_exact (sine : Rat → Rat) (radian : Rat) {x : Rat} {n : Int} :
    letI := Scalar.exact sine radian
    Scalar.whole x = .ok n → |(n : Rat) - x| ≤ 1 := by
  intro h
  have hn : truncDiv x.num x.den = n := Except.ok.inj h
  obtain ⟨hlow, hhigh⟩ := hn ▸ truncDiv_spec x.num x.den_pos
  have hlow : (x.num : Rat) - x.den < n * x.den := by exact_mod_cast hlow
  have hhigh : (n : Rat) * x.den < x.num + x.den := by exact_mod_cast hhigh
  exact abs_sub_le_of_scaled (abs_le.2 ⟨by linarith, by linarith⟩)

/-! ## 2. The edges of a sight

The edges of a sight, and what it means for it to reach over a side of the canvas. -/

/-- The two axes of a canvas. -/
inductive Axis where
  | across | down

/-- The axis on which one comes in from a side. -/
def Side.axis : Side → Axis
  | .top | .bottom => .down
  | .left | .right => .across

section Edges

variable {α : Type}

namespace Sight

/-- The first column or row of pixels. -/
def low (s : Sight α) : Axis → Int
  | .across =>
    match s.spot with
    | .centered x _ => x - s.width / 2
    | .cornered x _ => x
  | .down =>
    match s.spot with
    | .centered _ y => y - s.height / 2
    | .cornered _ y => y

/-- How many columns or rows there are. -/
def length (s : Sight α) : Axis → Int
  | .across => s.width
  | .down => s.height

/-- The pixel is one of the sight. -/
def Covers (s : Sight α) (px py : Int) : Prop :=
  s.low .across ≤ px ∧ px < s.low .across + s.length .across ∧
    s.low .down ≤ py ∧ py < s.low .down + s.length .down

/-- The sight reaches over the edge of a canvas that it comes to from this side. -/
def Reaches (side : Side) (width height : Int) (s : Sight α) : Prop :=
  match side with
  | .top => 0 < s.low .down + s.length .down
  | .bottom => s.low .down < height
  | .left => 0 < s.low .across + s.length .across
  | .right => s.low .across < width

/-- No pixel of the canvas is one of the sight. -/
def Hidden (width height : Int) (s : Sight α) : Prop :=
  ∀ px py, 0 ≤ px ∧ px < width → 0 ≤ py ∧ py < height → ¬ s.Covers px py

/-- What does not reach over a side is hidden behind it. -/
theorem hidden_of_not_reaches {s : Sight α} {side : Side} {width height : Int}
    (h : ¬ s.Reaches side width height) : s.Hidden width height := by
  rintro px py ⟨hx0, hx⟩ ⟨hy0, hy⟩ ⟨hleft, hright, htop, hbottom⟩
  cases side <;> simp only [Reaches] at h <;> omega

end Sight

namespace Entity

variable [Scalar α]

/-- The coordinate of the entity on an axis. -/
def origin (e : Entity α) : Axis → α
  | .across => e.x
  | .down => e.y

/-- The size of the entity's box on an axis. -/
def span (e : Entity α) : Axis → α
  | .across => e.width
  | .down => e.height

def scale (e : Entity α) : Axis → α
  | .across => e.scaleX
  | .down => e.scaleY

def middle (e : Entity α) : Axis → α
  | .across => e.center.1
  | .down => e.center.2

/-- The size of a text on an axis, before it is stretched. -/
def labelLength (α : Type) [Scalar α] [Host α] (content font : String) (a : Axis) : Int :=
  match (Typeface.measured α content font).toOption, a with
  | some size, .across => size.1
  | some size, .down => size.2
  | none, _ => 0

/-- The number that the size of the sight on an axis is rounded from. -/
def measure [Host α] (e : Entity α) (a : Axis) : α :=
  match e.form with
  | .text content font _ _ =>
    Scalar.ofInt (labelLength α content font a) * Scalar.abs (e.scale a)
  | .shape .circle radius _ _ =>
    2.0 * (radius * Scalar.min (Scalar.abs e.scaleX) (Scalar.abs e.scaleY))
  | .shape .line _ _ _ => Scalar.abs (e.span a * Scalar.abs (e.scale a))
  | .shape .rect _ _ _ => Scalar.abs (e.span a) * Scalar.abs (e.scale a)
  | _ => Scalar.abs (e.span a * e.scale a)

/-- The room for the width of a line on both sides. -/
def padding (e : Entity α) : Int :=
  match e.form with
  | .shape .line _ _ stroke => outline stroke * 2
  | _ => 0

/-- How much is drawn on an axis, but for rounding. -/
def extent [Host α] (e : Entity α) (a : Axis) : α := e.measure a + Scalar.ofInt e.padding

/-- How far after the coordinate of the entity its centre lies. -/
def pivot (e : Entity α) (a : Axis) : α :=
  match e.form with
  | .shape .circle radius _ _ => radius
  | _ => e.span a / 2.0

/-- How far after the coordinate of the entity what is drawn begins, but for rounding: a text at the
point that it is aligned at, and all else around the centre. -/
def lead [Host α] (e : Entity α) (a : Axis) : α :=
  match e.form, a with
  | .text _ _ align _, .across =>
    if align == "center" then -(e.extent a / 2.0)
    else if align == "right" || align == "end" then -(e.extent a)
    else 0.0
  | .text .., .down => 0.0
  | _, _ => e.pivot a - e.extent a / 2.0

/-- How far what is drawn goes beyond the box of the entity, on the side that looks to a canvas that
it comes to from this side. -/
def overhang [Host α] (side : Side) (e : Entity α) : α :=
  match side with
  | .top | .left => e.lead side.axis + e.extent side.axis - e.span side.axis
  | .bottom | .right => -(e.lead side.axis)

/-- Sprites, buttons and rectangles fill their box. -/
def isBoxed (e : Entity α) : Bool :=
  match e.form with
  | .sprite _ | .button .. | .shape .rect .. => true
  | _ => false

/-- The middle lies the pivot after the origin. -/
theorem middle_eq (e : Entity α) (a : Axis) : e.middle a = e.origin a + e.pivot a := by
  unfold middle center pivot
  cases e.form with
  | shape kind radius filled stroke => cases kind <;> cases a <;> rfl
  | _ => cases a <;> rfl

/-- A text is not placed by its centre, and a divider has no sight. -/
def Centered (e : Entity α) : Prop :=
  (∀ content font align owner, e.form ≠ .text content font align owner) ∧ e.form ≠ .divider

end Entity

/-! ## 3. Reading a sight

A sight is read off from the drawing that led to it: which numbers were rounded, and how the place
was worked out from them.  Most forms are placed by their middle (`Entity.Centers`); a line of
text is placed by its corner. -/

/-- A computation with a result has gone through every step. -/
theorem except_bind_eq_ok {β γ : Type} {x : Except Fault β} {f : β → Except Fault γ} {c : γ} :
    x >>= f = .ok c ↔ ∃ b, x = .ok b ∧ f b = .ok c := by
  cases x with
  | ok b => exact ⟨fun h => ⟨b, rfl, h⟩, fun ⟨_, hb, h⟩ => by cases hb; exact h⟩
  | error e => exact ⟨nofun, nofun⟩

namespace Picture

/-- Width and height of the surface that shows a picture, where they are known: how large a picture
is that was turned is for the device to say, and so for an image. -/
def frame : Picture α → Option (Int × Int)
  | .blank width height | .label _ _ _ width height | .smoothed _ width height
  | .stretched _ width height => some (width, height)
  | .filled p _ _ | .faded p _ | .deepened p | .rectangle p _ _ _ _ | .circle p _ _ _ _
  | .line p _ _ _ _ | .covered p _ _ => p.frame
  | .given _ | .image _ | .turned _ _ => none

end Picture

namespace Panel

/-- The picture has the size of the panel. -/
def Framed (p : Panel α) : Prop := p.picture.frame = some (p.width, p.height)

@[simp] theorem width_faded (p : Panel α) (opacity : Int) : (p.faded opacity).width = p.width := by
  unfold faded
  split <;> rfl

@[simp] theorem height_faded (p : Panel α) (opacity : Int) :
    (p.faded opacity).height = p.height := by
  unfold faded
  split <;> rfl

@[simp] theorem width_under (p : Panel α) (s : Option (Sight α)) : (p.under s).width = p.width := by
  cases s <;> rfl

@[simp] theorem height_under (p : Panel α) (s : Option (Sight α)) :
    (p.under s).height = p.height := by
  cases s <;> rfl

/-- What is stretched to a size has that size. -/
theorem size_fitted (p : Panel α) (depth : Nat) (width height : Int) :
    (p.fitted depth width height).width = width ∧
      (p.fitted depth width height).height = height := by
  unfold fitted
  split
  · next h => simpa using h
  · split <;> exact ⟨rfl, rfl⟩

/-- Fading changes no size. -/
theorem Framed.faded {p : Panel α} (h : p.Framed) (opacity : Int) : (p.faded opacity).Framed := by
  unfold Panel.faded
  split <;> exact h

/-- What is put on top of a picture leaves it its size. -/
theorem Framed.under {p : Panel α} (h : p.Framed) (s : Option (Sight α)) : (p.under s).Framed := by
  cases s <;> exact h

/-- An empty surface has the size that it was made with. -/
theorem size_of_blank {width height : Int} {p : Panel α} (h : blank width height = .ok p) :
    p.width = width ∧ p.height = height := by
  unfold blank at h
  split at h
  · cases h
  · cases h
    exact ⟨rfl, rfl⟩

theorem framed_of_blank {width height : Int} {p : Panel α} (h : blank width height = .ok p) :
    p.Framed := by
  unfold blank at h
  split at h
  · cases h
  · cases h
    rfl

end Panel

namespace Entity

variable [Scalar α] {e : Entity α} {look : Sheet → Picture α} {p : Panel α} {s : Sight α}

/-- What is placed by the centre of an entity. -/
structure Centers (e : Entity α) (width height : Int) (s : Sight α) : Prop where
  width : s.width = width
  height : s.height = height
  spot : ∃ x y, Scalar.nearest e.center.1 = .ok x ∧ Scalar.nearest e.center.2 = .ok y ∧
    s.spot = .centered x y

/-- What is presented is placed by its middle. -/
theorem centers_of_presented (h : e.presented p = .ok (some s)) :
    e.Centers p.width p.height s := by
  unfold presented at h
  obtain ⟨opacity, -, h⟩ := except_bind_eq_ok.1 h
  obtain ⟨x, hx, h⟩ := except_bind_eq_ok.1 h
  obtain ⟨y, hy, h⟩ := except_bind_eq_ok.1 h
  cases h
  refine ⟨?_, ?_, x, y, hx, hy, rfl⟩
  · rw [Panel.width_faded]
    split <;> rfl
  · rw [Panel.height_faded]
    split <;> rfl

/-- What is not turned is placed in its own size. -/
theorem framed_of_presented (hrotation : Scalar.isZero e.rotation = true) (hp : p.Framed)
    (h : e.presented p = .ok (some s)) : s.toPanel.Framed := by
  unfold presented at h
  obtain ⟨opacity, -, h⟩ := except_bind_eq_ok.1 h
  obtain ⟨x, -, h⟩ := except_bind_eq_ok.1 h
  obtain ⟨y, -, h⟩ := except_bind_eq_ok.1 h
  cases h
  rw [if_pos hrotation]
  exact hp.faded opacity

/-- So is what was drawn on a blank surface. -/
theorem centers_of_blank {width height : Int} {draw : Panel α → Picture α}
    (h : (do
      let p ← Panel.blank width height
      e.presented { p with picture := draw p }) = .ok (some s)) : e.Centers width height s := by
  obtain ⟨p, hp, h⟩ := except_bind_eq_ok.1 h
  obtain ⟨hwidth, hheight⟩ := Panel.size_of_blank hp
  have hcenters := centers_of_presented h
  rwa [hwidth, hheight] at hcenters

/-- A sprite is as large as its scaled body.  A sprite with an image shows it fitted to this size,
and one without shows a panel of this size. -/
theorem centers_of_spriteSight [Host α] {image : Option (Panel α × Nat)}
    (h : e.spriteSight image = .ok (some s)) :
    ∃ width height, Scalar.nearest e.scaledWidth = .ok width ∧
      Scalar.nearest e.scaledHeight = .ok height ∧ e.Centers width height s := by
  unfold spriteSight at h
  obtain ⟨w, hw, h⟩ := except_bind_eq_ok.1 h
  obtain ⟨h', hh, h⟩ := except_bind_eq_ok.1 h
  refine ⟨w, h', hw, hh, ?_⟩
  split at h
  · cases h
  obtain _ | ⟨p, depth⟩ := image
  · dsimp only at h
    split at h
    · cases h
    obtain ⟨p, hp, h⟩ := except_bind_eq_ok.1 h
    obtain ⟨c, -, h⟩ := except_bind_eq_ok.1 h
    obtain ⟨hwidth, hheight⟩ := Panel.size_of_blank hp
    have hcenters := centers_of_presented h
    rwa [hwidth, hheight] at hcenters
  · obtain ⟨hwidth, hheight⟩ := p.size_fitted depth w h'
    have hcenters := centers_of_presented h
    rwa [hwidth, hheight] at hcenters

/-- A button is drawn on a surface of the size of its bounds.  The panel is filled first and the
label is put on top of it, which changes no size.  A button without a label is the panel alone. -/
theorem presented_of_buttonSight [Host α] {text font : String} {textColor : Value α} {corner : Int}
    (h : e.buttonSight text textColor font corner = .ok (some s)) :
    ∃ area p, e.bounds = .ok area ∧ p.Framed ∧ p.width = area.width ∧ p.height = area.height ∧
      e.presented p = .ok (some s) := by
  unfold buttonSight at h
  obtain ⟨area, harea, h⟩ := except_bind_eq_ok.1 h
  split at h
  · cases h
  obtain ⟨p, hp, h⟩ := except_bind_eq_ok.1 h
  have hframed := Panel.framed_of_blank hp
  obtain ⟨hwidth, hheight⟩ := Panel.size_of_blank hp
  obtain ⟨radius, -, h⟩ := except_bind_eq_ok.1 h
  obtain ⟨c, -, h⟩ := except_bind_eq_ok.1 h
  dsimp only at h
  split at h
  · obtain ⟨size, -, h⟩ := except_bind_eq_ok.1 h
    obtain ⟨ink, -, h⟩ := except_bind_eq_ok.1 h
    obtain ⟨label, -, h⟩ := except_bind_eq_ok.1 h
    refine ⟨area, _, harea, .under ?_ label, ?_, ?_, h⟩
    · exact hframed
    · rw [Panel.width_under, hwidth]
    · rw [Panel.height_under, hheight]
  · refine ⟨area, _, harea, ?_, ?_, ?_, h⟩
    · exact hframed
    · exact hwidth
    · exact hheight

/-- A button is as large as the area that a click must hit. -/
theorem centers_of_buttonSight [Host α] {text font : String} {textColor : Value α} {corner : Int}
    (h : e.buttonSight text textColor font corner = .ok (some s)) :
    ∃ area, e.bounds = .ok area ∧ e.Centers area.width area.height s := by
  obtain ⟨area, p, harea, -, hwidth, hheight, h⟩ := presented_of_buttonSight h
  have hcenters := centers_of_presented h
  rw [hwidth, hheight] at hcenters
  exact ⟨area, harea, hcenters⟩

/-- A disc is as large as its scaled radius says, whatever its box. -/
theorem centers_of_circleSight {c : Color} {radius : α} {width : Int}
    (h : e.circleSight c radius width = .ok (some s)) :
    ∃ side, Scalar.nearest
        (2.0 * (radius * Scalar.min (Scalar.abs e.scaleX) (Scalar.abs e.scaleY))) = .ok side ∧
      e.Centers side side s := by
  unfold circleSight at h
  obtain ⟨side, hside, h⟩ := except_bind_eq_ok.1 h
  refine ⟨side, hside, ?_⟩
  split at h
  · cases h
  · exact centers_of_blank h

/-- A line is as large as it leads, with room for its width. -/
theorem centers_of_lineSight {c : Color} {stroke : Int}
    (h : e.lineSight c stroke = .ok (some s)) :
    ∃ width height, Scalar.nearest (Scalar.abs (e.width * Scalar.abs e.scaleX)) = .ok width ∧
      Scalar.nearest (Scalar.abs (e.height * Scalar.abs e.scaleY)) = .ok height ∧
      e.Centers (width + stroke * 2) (height + stroke * 2) s := by
  unfold lineSight at h
  obtain ⟨w, hw, h⟩ := except_bind_eq_ok.1 h
  obtain ⟨h', hh, h⟩ := except_bind_eq_ok.1 h
  exact ⟨w, h', hw, hh, centers_of_blank h⟩

/-- A rectangle is as large as its box without signs. -/
theorem centers_of_rectangleSight {c : Color} {width : Int}
    (h : e.rectangleSight c width = .ok (some s)) :
    ∃ width height, Scalar.nearest (Scalar.abs e.width * Scalar.abs e.scaleX) = .ok width ∧
      Scalar.nearest (Scalar.abs e.height * Scalar.abs e.scaleY) = .ok height ∧
      e.Centers width height s := by
  unfold rectangleSight at h
  obtain ⟨w, hw, h⟩ := except_bind_eq_ok.1 h
  obtain ⟨h', hh, h⟩ := except_bind_eq_ok.1 h
  refine ⟨w, h', hw, hh, ?_⟩
  split at h
  · cases h
  · exact centers_of_blank h

/-- The sight has this length on the axis: the number that it is measured by to the nearest whole
number, with room for the width of a line, and as the screen keeps it for a button. -/
def Measures [Host α] (e : Entity α) (a : Axis) (n : Int) : Prop :=
  ∃ m, Scalar.nearest (e.measure a) = .ok m ∧
    if e.isButton then Area.screenInt m = .ok n else n = m + e.padding

/-- Where it begins: half its length before its middle. -/
theorem Centers.low {width height : Int} (h : e.Centers width height s) (a : Axis) :
    ∃ c, Scalar.nearest (e.middle a) = .ok c ∧ s.low a = c - s.length a / 2 := by
  obtain ⟨-, -, x, y, hx, hy, hspot⟩ := h
  cases a with
  | across => exact ⟨x, hx, by rw [Sight.low, hspot]; rfl⟩
  | down => exact ⟨y, hy, by rw [Sight.low, hspot]; rfl⟩

/-- The lengths that were rounded are those of `e.measure`. -/
theorem Centers.measures [Host α] {width height : Int} (h : e.Centers width height s)
    (hwidth : e.Measures .across width) (hheight : e.Measures .down height) (a : Axis) :
    e.Measures a (s.length a) := by
  cases a with
  | across =>
    rw [← h.width] at hwidth
    exact hwidth
  | down =>
    rw [← h.height] at hheight
    exact hheight

/-- For a button these are the scaled sides. -/
theorem measure_of_isButton [Host α] (hbutton : e.isButton = true) (a : Axis) :
    e.measure a = Scalar.abs (e.span a * e.scale a) := by
  unfold isButton at hbutton
  unfold measure
  split at hbutton
  · next hform => rw [hform]
  · cases hbutton

/-- The bounds of an entity have the sizes that the screen keeps. -/
theorem measures_of_bounds [Host α] (hbutton : e.isButton = true) {area : Area}
    (h : e.bounds = .ok area) : e.Measures .across area.width ∧ e.Measures .down area.height := by
  have hmeasure := measure_of_isButton hbutton
  unfold bounds at h
  obtain ⟨x, -, h⟩ := except_bind_eq_ok.1 h
  obtain ⟨y, -, h⟩ := except_bind_eq_ok.1 h
  obtain ⟨w, hw, h⟩ := except_bind_eq_ok.1 h
  obtain ⟨h', hh, h⟩ := except_bind_eq_ok.1 h
  unfold Area.onScreen at h
  obtain ⟨x', -, h⟩ := except_bind_eq_ok.1 h
  obtain ⟨y', -, h⟩ := except_bind_eq_ok.1 h
  obtain ⟨w', hw', h⟩ := except_bind_eq_ok.1 h
  obtain ⟨h'', hh', h⟩ := except_bind_eq_ok.1 h
  cases h
  refine ⟨⟨w, (hmeasure .across).symm ▸ hw, ?_⟩, ⟨h', (hmeasure .down).symm ▸ hh, ?_⟩⟩
  · rwa [if_pos hbutton]
  · rwa [if_pos hbutton]

/-- Where the sight of anything but a text begins on an axis, and how long it is.  One case for
each form; texts and dividers are excluded by `Centered`, since they are not placed by their
middle. -/
theorem centers_of_sight [Host α] (hc : e.Centered) (h : e.sight look = .ok (some s)) :
    ∃ width height, e.Centers width height s ∧ e.Measures .across width ∧
      e.Measures .down height := by
  -- What is no button has the sizes that it is measured by, with room for the width of a line.
  have hplain (hbutton : e.isButton = false) {a : Axis} {x : α} {m n : Int} (hx : e.measure a = x)
      (hm : Scalar.nearest x = .ok m) (hn : n = m + e.padding) : e.Measures a n :=
    ⟨m, hx.symm ▸ hm, by rwa [if_neg (by simp [hbutton])]⟩
  unfold sight at h
  split at h
  · cases h
  cases hform : e.form with
  | sprite image =>
    rw [hform] at h
    obtain ⟨w, h', hw, hh, hcenters⟩ := centers_of_spriteSight h
    refine ⟨w, h', hcenters, hplain ?_ ?_ hw ?_, hplain ?_ ?_ hh ?_⟩ <;>
      simp [isButton, measure, padding, hform, scaledWidth, scaledHeight, span, scale]
  | button text textColor font corner action clickable owner =>
    rw [hform] at h
    obtain ⟨area, harea, hcenters⟩ := centers_of_buttonSight h
    exact ⟨_, _, hcenters, measures_of_bounds (by simp [isButton, hform]) harea⟩
  | text content font align owner => exact (hc.1 _ _ _ _ hform).elim
  | shape kind radius filled stroke =>
    rw [hform] at h
    obtain ⟨c, -, h⟩ := except_bind_eq_ok.1 h
    cases kind with
    | circle =>
      obtain ⟨side, hside, hcenters⟩ := centers_of_circleSight h
      refine ⟨side, side, hcenters, hplain ?_ ?_ hside ?_, hplain ?_ ?_ hside ?_⟩ <;>
        simp [isButton, measure, padding, hform]
    | line =>
      obtain ⟨w, h', hw, hh, hcenters⟩ := centers_of_lineSight h
      refine ⟨_, _, hcenters, hplain ?_ ?_ hw ?_, hplain ?_ ?_ hh ?_⟩ <;>
        simp [isButton, measure, padding, hform, span, scale]
    | rect =>
      obtain ⟨w, h', hw, hh, hcenters⟩ := centers_of_rectangleSight h
      refine ⟨w, h', hcenters, hplain ?_ ?_ hw ?_, hplain ?_ ?_ hh ?_⟩ <;>
        simp [isButton, measure, padding, hform, span, scale]
  | divider => exact (hc.2 hform).elim

/-- The length is that of a label as it is, or as it is stretched. -/
def Stretches (label : Int) (scale : α) (n : Int) : Prop :=
  n = label ∧ Scalar.eq scale 1.0 = true ∨
    n ≠ 0 ∧ ∃ m, Scalar.nearest (Scalar.ofInt label * Scalar.abs scale) = .ok m ∧ n = max 0 m

/-- A label that is stretched is so on both axes. -/
theorem stretches_of_stretched {q : Panel α} {scaleX scaleY : α}
    (h : p.stretched scaleX scaleY = .ok (some q)) :
    Stretches p.width scaleX q.width ∧ Stretches p.height scaleY q.height := by
  unfold Panel.stretched at h
  split at h
  · next hone =>
    cases h
    rw [Bool.and_eq_true] at hone
    exact ⟨.inl ⟨rfl, hone.1⟩, .inl ⟨rfl, hone.2⟩⟩
  obtain ⟨w, hw, h⟩ := except_bind_eq_ok.1 h
  obtain ⟨h', hh, h⟩ := except_bind_eq_ok.1 h
  dsimp only at h
  split at h
  · cases h
  next hne =>
  cases h
  rw [Bool.or_eq_true, not_or, beq_iff_eq, beq_iff_eq] at hne
  exact ⟨.inr ⟨hne.1, w, hw, rfl⟩, .inr ⟨hne.2, h', hh, rfl⟩⟩

/-- Where the sight of a text begins on each axis, and how long it is.  The steps are those of
`TextEntity.render`: the font, the label, its stretching, its opacity and the two coordinates. -/
theorem lines_of_sight [Host α] {content font align : String} {owner : Lettering.Owner}
    (hform : e.form = .text content font align owner) (h : e.sight look = .ok (some s)) :
    (∀ a, Stretches (labelLength α content font a) (e.scale a) (s.length a)) ∧
      Scalar.whole (Device.leftEdge align e.x (s.length .across)) = .ok (s.low .across) ∧
      Scalar.whole e.y = .ok (s.low .down) := by
  unfold sight at h
  split at h
  · cases h
  rw [hform] at h
  obtain ⟨ink, -, h⟩ := except_bind_eq_ok.1 h
  unfold Line.sight at h
  split at h
  · cases h
  obtain ⟨t, ht, h⟩ := except_bind_eq_ok.1 h
  obtain ⟨_ | q, hq, h⟩ := except_bind_eq_ok.1 h
  · cases h
  obtain ⟨opacity, -, h⟩ := except_bind_eq_ok.1 h
  obtain ⟨x, hx, h⟩ := except_bind_eq_ok.1 h
  obtain ⟨y, hy, h⟩ := except_bind_eq_ok.1 h
  cases h
  obtain ⟨hwidth, hheight⟩ := stretches_of_stretched hq
  have hlabel : (Typeface.measured α content font).toOption =
      some (Host.textSize (α := α) t content) := by
    rw [Typeface.measured, show Typeface.spelled α font = _ from ht]
    rfl
  refine ⟨fun a => ?_, ?_, hy⟩
  · unfold labelLength
    rw [hlabel]
    cases a with
    | across =>
      simp only [Sight.length, Panel.width_faded]
      exact hwidth
    | down =>
      simp only [Sight.length, Panel.height_faded]
      exact hheight
  · simp only [Sight.length, Sight.low, Panel.width_faded]
    exact hx

end Entity

end Edges

/-! ## 4. Exact fractions

Each rounding moves an edge by at most half a pixel, and a sight is rounded twice or three times
on the way to the screen. -/

section Exact

variable (sine : Rat → Rat) (radian : Rat)

/-- A surface that is placed by its centre has its edges within three halves of a pixel of where
they would be without rounding. -/
theorem edges_of_centered {c : Int} {middle : Rat} (hc : |(c : Rat) - middle| ≤ 1 / 2) (n : Int)
    (extent : Rat) :
    ((n : Rat) ≤ extent + 1 / 2 → middle - extent / 2 - 3 / 2 ≤ ((c - n / 2 : Int) : Rat) ∧
      ((c - n / 2 + n : Int) : Rat) ≤ middle + extent / 2 + 3 / 2) ∧
    (extent - 1 / 2 ≤ (n : Rat) → ((c - n / 2 : Int) : Rat) ≤ middle - extent / 2 + 3 / 2 ∧
      middle + extent / 2 - 3 / 2 ≤ ((c - n / 2 + n : Int) : Rat)) := by
  obtain ⟨hlow, hhigh⟩ := half_near n
  rw [abs_le] at hc
  push_cast
  refine ⟨fun h => ⟨?_, ?_⟩, fun h => ⟨?_, ?_⟩⟩ <;> linarith [hc.1, hc.2]

/-- A label that begins a part `t` of its length before a point, without a fraction. -/
theorem edges_of_aligned {low n : Int} {x extent t : Rat} (h0 : 0 ≤ t) (h1 : t ≤ 1)
    (hlow : |(low : Rat) - (x - t * n)| ≤ 1) (hn : |(n : Rat) - extent| ≤ 1 / 2) :
    |(low : Rat) - (x + -(t * extent))| ≤ 3 / 2 ∧
      |((low + n : Int) : Rat) - (x + -(t * extent) + extent)| ≤ 3 / 2 := by
  have hpart {r : Rat} (hr0 : 0 ≤ r) (hr1 : r ≤ 1) : |r * ((n : Rat) - extent)| ≤ 1 / 2 := by
    rw [abs_mul, abs_of_nonneg hr0]
    exact (mul_le_of_le_one_left (abs_nonneg _) hr1).trans hn
  have hlow := abs_le.1 hlow
  have hbefore := abs_le.1 (hpart h0 h1)
  have hafter := abs_le.1 (hpart (sub_nonneg.2 h1) (sub_le_self 1 h0))
  rw [abs_le, abs_le]
  push_cast
  refine ⟨⟨?_, ?_⟩, ?_, ?_⟩ <;> linarith [hlow.1, hlow.2, hbefore.1, hbefore.2, hafter.1, hafter.2]

/-- What the screen keeps of a whole number that is not negative is no larger, and the number itself
below half of the range. -/
theorem Area.screenInt_le {m n : Int} (h : screenInt m = .ok n) (hm : 0 ≤ m) :
    n ≤ m ∧ (m < 2147483648 → n = m) := by
  unfold screenInt at h
  split at h
  · cases h
    have hpow : Nat.pow 2 32 = 4294967296 := rfl
    rw [hpow]
    unfold Int.bmod
    dsimp only
    split <;> omega
  · cases h

namespace Entity

/-- A rounded length is off by half a pixel.  Only a button is measured by an area whose sides
wrap at the width of a machine integer, so the bound from below asks that its extent be small. -/
theorem length_of_measures [Host Rat] {e : Entity Rat} {a : Axis} {n : Int} :
    letI := Scalar.exact sine radian
    e.Measures a n → (n : Rat) ≤ e.extent a + 1 / 2 ∧
      ((e.isButton = true → e.extent a < 2147483647) → e.extent a - 1 / 2 ≤ (n : Rat)) := by
  intro h
  let _ := Scalar.exact sine radian
  obtain ⟨m, hm, hn⟩ := h
  have hextent : e.extent a = e.measure a + (e.padding : Rat) := rfl
  have hm' := abs_le.1 (Scalar.nearest_exact sine radian hm)
  split at hn
  · next hbutton =>
    have hpadding : e.padding = 0 := by
      unfold isButton at hbutton
      unfold padding
      split at hbutton
      · next hform => rw [hform]
      · cases hbutton
    -- a side of an area is a distance, so the wrap can only be at the upper end
    have hnonneg : 0 ≤ m := by
      rw [measure_of_isButton hbutton, Scalar.abs_exact] at hm
      exact Scalar.nearest_exact_nonneg sine radian (abs_nonneg _) hm
    obtain ⟨hle, heq⟩ := Area.screenInt_le hn hnonneg
    have hle' : (n : Rat) ≤ m := by exact_mod_cast hle
    rw [hextent, hpadding, Int.cast_zero, add_zero]
    refine ⟨by linarith, fun hsmall => ?_⟩
    have hlt : (m : Rat) < 2147483648 := by
      linarith [hsmall hbutton]
    rw [heq (by exact_mod_cast hlt)]
    linarith
  · rw [hn, hextent]
    push_cast
    exact ⟨by linarith, fun _ => by linarith⟩

/-- The length of a stretched label loses less than one pixel. -/
theorem length_of_stretches {label n : Int} {scale : Rat} :
    letI := Scalar.exact sine radian
    Stretches label scale n → |(n : Rat) - label * (|scale|)| ≤ 1 / 2 := by
  intro h
  let _ := Scalar.exact sine radian
  rcases h with ⟨rfl, hscale⟩ | ⟨hne, m, hm, rfl⟩
  · have hone : scale = 1 := by
      have := of_decide_eq_true hscale
      norm_num at this
      exact this
    rw [hone]
    norm_num
  · have hm' := Scalar.nearest_exact sine radian hm
    rw [Scalar.abs_exact] at hm'
    have hmax : max 0 m = m := by omega
    rw [hmax]
    exact hm'

/-- The first and last pixels on an axis are within three halves of a pixel of where the attributes
say, but for a button that is too large for the screen, which may be smaller. -/
def Near (e : Entity Rat) (lead extent : Rat) (a : Axis) (low length : Int) : Prop :=
  (e.origin a + lead - 3 / 2 ≤ low ∧
    ((low + length : Int) : Rat) ≤ e.origin a + lead + extent + 3 / 2) ∧
  ((e.isButton = true → extent < 2147483647) → low ≤ e.origin a + lead + 3 / 2 ∧
    e.origin a + lead + extent - 3 / 2 ≤ ((low + length : Int) : Rat))

/-- What is placed by its middle begins and ends within a pixel and a half.  The middle is
rounded, the length is rounded, and its half is cut: each is off by half a pixel at most, and
`edges_of_centered` adds them up. -/
theorem near_of_centered [Host Rat] {e : Entity Rat} {look : Sheet → Picture Rat} {s : Sight Rat}
    (hc : e.Centered) (a : Axis) : letI := Scalar.exact sine radian
    e.sight look = .ok (some s) → e.Near (e.lead a) (e.extent a) a (s.low a) (s.length a) := by
  intro h
  let _ := Scalar.exact sine radian
  obtain ⟨width, height, hcenters, hwidth, hheight⟩ := centers_of_sight hc h
  obtain ⟨c, hmiddle, hlow⟩ := hcenters.low a
  obtain ⟨hshort, hlong⟩ := length_of_measures sine radian (hcenters.measures hwidth hheight a)
  have hlead : e.lead a = e.pivot a - e.extent a / 2.0 := by
    unfold lead
    split
    · next hform => exact (hc.1 _ _ _ _ hform).elim
    · next hform => exact (hc.1 _ _ _ _ hform).elim
    · rfl
  have hbegin : e.origin a + e.lead a = e.middle a - e.extent a / 2 := by
    rw [hlead, middle_eq, add_sub_assoc]
    norm_num
  have hend : e.middle a - e.extent a / 2 + e.extent a = e.middle a + e.extent a / 2 := by ring
  obtain ⟨hin, hout⟩ := edges_of_centered (Scalar.nearest_exact sine radian hmiddle) (s.length a)
    (e.extent a)
  unfold Near
  rw [hbegin, hend, hlow]
  exact ⟨hin hshort, fun hsmall => hout (hlong hsmall)⟩

/-- The part of a text that lies before the point at which it is aligned. -/
def share (align : String) : Axis → Rat
  | .across =>
    if align == "center" then 1 / 2
    else if align == "right" || align == "end" then 1
    else 0
  | .down => 0

/-- A line of text lies before its point, after it, or half on each side. -/
theorem share_mem (align : String) (a : Axis) : 0 ≤ share align a ∧ share align a ≤ 1 := by
  cases a with
  | down => norm_num [share]
  | across =>
    unfold share
    split_ifs <;> norm_num

/-- So does a line of text, whose start depends on its length.  The left edge is computed from the
rounded length, the extent from the exact one: the share of the difference that the alignment
passes on is what `edges_of_aligned` bounds. -/
theorem near_of_text [Host Rat] {e : Entity Rat} {look : Sheet → Picture Rat} {s : Sight Rat}
    {content font align : String} {owner : Lettering.Owner}
    (hform : e.form = .text content font align owner) (a : Axis) :
    letI := Scalar.exact sine radian
    e.sight look = .ok (some s) → e.Near (e.lead a) (e.extent a) a (s.low a) (s.length a) := by
  intro h
  let _ := Scalar.exact sine radian
  obtain ⟨hlength, hleft, htop⟩ := lines_of_sight hform h
  have hlength := length_of_stretches sine radian (hlength a)
  have hextent : e.extent a = labelLength Rat content font a * (|e.scale a|) := by
    rw [extent, measure, padding, hform]
    dsimp only
    rw [Scalar.abs_exact]
    exact add_zero _
  have hlead : e.lead a = -(share align a * e.extent a) := by
    cases a with
    | down => norm_num [lead, share, hform]
    | across =>
      simp only [lead, share, hform]
      split_ifs
      · norm_num
        ring
      · norm_num
      · norm_num
  -- the start, with the length as it was drawn
  have hlow : |(s.low a : Rat) - (e.origin a - share align a * s.length a)| ≤ 1 := by
    cases a with
    | down => simpa [share, origin] using Scalar.whole_exact sine radian htop
    | across =>
      have hedge (n : Int) :
          Device.leftEdge align e.x n = e.x - share align .across * (n : Rat) := by
        have hn : (Scalar.ofInt n : Rat) = n := rfl
        unfold Device.leftEdge share
        rw [hn]
        split_ifs
        · norm_num
          ring
        · norm_num
        · norm_num
      rw [hedge] at hleft
      exact Scalar.whole_exact sine radian hleft
  rw [← hextent] at hlength
  obtain ⟨h0, h1⟩ := share_mem align a
  obtain ⟨hbegin, hend⟩ := edges_of_aligned h0 h1 hlow hlength
  have hbegin := abs_le.1 hbegin
  have hend := abs_le.1 hend
  rw [hlead]
  refine ⟨⟨?_, ?_⟩, fun _ => ⟨?_, ?_⟩⟩ <;> linarith [hbegin.1, hbegin.2, hend.1, hend.2]

/-- **Where an entity is drawn**, by its attributes. -/
theorem near_of_sight [Host Rat] {e : Entity Rat} {look : Sheet → Picture Rat} {s : Sight Rat}
    (hform : e.form ≠ .divider) (a : Axis) : letI := Scalar.exact sine radian
    e.sight look = .ok (some s) → e.Near (e.lead a) (e.extent a) a (s.low a) (s.length a) := by
  intro h
  cases htext : e.form with
  | text content font align owner => exact near_of_text sine radian htext a h
  | _ => exact near_of_centered sine radian ⟨by simp [htext], hform⟩ a h

/-- **Where the sight of an entity that is about to slide in ends**, seen from the side that it
comes from: the margin hides it or does not. -/
theorem reaches_of_offstage [Host Rat] {e : Entity Rat} {look : Sheet → Picture Rat} {s : Sight Rat}
    (side : Side) (width height : Int) (hform : e.form ≠ .divider) :
    letI := Scalar.exact sine radian
    (e.movedTo side (e.offstage side ((width : Rat), (height : Rat)))).sight look = .ok (some s) →
      (e.overhang side + 3 / 2 ≤ Animation.margin → ¬ s.Reaches side width height) ∧
      ((e.isButton = true → e.extent side.axis < 2147483647) →
        Animation.margin + 3 / 2 < e.overhang side → s.Reaches side width height) := by
  intro h
  let _ := Scalar.exact sine radian
  obtain ⟨⟨hlow, hhigh⟩, hexact⟩ := near_of_sight sine radian
    (by cases side <;> exact hform) side.axis h
  -- Moving the entity changes where it is drawn by its coordinate alone.
  have hbutton (p : Rat) : (e.movedTo side p).isButton = e.isButton := by cases side <;> rfl
  have horigin (p : Rat) : (e.movedTo side p).origin side.axis = p := by cases side <;> rfl
  have hlead (p : Rat) : (e.movedTo side p).lead side.axis = e.lead side.axis := by
    cases side <;> rfl
  have hextent (p : Rat) : (e.movedTo side p).extent side.axis = e.extent side.axis := by
    cases side <;> rfl
  rw [horigin, hlead] at hlow
  rw [horigin, hlead, hextent] at hhigh
  rw [hbutton, horigin, hlead, hextent] at hexact
  cases side with
  | top | left =>
    simp only [offstage, overhang, span, Side.axis, Sight.Reaches] at *
    refine ⟨fun hover => ?_, fun hsmall hover => ?_⟩
    · rw [← Int.cast_lt (R := Rat), not_lt, Int.cast_zero]
      linarith
    · have hend := (hexact hsmall).2
      rw [← Int.cast_lt (R := Rat), Int.cast_zero]
      linarith
  | bottom | right =>
    simp only [offstage, overhang, Side.axis, Sight.Reaches] at *
    refine ⟨fun hover => ?_, fun hsmall hover => ?_⟩
    · rw [← Int.cast_lt (R := Rat), not_lt]
      linarith
    · have hbegin := (hexact hsmall).1
      rw [← Int.cast_lt (R := Rat)]
      linarith

/-- How far what fills its box goes beyond it: half of what it is enlarged by. -/
theorem overhang_of_boxed [Host Rat] {e : Entity Rat} (side : Side) (h : e.isBoxed = true) :
    letI := Scalar.exact sine radian
    e.overhang side =
      (|e.span side.axis| * |e.scale side.axis| - e.span side.axis) / 2 := by
  let _ := Scalar.exact sine radian
  have hbox (a : Axis) : e.padding = 0 ∧ e.measure a = |e.span a| * |e.scale a| ∧
      e.lead a = e.span a / 2 - e.extent a / 2 := by
    unfold isBoxed at h
    split at h
    · next hform => norm_num [padding, measure, lead, pivot, hform, Scalar.abs_exact, abs_mul]
    · next hform => norm_num [padding, measure, lead, pivot, hform, Scalar.abs_exact, abs_mul]
    · next hform => norm_num [padding, measure, lead, pivot, hform, Scalar.abs_exact]
    · cases h
  have hextent (a : Axis) : e.extent a = |e.span a| * |e.scale a| := by
    rw [extent, (hbox a).1, (hbox a).2.1]
    exact add_zero _
  have hlead (a : Axis) := (hbox a).2.2
  cases side <;> simp only [overhang, hlead, hextent] <;> ring

/-- What fills its box and is not enlarged starts off the canvas. -/
theorem not_reaches_of_boxed [Host Rat] {e : Entity Rat} {look : Sheet → Picture Rat}
    {s : Sight Rat}
    (side : Side) (width height : Int) (hbox : e.isBoxed = true) (hspan : 0 ≤ e.span side.axis)
    (hscale : |e.scale side.axis| ≤ 1) : letI := Scalar.exact sine radian
    (e.movedTo side (e.offstage side ((width : Rat), (height : Rat)))).sight look = .ok (some s) →
      ¬ s.Reaches side width height := by
  intro h
  let _ := Scalar.exact sine radian
  have hform : e.form ≠ .divider := fun hform => by simp [isBoxed, hform] at hbox
  refine (reaches_of_offstage sine radian side width height hform h).1 ?_
  have hsmall : e.span side.axis * |e.scale side.axis| ≤ e.span side.axis :=
    mul_le_of_le_one_right hspan hscale
  rw [overhang_of_boxed sine radian side hbox, abs_of_nonneg hspan, Animation.margin]
  norm_num
  linarith

end Entity

end Exact

/-! ## 5. The start of sliding in

Where a slide starts is told from the size of the entity and the canvas; whether that is out of
sight depends on how far the drawing reaches beyond the entity. -/

namespace Motions

/-- **Where sliding in starts depends on the box alone, and hides what goes beyond it up to the
margin.**  An entity that is not turned and gets an animation that lets it slide in from a side is
moved, and rendering it then places its sight on the canvas and nothing else.

* If it fills its box and is not enlarged on the axis it comes in on, nothing of it is on the
  canvas.
* Nor is anything of whatever goes beyond its box by less than the margin.
* What goes farther beyond its box reaches over the edge of the canvas: a large disc, an entity that
  is stretched or of a negative size, a broad line, a label longer than its box.  A button whose size
  is not kept as it is by the screen is left out.

Coordinates are rounded to pixels, by three halves of one at most.  The sight of an entity that is
turned is that of its picture before it is turned, so nothing is said here of what is. -/
theorem start_off_canvas [Host Rat] (sine : Rat → Rat) (radian : Rat) :
    letI := Scalar.exact sine radian
    ∀ (a : Motions Rat) {spec : AnimationSpec Rat} {i : Nat} {things : Array (Entity Rat)}
      {e : Entity Rat} (width height : Int),
      things[i]? = some e → spec.kind = .slideIn → e.form ≠ .divider → e.rotation = 0 →
      let e' : Entity Rat := e.movedTo spec.side (e.offstage spec.side (width, height))
      (a.attach i spec (width, height) things).2[i]? = some e' ∧
        (∀ (d : Device Rat) (canvas : Surface), d.Provides e' →
          (e'.render canvas).Displays (fun _ => False) d canvas (e'.sight d.view)) ∧
        ∀ look s, e'.sight look = .ok (some s) →
          (e.isBoxed = true → 0 ≤ e.span spec.side.axis → |e.scale spec.side.axis| ≤ 1 →
            s.Hidden width height) ∧
          (e.overhang spec.side + 3 / 2 ≤ Animation.margin → s.Hidden width height) ∧
          ((e.isButton = true → e.extent spec.side.axis < 2147483647) →
            Animation.margin + 3 / 2 < e.overhang spec.side →
            s.Reaches spec.side width height) := by
  intro a spec i things e width height he hkind hform _
  let _ := Scalar.exact sine radian
  refine ⟨attach_slide a he hkind _, fun d canvas hd => Entity.displays_render _ hd,
    fun look s hs => ?_⟩
  obtain ⟨hhidden, hreaches⟩ :=
    Entity.reaches_of_offstage sine radian spec.side width height hform hs
  refine ⟨fun hbox hspan hscale => ?_, fun h => ?_, hreaches⟩
  · exact Sight.hidden_of_not_reaches
      (Entity.not_reaches_of_boxed sine radian spec.side width height hbox hspan hscale hs)
  · exact Sight.hidden_of_not_reaches (hhidden h)

/-! A tile and a disc come from the top.  Their boxes are the same, but the disc is larger. -/

def tile : Entity Rat where
  x := 340
  y := 760
  width := 100
  height := 100
  rotation := 0
  alpha := 1
  scaleX := 1
  scaleY := 1
  form := .shape .rect 200 true 1

def disc : Entity Rat := { tile with form := .shape .circle 200 true 1 }

theorem form_tile : tile.form ≠ .divider := nofun

theorem form_disc : disc.form ≠ .divider := nofun

theorem overhang_disc : letI := Scalar.exact (fun x => x) 57
    letI : Host Rat := .recording
    disc.overhang .top = 300 := by
  decide +kernel

theorem sight_tile (look : Sheet → Picture Rat) : letI := Scalar.exact (fun x => x) 57
    letI : Host Rat := .recording
    ∃ picture, (tile.movedTo .top (-200)).sight look =
      .ok (some ⟨⟨picture, 100, 100⟩, .centered 390 (-150)⟩) :=
  ⟨_, by with_unfolding_all rfl⟩

theorem sight_disc (look : Sheet → Picture Rat) : letI := Scalar.exact (fun x => x) 57
    letI : Host Rat := .recording
    ∃ picture, (disc.movedTo .top (-200)).sight look =
      .ok (some ⟨⟨picture, 400, 400⟩, .centered 540 0⟩) :=
  ⟨_, by with_unfolding_all rfl⟩

/-- Nothing is seen of the tile, but the lower half of the disc.  Both start at the same height,
computed from the height that was given; the disc is larger than that. -/
theorem start_off_canvas_disc : letI := Scalar.exact (fun x => x) 57
    letI : Host Rat := .recording
    let look : Sheet → Picture Rat := .given
    (((⟨[]⟩ : Motions Rat).attach 0 lowering (1080, 1920) #[tile, disc]).2[0]? =
        some (tile.movedTo .top (-200)) ∧
      ∃ s, (tile.movedTo .top (-200)).sight look = .ok (some s) ∧ s.Hidden 1080 1920) ∧
    ((⟨[]⟩ : Motions Rat).attach 1 lowering (1080, 1920) #[tile, disc]).2[1]? =
        some (disc.movedTo .top (-200)) ∧
      ∃ s, (disc.movedTo .top (-200)).sight look = .ok (some s) ∧
        s.Reaches .top 1080 1920 ∧ s.Covers 540 0 := by
  let _ := Scalar.exact (fun x => x) 57
  let _ : Host Rat := .recording
  intro look
  have hstart {e : Entity Rat} (hheight : e.height = 100) :
      e.offstage .top (((1080 : Int) : Rat), ((1920 : Int) : Rat)) = -200 := by
    norm_num [Entity.offstage, hheight, Animation.margin]
  obtain ⟨htile, -, hhidden⟩ := start_off_canvas (fun x => x) 57 ⟨[]⟩ 1080 1920
    (show #[tile, disc][0]? = some tile from rfl) (show lowering.kind = .slideIn from rfl)
    form_tile rfl
  obtain ⟨hdisc, -, hreaches⟩ := start_off_canvas (fun x => x) 57 ⟨[]⟩ 1080 1920
    (show #[tile, disc][1]? = some disc from rfl) (show lowering.kind = .slideIn from rfl)
    form_disc rfl
  rw [show lowering.side = .top from rfl, hstart rfl] at htile hhidden hdisc hreaches
  obtain ⟨p, hp⟩ := sight_tile look
  obtain ⟨q, hq⟩ := sight_disc look
  refine ⟨⟨htile, _, hp, ?_⟩, hdisc, _, hq, ?_, ?_⟩
  · refine (hhidden look _ hp).1 rfl ?_ ?_
    · norm_num [Entity.span, tile, Side.axis]
    · norm_num [Entity.scale, tile, Side.axis]
  · refine (hreaches look _ hq).2.2 (by simp [Entity.isButton, disc]) ?_
    rw [overhang_disc]
    norm_num [Animation.margin]
  · norm_num [Sight.Covers, Sight.low, Sight.length]

end Motions

end Diorama
