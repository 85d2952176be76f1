/-
# A button is drawn where it is hit

A click is tried on the bounds of a button: a corner and a size, each rounded by itself.  The button
is drawn by its centre, which is rounded too, and from which half of the width is taken without a
fraction.  Still the two are the same rectangle but for a pixel (`abs_low_sub_le`), since the errors
of three roundings and of one halving add up to less than two pixels, and both are whole numbers.

The rectangle that is meant is `Entity.scaled` long on each axis, about the middle of the entity.
`Entity.Rounds` says what becomes of it in whole numbers, and `Area.Kept` that these are numbers of
the screen, so that none of them is cut off.
-/
import Diorama.Proofs.Offstage

namespace Diorama

open Act

/-! ## 1. Rectangles of the screen

A press is compared with a rectangle of whole numbers, which has to fit the screen's own integers. -/

/-- The one of two numbers that belongs to an axis. -/
def Axis.pick {β : Type} (across down : β) : Axis → β
  | .across => across
  | .down => down

namespace Area

/-- The first column or row. -/
def low (r : Area) : Axis → Int
  | .across => r.x
  | .down => r.y

/-- How many columns or rows there are. -/
def length (r : Area) : Axis → Int
  | .across => r.width
  | .down => r.height

/-- On both axes the area begins and ends within the numbers of the screen, and its length is one of
them. -/
def Kept (r : Area) : Prop :=
  ∀ a, -2147483648 ≤ r.low a ∧ 0 ≤ r.length a ∧ r.length a < 2147483648 ∧
    r.low a + r.length a < 2147483648

variable {r : Area}

/-- A number of the screen is not cut off. -/
theorem bmod_eq {n : Int} (h0 : -2147483648 ≤ n) (h1 : n < 2147483648) :
    n.bmod (Nat.pow 2 32) = n := by
  have hpow : Nat.pow 2 32 = 4294967296 := rfl
  rw [hpow]
  unfold Int.bmod
  dsimp only
  split <;> omega

/-- A whole number of the screen is kept as it is. -/
theorem screenInt_eq {n : Int} (h0 : -2147483648 ≤ n) (h1 : n < 2147483648) :
    screenInt n = .ok n := by
  unfold screenInt
  rw [bmod_eq h0 h1, if_pos]
  simp only [Bool.and_eq_true, decide_eq_true_eq]
  omega

/-- A rectangle of such numbers is on the screen, too. -/
theorem onScreen_of_kept (h : r.Kept) : onScreen r.x r.y r.width r.height = .ok r := by
  obtain ⟨hx, hw0, hw, hright⟩ := h .across
  obtain ⟨hy, hh0, hh, hbottom⟩ := h .down
  simp only [low, length] at hx hw0 hw hright hy hh0 hh hbottom
  unfold onScreen
  rw [screenInt_eq hx (by omega), screenInt_eq hy (by omega), screenInt_eq (by omega) hw,
    screenInt_eq (by omega) hh]
  rfl

/-- With exact numbers, the points that lie in an area of the screen.  The far edges are sums that
do not wrap, by `Kept`, so they can be compared as numbers. -/
theorem contains_iff (sine : Rat → Rat) (radian : Rat) (h : r.Kept) (px py : Rat) :
    letI := Scalar.exact sine radian
    r.contains px py = true ↔
      ∀ a, (r.low a : Rat) ≤ a.pick px py ∧ a.pick px py ≤ r.low a + r.length a := by
  obtain ⟨hx, hw0, -, hright⟩ := h .across
  obtain ⟨hy, hh0, -, hbottom⟩ := h .down
  simp only [low, length] at hx hw0 hright hy hh0 hbottom
  have hends : r.right = r.x + r.width ∧ r.bottom = r.y + r.height :=
    ⟨bmod_eq (by omega) hright, bmod_eq (by omega) hbottom⟩
  have hbox : (r.x : Rat) ≤ px ∧ px ≤ (r.right : Int) ∧ (r.y : Rat) ≤ py ∧ py ≤ (r.bottom : Int) ↔
      ∀ a, (r.low a : Rat) ≤ Axis.pick px py a ∧ Axis.pick px py a ≤ r.low a + r.length a := by
    rw [hends.1, hends.2]
    push_cast
    constructor
    · rintro ⟨hx, hright, hy, hbottom⟩ (_ | _)
      · exact ⟨hx, hright⟩
      · exact ⟨hy, hbottom⟩
    · intro h
      exact ⟨(h .across).1, (h .across).2, (h .down).1, (h .down).2⟩
  rw [← hbox]
  simp only [contains, Scalar.le_exact, Bool.and_eq_true, decide_eq_true_eq, and_assoc]
  rfl

end Area

namespace Entity

variable {α : Type} [Scalar α]

/-- The scaled length of the entity on an axis, without its sign. -/
def scaled (e : Entity α) : Axis → α
  | .across => e.scaledWidth
  | .down => e.scaledHeight

/-- The area is the rectangle of the scaled entity about its middle, with its corner and its size
rounded to whole numbers. -/
structure Rounds (e : Entity α) (r : Area) : Prop where
  low : ∀ a, Scalar.nearest (e.middle a - e.scaled a / 2.0) = .ok (r.low a)
  length : ∀ a, Scalar.nearest (e.scaled a) = .ok (r.length a)

/-- The bounds of an entity are its four rounded numbers, if the screen can keep them. -/
theorem bounds_of_rounds {e : Entity α} {r : Area} (h : e.Rounds r) (hkept : r.Kept) :
    e.bounds = .ok r := by
  have hx : Scalar.nearest (e.center.1 - e.scaledWidth / 2.0) = .ok r.x := h.low .across
  have hy : Scalar.nearest (e.center.2 - e.scaledHeight / 2.0) = .ok r.y := h.low .down
  have hw : Scalar.nearest e.scaledWidth = .ok r.width := h.length .across
  have hh : Scalar.nearest e.scaledHeight = .ok r.height := h.length .down
  simp only [bounds, hx, hy, hw, hh]
  exact Area.onScreen_of_kept hkept

/-- The scaled sides without their signs, with exact numbers. -/
theorem scaled_exact (sine : Rat → Rat) (radian : Rat) (e : Entity Rat) (a : Axis) :
    letI := Scalar.exact sine radian
    e.scaled a = |e.span a * e.scale a| := by
  let _ := Scalar.exact sine radian
  cases a <;> exact Scalar.abs_exact sine radian _

end Entity

/-! ## 2. Roundings

The bounds of a button are rounded by corner and size, its picture by centre and size.  Where the
two begin is at most one pixel apart. -/

/-- **One rounding of a corner, and roundings of the middle and of the length, of which half is
taken without a fraction, lead to places that are at most one apart.** -/
theorem abs_low_sub_le {c low n : Int} {middle extent : Rat} (hc : |(c : Rat) - middle| ≤ 1 / 2)
    (hlow : |(low : Rat) - (middle - extent / 2)| ≤ 1 / 2) (hn : |(n : Rat) - extent| ≤ 1 / 2) :
    |c - n / 2 - low| ≤ 1 := by
  obtain ⟨hhalf, hhalf'⟩ := half_near n
  rw [abs_le] at hc hlow hn
  -- The errors are a half, a half, a quarter and a half.
  have hover : ((c - n / 2 - low : Int) : Rat) < 2 := by
    push_cast
    linarith [hc.2, hlow.1, hn.1]
  have hunder : (-2 : Rat) < ((c - n / 2 - low : Int) : Rat) := by
    push_cast
    linarith [hc.1, hlow.2, hn.2]
  have hover : c - n / 2 - low < 2 := by exact_mod_cast hover
  have hunder : -2 < c - n / 2 - low := by exact_mod_cast hunder
  exact abs_le.2 ⟨by omega, by omega⟩

/-- What lies between a rounded end and the other, as far as it is told by numbers that are not
rounded. -/
theorem between_of_rounded {low n : Int} {middle extent q : Rat}
    (hlow : |(low : Rat) - (middle - extent / 2)| ≤ 1 / 2) (hn : |(n : Rat) - extent| ≤ 1 / 2) :
    ((low : Rat) ≤ q ∧ q ≤ low + n →
      middle - extent / 2 - 1 / 2 ≤ q ∧ q ≤ middle + extent / 2 + 1) ∧
    (middle - extent / 2 + 1 / 2 ≤ q ∧ q ≤ middle + extent / 2 - 1 →
      (low : Rat) ≤ q ∧ q ≤ low + n) := by
  rw [abs_le] at hlow hn
  refine ⟨fun h => ⟨?_, ?_⟩, fun h => ⟨?_, ?_⟩⟩ <;> linarith [hlow.1, hlow.2, hn.1, hn.2, h.1, h.2]

/-! ## 3. Buttons

What is hit and what is seen of a button are rectangles of one size, and at most a pixel apart. -/

namespace Entity

section Exact

variable (sine : Rat → Rat) (radian : Rat) {e : Entity Rat} {r : Area}

/-- The corner and the size of the bounds, as far as they are rounded. -/
theorem Rounds.near : letI := Scalar.exact sine radian
    e.Rounds r → ∀ a, |(r.low a : Rat) - (e.middle a - (|e.span a * e.scale a|) / 2)| ≤ 1 / 2 ∧
      |(r.length a : Rat) - (|e.span a * e.scale a|)| ≤ 1 / 2 := by
  intro h a
  let _ := Scalar.exact sine radian
  have hlow := Scalar.nearest_exact sine radian (h.low a)
  have hlength := Scalar.nearest_exact sine radian (h.length a)
  rw [scaled_exact sine radian] at hlow hlength
  exact ⟨by norm_num at hlow ⊢; exact hlow, hlength⟩

/-- The image of a button is as large as its bounds and at most one pixel away from them.  Without
a rotation the picture keeps the size of the panel; the corner is rounded once where it is drawn
and once where it is hit. -/
theorem near_bounds [Host Rat] {look : Sheet → Picture Rat} {s : Sight Rat}
    (hbutton : e.isButton = true)
    (hrotation : e.rotation = 0) (hkept : r.Kept) : letI := Scalar.exact sine radian
    e.Rounds r → e.sight look = .ok (some s) → s.picture.frame = some (r.width, r.height) ∧
      ∀ a, s.length a = r.length a ∧ |s.low a - r.low a| ≤ 1 := by
  intro hr h
  let _ := Scalar.exact sine radian
  unfold sight at h
  split at h
  · cases h
  unfold isButton at hbutton
  split at hbutton
  case h_2 => cases hbutton
  next text textColor font corner action clickable owner hform =>
  rw [hform] at h
  obtain ⟨area, p, harea, hframed, hwidth, hheight, hpresented⟩ := presented_of_buttonSight h
  cases harea.symm.trans (bounds_of_rounds hr hkept)
  have hzero : Scalar.isZero e.rotation = true := by
    rw [hrotation]
    exact decide_eq_true (by norm_num)
  have hcenters := centers_of_presented hpresented
  rw [hwidth, hheight] at hcenters
  have hlength (a : Axis) : s.length a = r.length a := by
    cases a
    · exact hcenters.width
    · exact hcenters.height
  refine ⟨?_, fun a => ⟨hlength a, ?_⟩⟩
  · rw [show s.picture.frame = _ from framed_of_presented hzero hframed hpresented, hcenters.width,
      hcenters.height]
  · obtain ⟨c, hc, hlow⟩ := hcenters.low a
    obtain ⟨hcorner, hsize⟩ := hr.near sine radian a
    rw [hlow, hlength]
    exact abs_low_sub_le (Scalar.nearest_exact sine radian hc) hcorner hsize

/-- Which points hit the bounds, as far as it is told by numbers that are not rounded. -/
theorem hit_of_rounds (hkept : r.Kept) (px py : Rat) : letI := Scalar.exact sine radian
    e.Rounds r → ∃ hit, e.containsPoint px py = .ok hit ∧
      (hit = true → ∀ a, e.middle a - |e.span a * e.scale a| / 2 - 1 / 2 ≤ a.pick px py ∧
        a.pick px py ≤ e.middle a + |e.span a * e.scale a| / 2 + 1) ∧
      ((∀ a, e.middle a - |e.span a * e.scale a| / 2 + 1 / 2 ≤ a.pick px py ∧
        a.pick px py ≤ e.middle a + |e.span a * e.scale a| / 2 - 1) → hit = true) := by
  intro hr
  let _ := Scalar.exact sine radian
  refine ⟨r.contains px py, by rw [containsPoint, bounds_of_rounds hr hkept]; rfl, ?_, ?_⟩
  · intro hit a
    obtain ⟨hcorner, hsize⟩ := hr.near sine radian a
    exact (between_of_rounded hcorner hsize).1 ((Area.contains_iff sine radian hkept px py).1 hit a)
  · intro h
    rw [Area.contains_iff sine radian hkept]
    intro a
    obtain ⟨hcorner, hsize⟩ := hr.near sine radian a
    exact (between_of_rounded hcorner hsize).2 (h a)

end Exact

/-- **A button is drawn where it is hit, but for a pixel.**  Let the rectangle of a button that is
not turned have a corner and a size that are numbers of the screen when they are rounded; position,
size and scales may be any fractions, also negative ones.  Then its bounds are these numbers, and
rendering places its sight and nothing else.

* The surface that is placed is exactly as large as the bounds, and on each axis it begins at most
  one pixel before or after them.
* Every point is either a hit or not.  A hit lies in the rectangle that is not rounded, with half a
  pixel more at its beginning and one more at its end; and a point that lies in it with half a pixel
  less and one less is a hit. -/
theorem hit_where_drawn [Host Rat] (sine : Rat → Rat) (radian : Rat) :
    letI := Scalar.exact sine radian
    ∀ {e : Entity Rat} {r : Area}, e.isButton = true → e.rotation = 0 → e.Rounds r → r.Kept →
      e.bounds = .ok r ∧
      (∀ (d : Device Rat) (canvas : Surface),
        (e.render canvas).Displays (fun _ => False) d canvas (e.sight d.view)) ∧
      (∀ look s, e.sight look = .ok (some s) → s.picture.frame = some (r.width, r.height) ∧
        ∀ a, s.length a = r.length a ∧ |s.low a - r.low a| ≤ 1) ∧
      ∀ px py, ∃ hit, e.containsPoint px py = .ok hit ∧
        (hit = true → ∀ a, e.middle a - |e.span a * e.scale a| / 2 - 1 / 2 ≤ a.pick px py ∧
          a.pick px py ≤ e.middle a + |e.span a * e.scale a| / 2 + 1) ∧
        ((∀ a, e.middle a - |e.span a * e.scale a| / 2 + 1 / 2 ≤ a.pick px py ∧
          a.pick px py ≤ e.middle a + |e.span a * e.scale a| / 2 - 1) → hit = true) := by
  intro e r hbutton hrotation hr hkept
  let _ := Scalar.exact sine radian
  refine ⟨bounds_of_rounds hr hkept, fun d canvas => displays_render _ ⟨?_, ?_⟩,
    fun look s => near_bounds sine radian hbutton hrotation hkept hr,
    fun px py => hit_of_rounds sine radian hkept px py hr⟩
  · intro hform
    simp [isButton, hform] at hbutton
  · intro t hform
    simp [isButton, hform] at hbutton

/-! A plate that is mirrored and of a negative height.  Its width is odd when it is rounded. -/

def plate : Entity Rat where
  x := 201 / 2
  y := 40
  width := 25
  height := -11
  rotation := 0
  alpha := 1
  scaleX := -1
  scaleY := 1 / 2
  form := .button "" .null "" 0 none false .engine

def plateBounds : Area := ⟨100, 32, 25, 6⟩

/-- The plate is drawn a pixel beside its bounds, and the pixel of its middle is a hit.  It begins
at half a pixel, which the rectangle rounds to the even number, and its middle is another number,
which the picture rounds for itself. -/
theorem hit_where_drawn_plate : letI := Scalar.exact (fun x => x) 57
    letI : Host Rat := .recording
    plate.bounds = .ok plateBounds ∧ plate.containsPoint 113 35 = .ok true ∧
      ∃ s, plate.sight .given = .ok (some s) ∧ s.picture.frame = some (25, 6) ∧
        s.low .across = 101 ∧ |s.low .across - plateBounds.low .across| ≤ 1 := by
  let _ := Scalar.exact (fun x => x) 57
  let _ : Host Rat := .recording
  have hrounds : plate.Rounds plateBounds :=
    ⟨fun a => by cases a <;> decide +kernel, fun a => by cases a <;> decide +kernel⟩
  have hkept : plateBounds.Kept := fun a => by cases a <;> decide
  obtain ⟨hbounds, -, hdrawn, hhit⟩ := hit_where_drawn (fun x => x) 57
    (show plate.isButton = true from rfl) (show plate.rotation = 0 from rfl) hrounds hkept
  obtain ⟨hit, hcontains, -, hinside⟩ := hhit 113 35
  have hmiddle : hit = true := hinside fun a => by
    cases a <;> norm_num [plate, middle, center, span, scale, Axis.pick, abs_of_nonneg, abs_of_neg]
  obtain ⟨s, hs, hlow⟩ : ∃ s, plate.sight .given = .ok (some s) ∧ s.low .across = 101 := by
    have hseen : ((plate.sight .given).toOption.bind id).map (·.low .across) = some 101 := by
      decide +kernel
    rcases hs : plate.sight .given with _ | _ | s <;> rw [hs] at hseen
    · cases hseen
    · cases hseen
    · exact ⟨s, rfl, Option.some.inj hseen⟩
  obtain ⟨hframe, hnear⟩ := hdrawn _ _ hs
  exact ⟨hbounds, hmiddle ▸ hcontains, _, hs, hframe, hlow, (hnear .across).2⟩

end Entity

end Diorama
