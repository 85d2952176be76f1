/-
# What is to be seen of an entity

An entity is drawn by a sequence of requests that depends on what was drawn before it: labels may be
kept, colours and typefaces remembered.  What is to be seen of it does not.  `Entity.sight` is the
picture that is placed on the canvas, with its size and place, worked out from the entity alone and
from what its image shows; and rendering the entity places this and nothing else, from any device
that is ready (`Entity.displays_render`).

A divider has no picture of its own, it is drawn onto the canvas.
-/
import Diorama.Proofs.Painting

namespace Diorama

open Act

variable {α : Type} [Scalar α] [Host α]

namespace Entity

/-! ## 1. The sight of an entity

The pictures of the five forms, as functions of the entity.  They follow the drawing step by step,
in the same order and with the same roundings, but they work on panels, a picture with its sides,
where the drawing works on sheets of the device.  A computation that ends with a fault is a
drawing that does; `none` is a drawing that places nothing. -/

/-- A panel turned, faded and placed by the centre of the entity. -/
def presented (e : Entity α) (p : Panel α) : Except Fault (Option (Sight α)) := do
  let turned := if Scalar.isZero e.rotation then p
    else { p with picture := .turned p.picture (-(Scalar.degrees e.rotation)) }
  let opacity ← Device.opacityPart e.alpha 255.0
  let x ← Scalar.nearest e.center.1
  let y ← Scalar.nearest e.center.2
  return some { turned.faded opacity with spot := .centered x y }

def spriteSight (e : Entity α) (image : Option (Panel α × Nat)) :
    Except Fault (Option (Sight α)) := do
  let w ← Scalar.nearest e.scaledWidth
  let h ← Scalar.nearest e.scaledHeight
  if w ≤ 0 || h ≤ 0 then return none
  match image with
  | some (p, depth) => e.presented (p.fitted depth w h)
  | none =>
    if e.color.isNull then return none
    let p ← Panel.blank w h
    let c ← Color.seen e.color
    e.presented { p with picture := .filled p.picture (.color c) none }

def buttonSight (e : Entity α) (text : String) (textColor : Value α) (font : String)
    (corner : Int) : Except Fault (Option (Sight α)) := do
  let area ← e.bounds
  if area.width ≤ 0 || area.height ≤ 0 then return none
  let p ← Panel.blank area.width area.height
  let radius ← Scalar.whole
    (Scalar.ofInt corner * Scalar.min (Scalar.abs e.scaleX) (Scalar.abs e.scaleY))
  let c ← Color.seen e.color
  let p := { p with
    picture := .rectangle p.picture (.color c) ⟨0, 0, p.width, p.height⟩ 0 radius }
  if text != "" then
    let size ← Typeface.measured α text font
    let ink ← Color.seen textColor
    let label ← (e.labelLine text font area size.2 ink).sight
    e.presented (p.under label)
  else e.presented p

def circleSight (e : Entity α) (c : Color) (radius : α) (width : Int) :
    Except Fault (Option (Sight α)) := do
  let r := radius * Scalar.min (Scalar.abs e.scaleX) (Scalar.abs e.scaleY)
  let side ← Scalar.nearest (2.0 * r)
  if side ≤ 0 then return none
  let p ← Panel.blank side side
  let middle : α := Scalar.ofInt side / 2.0
  e.presented { p with picture := .circle p.picture (.color c) (middle, middle) r width }

def lineSight (e : Entity α) (c : Color) (stroke : Int) : Except Fault (Option (Sight α)) := do
  let dx := e.width * Scalar.abs e.scaleX
  let dy := e.height * Scalar.abs e.scaleY
  let w := (← Scalar.nearest (Scalar.abs dx)) + stroke * 2
  let h := (← Scalar.nearest (Scalar.abs dy)) + stroke * 2
  let p ← Panel.blank w h
  let x := lineStart dx w stroke
  let y := lineStart dy h stroke
  e.presented { p with
    picture := .line p.picture (.color c) (x, y)
      (.exact (Scalar.ofInt x + dx) (Scalar.ofInt y + dy)) stroke }

def rectangleSight (e : Entity α) (c : Color) (width : Int) :
    Except Fault (Option (Sight α)) := do
  let w ← Scalar.nearest (Scalar.abs e.width * Scalar.abs e.scaleX)
  let h ← Scalar.nearest (Scalar.abs e.height * Scalar.abs e.scaleY)
  if w ≤ 0 || h ≤ 0 then return none
  let p ← Panel.blank w h
  e.presented { p with
    picture := .rectangle p.picture (.color c) ⟨0, 0, p.width, p.height⟩ width (-1) }

def shapeSight (e : Entity α) (kind : ShapeKind) (radius : α) (filled : Bool) (stroke : Int) :
    Except Fault (Option (Sight α)) := do
  let c ← Color.seen e.color
  let stroke := outline stroke
  let width := if filled then 0 else stroke
  match kind with
  | .circle => e.circleSight c radius width
  | .line => e.lineSight c stroke
  | .rect => e.rectangleSight c width

/-- What is to be seen of an entity, if `look` is what the sheets show. -/
def sight (look : Sheet → Picture α) (e : Entity α) : Except Fault (Option (Sight α)) :=
  if !e.visible || Scalar.le e.alpha 0.0 then pure none
  else
    match e.form with
    | .sprite image =>
      e.spriteSight (image.map fun s => (⟨look s.sheet, s.width, s.height⟩, s.depth))
    | .button text textColor font corner _ _ _ => e.buttonSight text textColor font corner
    | .text content font align _ => do
      let ink ← Color.seen e.color
      (e.textLine content font align ink).sight
    | .shape kind radius filled stroke => e.shapeSight kind radius filled stroke
    | .divider => pure none

/-! ## 2. Rendering places the sight

One lemma for each part of the drawing: it displays the sight of the same name.  Each follows the
drawing request by request, and at each request what the new sheet shows is the new panel
(`Device.Shows`).  Colours are looked up twice, once by the drawing and once for the sight, with
the same outcome. -/

variable {own : Sheet → Prop} {d : Device α} {canvas picture : Surface} {p : Panel α}

/-- What is presented is turned if it has an angle, then faded, then placed by its middle: the
same three steps lead from the panel to the sight. -/
theorem displays_present (e : Entity α) (h : d.Shows picture p) :
    (e.present canvas picture).Displays own d canvas (e.presented p) := by
  have hrest {own : Sheet → Prop} {d : Device α} {turned : Surface} {p : Panel α}
      (h : d.Shows turned p) : (do
      let opacity ← Act.ofExcept (Device.opacityPart e.alpha 255.0)
      let shown ← Device.faded turned opacity
      let x ← Act.ofExcept (Scalar.nearest e.center.1)
      let y ← Act.ofExcept (Scalar.nearest e.center.2)
      Device.place shown canvas (.centered x y) : Act (Device α) Unit).Displays own d canvas (do
      let opacity ← Device.opacityPart e.alpha 255.0
      let x ← Scalar.nearest e.center.1
      let y ← Scalar.nearest e.center.2
      return some { p.faded opacity with spot := .centered x y }) := by
    refine displays_ofExcept_bind fun opacity _ => ?_
    refine displays_then (Device.yields_faded h opacity) (fun _ hs => hs)
      fun shown d' _ hshown => ?_
    refine displays_ofExcept_bind fun x _ => displays_ofExcept_bind fun y _ => ?_
    exact displays_place (s := { p.faded opacity with spot := .centered x y }) hshown
  unfold present presented
  by_cases hrot : Scalar.isZero e.rotation = true
  · rw [if_pos hrot, if_pos hrot]
    exact displays_then (yields_pure (R := fun p s d => d.Shows s p) fun _ => h) (fun _ hs => hs)
      fun _ _ _ h => hrest h
  · rw [if_neg hrot, if_neg hrot]
    exact displays_then (Device.yields_rotate h _) (fun _ hs => hs) fun _ _ _ h => hrest h.1

/-- A picture of one's own gets its last mark before it is placed. -/
theorem displays_marked (e : Entity α) {c : Call α} {q : Picture α} (hown : own picture.sheet)
    (hc : c.touch? = some (.marks, picture.sheet)) (h : d.Shows picture p)
    (hq : c.paint d.view picture.sheet = q) : (do
      Device.ask c
      e.present canvas picture : Act (Device α) Unit).Displays own d canvas
      (e.presented { p with picture := q }) :=
  displays_then (Device.yields_mark hown hc h hq) (fun _ hs => hs) fun _ _ _ hmarked =>
    e.displays_present hmarked

/-- A sprite with an image stretches it, and one without fills a surface with its colour, if it
has one.  The image has to be on a sheet that exists, but it may be shared. -/
theorem displays_sprite (e : Entity α) (image : Option Surface)
    (himage : ∀ s ∈ image, ¬ d.Lacks s.sheet) :
    (e.drawSprite image canvas).Displays own d canvas
      (e.spriteSight (image.map fun s => (⟨d.view s.sheet, s.width, s.height⟩, s.depth))) := by
  unfold drawSprite spriteSight
  refine displays_ofExcept_bind fun w _ => displays_ofExcept_bind fun h _ => ?_
  refine displays_ite (fun _ => displays_pure _) fun _ => ?_
  cases image with
  | some s =>
    have hs : d.Shows s ⟨d.view s.sheet, s.width, s.height⟩ := ⟨himage s rfl, rfl, rfl, rfl⟩
    exact displays_then (Device.yields_fit hs w h) (fun _ hs => hs) fun _ _ _ hfit =>
      e.displays_present hfit
  | none =>
    refine displays_ite (fun _ => displays_pure _) fun _ => ?_
    refine displays_bind (Device.yields_make w h) (fun _ hs => hs) ?_
    rintro p picture d₁ - - ⟨hp, hfresh⟩
    refine displays_bind (Device.yields_paint e.color) (fun _ => False.elim) ?_
    rintro _ c d₂ - hdraws rfl
    have hp := hp.quiet hdraws
    exact e.displays_marked (.inl (.inr hfresh)) rfl hp (by simp [Call.paint, hp.picture])

/-- A circle is drawn into the middle of a surface of its own, as large as it. -/
theorem displays_circle (e : Entity α) (c : Color) (radius : α) (width : Int) :
    (e.drawCircle c radius width canvas).Displays own d canvas (e.circleSight c radius width) := by
  unfold drawCircle circleSight
  refine displays_ofExcept_bind fun side _ => displays_ite (fun _ => displays_pure _) fun _ => ?_
  refine displays_bind (Device.yields_make side side) (fun _ hs => hs) ?_
  rintro p picture d₁ - - ⟨hp, hfresh⟩
  exact e.displays_marked (.inr hfresh) rfl hp (by simp [Call.paint, hp.picture])

/-- A line starts in the corner of its surface that the signs of its sides choose. -/
theorem displays_line (e : Entity α) (c : Color) (stroke : Int) :
    (e.drawLine c stroke canvas).Displays own d canvas (e.lineSight c stroke) := by
  unfold drawLine lineSight
  refine displays_ofExcept_bind fun w _ => displays_ofExcept_bind fun h _ => ?_
  refine displays_bind (Device.yields_make _ _) (fun _ hs => hs) ?_
  rintro p picture d₁ - - ⟨hp, hfresh⟩
  exact e.displays_marked (.inr hfresh) rfl hp (by simp [Call.paint, hp.picture])

/-- A rectangle is drawn over the whole of a surface of its own. -/
theorem displays_rectangle (e : Entity α) (c : Color) (width : Int) :
    (e.drawRectangle c width canvas).Displays own d canvas (e.rectangleSight c width) := by
  unfold drawRectangle rectangleSight
  refine displays_ofExcept_bind fun w _ => displays_ofExcept_bind fun h _ => ?_
  refine displays_ite (fun _ => displays_pure _) fun _ => ?_
  refine displays_bind (Device.yields_make w h) (fun _ hs => hs) ?_
  rintro p picture d₁ - - ⟨hp, hfresh⟩
  refine e.displays_marked (.inr hfresh) rfl hp ?_
  simp [Call.paint, hp.picture, Surface.area, hp.width, hp.height]

/-- A shape finds its colour first, and is drawn by its kind. -/
theorem displays_shape (e : Entity α) (kind : ShapeKind) (radius : α) (filled : Bool)
    (stroke : Int) : (e.drawShape kind radius filled stroke canvas).Displays own d canvas
      (e.shapeSight kind radius filled stroke) := by
  unfold drawShape shapeSight
  refine displays_bind (Device.yields_paint e.color) (fun _ hs => hs) ?_
  rintro _ c d' - - rfl
  cases kind with
  | circle => exact e.displays_circle c radius _
  | line => exact e.displays_line c _
  | rect => exact e.displays_rectangle c _

/-- A text is one line in its colour.  It may be written anew or be taken from what was kept; the
sight is the same. -/
theorem displays_text (e : Entity α) (content font align : String) (o : Lettering.Owner) :
    (e.drawText content font align o canvas).Displays own d canvas (do
      let ink ← Color.seen e.color
      (e.textLine content font align ink).sight) := by
  unfold drawText
  refine displays_bind (Device.yields_paint e.color) (fun _ hs => hs) ?_
  rintro _ ink d' - - rfl
  exact (Device.displays_write o canvas (e.textLine content font align ink)).bind_pure _

/-- A button is a rectangle with rounded corners and its label on top, presented as one.  The
label is drawn onto the sheet of the button, not onto the canvas. -/
theorem displays_button (e : Entity α) (text : String) (textColor : Value α) (font : String)
    (corner : Int) (o : Lettering.Owner) :
    (e.drawButton text textColor font corner o canvas).Displays own d canvas
      (e.buttonSight text textColor font corner) := by
  unfold drawButton buttonSight
  refine displays_ofExcept_bind fun area _ => displays_ite (fun _ => displays_pure _) fun _ => ?_
  refine displays_bind (Device.yields_make _ _) (fun _ hs => hs) ?_
  rintro p picture d₁ - - ⟨hp, hfresh⟩
  refine displays_ofExcept_bind fun radius _ => ?_
  refine displays_bind (Device.yields_paint e.color) (fun _ => False.elim) ?_
  rintro _ c d₂ - hdraws rfl
  have hp := hp.quiet hdraws
  refine displays_then (Device.yields_mark (.inl (.inr hfresh)) rfl hp
    (q := .rectangle p.picture (.color c) ⟨0, 0, p.width, p.height⟩ 0 radius)
    (by simp [Call.paint, hp.picture, Surface.area, hp.width, hp.height]))
    (fun _ hs => hs) fun _ d₃ _ hbase => ?_
  refine displays_ite (fun _ => ?_) fun _ => e.displays_present hbase
  refine displays_bind (Device.yields_measure o text font) (fun _ => False.elim) ?_
  rintro _ size d₄ - hdraws rfl
  have hbase := hbase.quiet hdraws
  refine displays_bind (Device.yields_paint textColor) (fun _ => False.elim) ?_
  rintro _ ink d₅ - hdraws rfl
  have hbase := hbase.quiet hdraws
  have hwrite : (Device.write o picture (e.labelLine text font area size.2 ink)).Displays
    (fun _ => False) d₅ picture _ := Device.displays_write o picture _
  refine displays_bind (Device.yields_of_displays hwrite (.inl (.inl (.inl (.inl (.inr hfresh)))))
    hbase) (fun _ hs => hs) fun _ _ _ _ _ hwritten => ?_
  exact e.displays_present hwritten

end Entity

/-- The device has what the entity is drawn from: it has a picture of its own, and its image, if it
has one, was made by the device. -/
def Device.Provides (d : Device α) (e : Entity α) : Prop :=
  e.form ≠ .divider ∧ ∀ s, e.form = .sprite (some s) → d.Made s.sheet

namespace Entity

/-- An entity looks the same where its image does. -/
theorem sight_congr {look look' : Sheet → Picture α} (e : Entity α)
    (h : ∀ s, e.form = .sprite (some s) → look s.sheet = look' s.sheet) :
    e.sight look = e.sight look' := by
  unfold sight
  split
  · rfl
  · split
    · next image hform =>
      cases image with
      | some s => rw [Option.map_some, Option.map_some, h s hform]
      | none => rfl
    all_goals rfl

/-- **Rendering an entity places its sight and nothing else.**  Until then nothing is drawn on but
what is created for it. -/
theorem displays_render (e : Entity α) (h : d.Provides e) :
    (e.render canvas).Displays own d canvas (e.sight d.view) := by
  unfold render sight
  refine displays_ite (fun _ => displays_pure _) fun _ => ?_
  unfold draw
  cases hform : e.form with
  | sprite image =>
    refine e.displays_sprite image fun s hs => (h.2 s ?_).not_lacks
    rw [hform, hs]
  | button text textColor font corner action clickable o =>
    exact e.displays_button text textColor font corner o
  | text content font align o => exact e.displays_text content font align o
  | shape kind radius filled stroke => exact e.displays_shape kind radius filled stroke
  | divider => exact (h.1 hform).elim

end Entity

end Diorama
