/-
# What cannot be drawn

An entity is drawn as it is: its numbers are brought to whole pixels, its colours and its typeface
are read from what the document says (`parse_color`, `parse_font`).  A colour that is none and a
typeface that cannot be read are reported and answered by a default, and what has no size is passed
over.

What is not answered is listed by `Entity.Undrawable`: a number that has no whole part or whose
whole part the screen cannot take, an infinite channel of a colour, a colour that is none and cannot
be shown in the line that says so, a typeface of a size that is out of range, a line with a box of
negative size, and whatever the host refuses (`Host.Refuses`).  Drawing an entity ends with a fault
only if one of these is met, whatever has been drawn before (`Entity.faultsIn_render`).
-/
import Diorama.Entity.Drawing
import Diorama.Proofs.Rules

namespace Diorama

open Act

variable {α : Type} {F : Fault → Prop}

/-- The host refuses something with this fault. -/
def Host.Refuses (α : Type) [Host α] (fault : Fault) : Prop :=
  ∃ r : Request α, Host.refusal? r = some fault

/-- An obliging host refuses nothing with any fault. -/
theorem Host.Obliging.not_refuses [Host α] (h : Host.Obliging α) (fault : Fault) :
    ¬ Host.Refuses α fault := by
  rintro ⟨r, hr⟩
  cases (h r).symm.trans hr

variable [Host α]

namespace Device

theorem run_permit (h : Host.Obliging α) (r : Request α) (d : Device α) :
    (permit r).run d = (.ok (), d) := by
  unfold permit
  rw [h r]
  rfl

theorem run_ask (h : Host.Obliging α) (c : Call α) (d : Device α) :
    (ask c).run d = (.ok (), { d with calls := d.calls.push c }) :=
  run_bind_of_ok (run_permit h _ d)

/-- A call is recorded unless the host refuses it, and then nothing has changed. -/
theorem run_ask_cases (c : Call α) (d : Device α) :
    (∃ fault, (ask c).run d = (.error fault, d)) ∨
    (ask c).run d = (.ok (), { d with calls := d.calls.push c }) := by
  unfold ask permit
  split
  · next fault h => exact Or.inl ⟨fault, rfl⟩
  · exact Or.inr rfl

/-- An obliging host is asked for the next sheet, and gives it. -/
theorem run_create (h : Host.Obliging α) (c : Sheet → Call α) (d : Device α) :
    (create c).run d = (.ok (.made (d.made + 1)),
      { d with made := d.made + 1, calls := d.calls.push (c (.made (d.made + 1))) }) :=
  run_bind_of_ok (run_permit h _ d)

/-! Whether or not the host refuses, `permit` leaves the device alone; so what a call or a new sheet
moves by is what an accepted request moves by. -/

section Moves

variable {R : Device α → Device α → Prop}

/-- A request that is refused leaves the device alone, and so does one that is not. -/
theorem moves_permit [Std.Refl R] (r : Request α) : (permit r).Moves R := by
  unfold permit
  split
  · exact moves_throw _
  · exact moves_pure _

/-- A call is recorded, if the host does not refuse it. -/
theorem moves_ask [IsPreorder (Device α) R] {c : Call α} (hcall : (call c).Moves R) :
    (ask c).Moves R :=
  moves_bind (moves_permit _) fun _ => hcall

/-- A sheet is made with its call, or neither is. -/
theorem moves_create [IsPreorder (Device α) R] {c : Sheet → Call α}
    (hnew : (do
      let sheet ← newSheet
      call (c sheet)
      return sheet : Act (Device α) Sheet).Moves R) : (create c).Moves R :=
  moves_bind moves_get fun _ => moves_bind (moves_permit _) fun _ => hnew

end Moves

/-! ## 1. Surfaces

What is asked of the host comes to an end with the host's fault, or not with a fault at all.  So
each of these acts has the faults of the host, and `make` has one more. -/

section Requests

variable (hhost : ∀ fault, Host.Refuses α fault → F fault)

include hhost

/-- The host may refuse anything, and this is where it does. -/
theorem faultsIn_permit (r : Request α) : (permit r : Act (Device α) Unit).FaultsIn F := by
  unfold permit
  split
  · next fault h => exact faultsIn_throw (hhost fault ⟨r, h⟩)
  · exact faultsIn_pure _

/-- A call has no other fault than that of the host. -/
theorem faultsIn_ask (c : Call α) : (ask c).FaultsIn F :=
  faultsIn_bind (faultsIn_permit hhost _) fun _ => faultsIn_modify _

theorem faultsIn_create (c : Sheet → Call α) : (create c).FaultsIn F := by
  have hnew : (newSheet : Act (Device α) Sheet).FaultsIn F := by
    intro d e t h
    cases h
  exact faultsIn_bind faultsIn_get fun _ => faultsIn_bind (faultsIn_permit hhost _) fun _ =>
    faultsIn_bind hnew fun _ => faultsIn_bind (faultsIn_modify _) fun _ => faultsIn_pure _

/-- A surface that was not there before is the result of a single call. -/
theorem faultsIn_newSurface {c : Sheet → Call α} {s : Sheet → Surface} :
    (do
      let sheet ← create c
      return s sheet : Act (Device α) Surface).FaultsIn F :=
  faultsIn_bind (faultsIn_create hhost c) fun _ => faultsIn_pure _

/-- A negative side is refused by every host. -/
theorem faultsIn_make {width height : Int}
    (h : width < 0 ∨ height < 0 → F (.device .badSurfaceSize)) :
    (make width height : Act (Device α) Surface).FaultsIn F := by
  unfold make
  split
  · next hneg =>
    rw [Bool.or_eq_true, decide_eq_true_eq, decide_eq_true_eq] at hneg
    exact faultsIn_bind (faultsIn_throw (h hneg)) fun _ => faultsIn_newSurface hhost
  · exact faultsIn_newSurface hhost

/-- To stretch a surface is one call. -/
theorem faultsIn_fit (s : Surface) (width height : Int) :
    (fit s width height : Act (Device α) Surface).FaultsIn F :=
  faultsIn_ite (faultsIn_pure _)
    (faultsIn_ite (faultsIn_newSurface hhost) (faultsIn_newSurface hhost))

/-- To fade a surface is to copy it and to set the opacity of the copy. -/
theorem faultsIn_faded (s : Surface) (opacity : Int) :
    (faded s opacity : Act (Device α) Surface).FaultsIn F :=
  faultsIn_ite (faultsIn_bind (faultsIn_newSurface hhost) fun _ =>
    faultsIn_bind (faultsIn_ask hhost _) fun _ => faultsIn_pure _) (faultsIn_pure _)

end Requests

/-! ## 2. Colours and letters

What can be wrong with a colour is told by `Unpaintable`, with a typeface by `Typeface.Unsized`,
and with a line of text by `Line.Unwritable`.  Each of them speaks of the value in the document
and not of the run that met it. -/

variable [Scalar α]

/-- Why a value cannot be painted with: it has an infinite channel, or it is no colour and the line
that says so cannot be printed. -/
inductive Unpaintable (v : Value α) : Fault → Prop where
  | infinite {fault : Fault} (h : Color.ofParts? v = .error fault) : Unpaintable v fault
  | unwritten (h : Color.ofParts? v = .ok none) (hlong : v.writable = false) :
      Unpaintable v .notANumber

omit [Host α] in
/-- A colour that cannot be read can be said to be so, or not. -/
theorem faultsIn_rejectColor {v : Value α} (h : v.writable = false → F .notANumber) (c : Color) :
    (liftM (rejectColor v c) : Act (Device α) Color).FaultsIn F := by
  refine faultsIn_zoom (faultsIn_bind (faultsIn_ofExcept fun e he => ?_) fun _ =>
    faultsIn_bind (faultsIn_modify _) fun _ => faultsIn_pure _)
  obtain ⟨hlong, rfl⟩ := Value.told_eq_error.1 he
  exact h hlong

/-- To find the colour to paint with fails as the colour does (`parse_color`).  A text never fails
here; of the other values a list may have a channel without bounds, or have to be shown in a line
that cannot be printed. -/
theorem faultsIn_paint {v : Value α} (h : ∀ e, Unpaintable v e → F e) : (paint v).FaultsIn F := by
  unfold paint color
  split
  · exact faultsIn_pure _
  · exact faultsIn_pure _
  · refine faultsIn_bind ?_ fun c => ?_
    · unfold colorOfText?
      refine faultsIn_bind faultsIn_get fun d => ?_
      split
      · exact faultsIn_pure _
      · split
        · exact faultsIn_bind (faultsIn_modify _) fun _ => faultsIn_pure _
        · exact faultsIn_pure _
    · split
      · exact faultsIn_pure _
      · exact faultsIn_rejectColor (fun hlong => by simp at hlong) _
  · next heq =>
    cases heq
    refine faultsIn_bind_of (faultsIn_ofExcept fun _ he => h _ (.infinite he))
      (resultsIn_ofExcept _) fun c hc => ?_
    cases c with
    | some c => exact faultsIn_pure _
    | none => exact faultsIn_rejectColor (fun hlong => h _ (.unwritten hc hlong)) _

end Device

/-- A typeface is spelled with a size that has no whole number of pixels. -/
def Typeface.Unsized (α : Type) [Scalar α] (spelling : String) (fault : Fault) : Prop :=
  ∃ word ∈ Text.words (if spelling == "" then standard else spelling),
    ∃ size, sizeText? word = some size ∧ pixels α size = .error fault

/-- The words after the style words are words of the spelling. -/
theorem Typeface.takeStyle_subset (words : List String) : (takeStyle words).2.2 ⊆ words := by
  induction words with
  | nil => exact fun _ h => h
  | cons w words ih =>
    unfold takeStyle
    dsimp only
    split
    · exact fun _ h => List.mem_cons_of_mem _ (ih h)
    · exact fun _ h => h

section Letters

variable [Scalar α]

omit [Host α] in
/-- A typeface has one number in it, its size. -/
theorem Typeface.faultsIn_read {spelling : String} (h : ∀ e, Unsized α spelling e → F e) :
    (Typeface.read α spelling).FaultsIn F := by
  have hsub := takeStyle_subset (Text.words (if spelling == "" then standard else spelling))
  have hunreadable (line : String) (t : Typeface) :
      (do say line; return t : Act Log Typeface).FaultsIn F :=
    faultsIn_bind (faultsIn_modify _) fun _ => faultsIn_pure _
  unfold Typeface.read
  dsimp only
  generalize takeStyle _ = style at hsub ⊢
  obtain ⟨bold, italic, words⟩ := style
  obtain _ | ⟨first, _ | ⟨second, rest⟩⟩ := words
  · exact hunreadable _ _
  · exact hunreadable _ _
  · dsimp only at hsub ⊢
    split
    · next size hsize =>
      refine faultsIn_bind (faultsIn_ofExcept fun e he => ?_) fun _ => faultsIn_pure _
      exact h e ⟨first, hsub List.mem_cons_self, size, hsize, he⟩
    · exact hunreadable _ _

/-- What is wrong with a line of text that cannot be written.  The sides are those of the label,
which may be an older one. -/
inductive Line.Unwritable (l : Line α) : Fault → Prop where
  | typeface {e : Fault} (h : Typeface.Unsized α l.font e) : Unwritable l e
  | width {e : Fault} (side : Int)
      (h : Scalar.nearest (Scalar.ofInt side * Scalar.abs l.scaleX) = .error e) : Unwritable l e
  | height {e : Fault} (side : Int)
      (h : Scalar.nearest (Scalar.ofInt side * Scalar.abs l.scaleY) = .error e) : Unwritable l e
  | opacity {e : Fault} (h : Device.opacityPart l.alpha l.opacity = .error e) : Unwritable l e
  | left {e : Fault} (width : Int) (h : Scalar.whole (Device.leftEdge l.align l.x width) = .error e) :
      Unwritable l e
  | top {e : Fault} (h : Scalar.whole l.y = .error e) : Unwritable l e
  | refused {e : Fault} (h : Host.Refuses α e) : Unwritable l e

namespace Device

omit [Host α] in
theorem faultsIn_readTypeface {spelling : String} (h : ∀ e, Typeface.Unsized α spelling e → F e) :
    (liftM (Typeface.read α spelling) : Act (Device α) Typeface).FaultsIn F :=
  faultsIn_zoom (Typeface.faultsIn_read h)

section Labels

variable (hhost : ∀ fault, Host.Refuses α fault → F fault)

include hhost

omit [Scalar α] in
/-- A typeface is loaded once, and the host may refuse it (`get_font`). -/
theorem faultsIn_useFace (o : Lettering.Owner) (t : Typeface) :
    (useFace o t : Act (Device α) Unit).FaultsIn F :=
  faultsIn_bind faultsIn_get fun _ => faultsIn_ite (faultsIn_bind (faultsIn_ask hhost _) fun _ =>
    faultsIn_modify _) (faultsIn_pure _)

omit [Scalar α] in
/-- A label is drawn once, and the host may refuse that (`render_label`). -/
theorem faultsIn_keptLabel (o : Lettering.Owner) (text : String) (t : Typeface)
    (rgb : Int × Int × Int) : (keptLabel o text t rgb : Act (Device α) Surface).FaultsIn F := by
  have hlabel : (do
      useFace o t
      let s ← label t text rgb
      modify fun d =>
        let l := d.lettering o
        setLettering o { l with labels := ((text, t, rgb), s) :: l.labels } d
      return s : Act (Device α) Surface).FaultsIn F :=
    faultsIn_bind (faultsIn_useFace hhost o t) fun _ =>
      faultsIn_bind (faultsIn_newSurface hhost) fun _ =>
        faultsIn_bind (faultsIn_modify _) fun _ => faultsIn_pure _
  unfold keptLabel
  refine faultsIn_bind faultsIn_get fun d => ?_
  dsimp only
  split
  · exact faultsIn_pure _
  · exact faultsIn_ite (faultsIn_bind (faultsIn_modify _) fun _ => hlabel) hlabel

/-- A line of text has to have a typeface before it can be measured. -/
theorem faultsIn_measure (o : Lettering.Owner) (text : String) {font : String}
    (h : ∀ e, Typeface.Unsized α font e → F e) :
    (measure o text font : Act (Device α) (Int × Int)).FaultsIn F :=
  faultsIn_bind (faultsIn_readTypeface h) fun _ =>
    faultsIn_bind (faultsIn_useFace hhost _ _) fun _ =>
      faultsIn_bind (faultsIn_permit hhost _) fun _ => faultsIn_pure _

end Labels

/-- A line of text is read, measured, faded, stretched and placed, and each of these has its
faults (`draw_text`). -/
theorem faultsIn_write (o : Lettering.Owner) (target : Surface) (l : Line α) :
    (write o target l).FaultsIn l.Unwritable := by
  have hhost (e : Fault) : Host.Refuses α e → l.Unwritable e := .refused
  have hstretch (s : Surface) : (stretchLabel s l.scaleX l.scaleY).FaultsIn l.Unwritable := by
    unfold stretchLabel
    refine faultsIn_ite (faultsIn_pure _) ?_
    refine faultsIn_bind (faultsIn_ofExcept fun _ => .width s.width) fun _ => ?_
    refine faultsIn_bind (faultsIn_ofExcept fun _ => .height s.height) fun _ => ?_
    exact faultsIn_ite (faultsIn_pure _)
      (faultsIn_bind (faultsIn_newSurface hhost) fun _ => faultsIn_pure _)
  unfold write
  refine faultsIn_ite (faultsIn_pure _) ?_
  refine faultsIn_bind (faultsIn_readTypeface fun _ => .typeface) fun t => ?_
  refine faultsIn_bind (faultsIn_keptLabel hhost _ _ _ _) fun s => ?_
  refine faultsIn_bind (hstretch s) fun stretched => ?_
  split
  · exact faultsIn_pure _
  · next s =>
    refine faultsIn_bind (faultsIn_ofExcept fun _ => .opacity) fun _ => ?_
    refine faultsIn_bind (faultsIn_faded hhost _ _) fun _ => ?_
    refine faultsIn_bind (faultsIn_ofExcept fun _ => .left s.width) fun _ => ?_
    refine faultsIn_bind (faultsIn_ofExcept fun _ => .top) fun _ => ?_
    exact faultsIn_bind (faultsIn_ask hhost _) fun _ => faultsIn_pure _

end Device

end Letters

/-! ## 3. Entities

The four ways to draw follow the same course: the numbers of the body are brought to whole pixels,
a surface of that size is made, something is drawn on it, and it is
presented.  `Entity.Undrawable` has a constructor for each step that can end it. -/

namespace Entity

variable [Scalar α]

/-- The numbers that the size of the entity's picture is rounded from.  The size of a button is that
of its bounds, and a text has none. -/
def sides (e : Entity α) : List α :=
  match e.form with
  | .sprite _ => [e.scaledWidth, e.scaledHeight]
  | .shape .circle radius _ _ =>
    [2.0 * (radius * Scalar.min (Scalar.abs e.scaleX) (Scalar.abs e.scaleY))]
  | .shape .line _ _ _ =>
    [Scalar.abs (e.width * Scalar.abs e.scaleX), Scalar.abs (e.height * Scalar.abs e.scaleY)]
  | .shape .rect _ _ _ =>
    [Scalar.abs e.width * Scalar.abs e.scaleX, Scalar.abs e.height * Scalar.abs e.scaleY]
  | _ => []

/-- The colours that the entity is drawn with; an image brings its own. -/
def inks (e : Entity α) : List (Value α) :=
  match e.form with
  | .sprite (some _) | .divider => []
  | .button _ textColor _ _ _ _ _ => [e.color, textColor]
  | _ => [e.color]

/-- The line that a text is written as. -/
def textLine (e : Entity α) (content font align : String) (ink : Color) : Line α where
  text := content
  x := e.x
  y := e.y
  rgb := inkOf ink
  opacity := Scalar.ofInt ink.opacity
  font := font
  align := align
  alpha := e.alpha
  scaleX := e.scaleX
  scaleY := e.scaleY

/-- The line that the text of a button is written as, in its bounds. -/
def labelLine (e : Entity α) (text font : String) (area : Area) (height : Int) (ink : Color) :
    Line α where
  text := text
  x := Scalar.ofInt area.width / 2.0
  y := (Scalar.ofInt area.height - Scalar.ofInt height * Scalar.abs e.scaleY) / 2.0
  rgb := inkOf ink
  opacity := Scalar.ofInt ink.opacity
  font := font
  align := "center"
  alpha := 1.0
  scaleX := Scalar.abs e.scaleX
  scaleY := Scalar.abs e.scaleY

/-- What is wrong with an entity whose picture cannot be placed. -/
inductive Unplaceable (e : Entity α) : Fault → Prop where
  | opacity {f : Fault} (h : Device.opacityPart e.alpha 255.0 = .error f) : Unplaceable e f
  | x {f : Fault} (h : Scalar.nearest e.center.1 = .error f) : Unplaceable e f
  | y {f : Fault} (h : Scalar.nearest e.center.2 = .error f) : Unplaceable e f
  | refused {f : Fault} (h : Host.Refuses α f) : Unplaceable e f

/-- What is wrong with an entity that cannot be drawn. -/
inductive Undrawable (e : Entity α) : Fault → Prop where
  | side {x : α} {f : Fault} (hx : x ∈ e.sides) (h : Scalar.nearest x = .error f) : Undrawable e f
  | ink {v : Value α} {f : Fault} (hv : v ∈ e.inks) (h : Device.Unpaintable v f) :
      Undrawable e f
  /-- The host refuses something. -/
  | refused {f : Fault} (h : Host.Refuses α f) : Undrawable e f
  | place {f : Fault} (h : e.Unplaceable f) : Undrawable e f
  | bounds {f : Fault} (hbutton : e.isButton = true) (h : e.bounds = .error f) : Undrawable e f
  | corner {text font : String} {textColor : Value α} {corner : Int}
      {action : Option (ActionSpec α)} {clickable : Bool} {owner : Lettering.Owner} {f : Fault}
      (hform : e.form = .button text textColor font corner action clickable owner)
      (h : Scalar.whole (Scalar.ofInt corner *
        Scalar.min (Scalar.abs e.scaleX) (Scalar.abs e.scaleY)) = .error f) : Undrawable e f
  | label {text font : String} {textColor : Value α} {corner : Int}
      {action : Option (ActionSpec α)} {clickable : Bool} {owner : Lettering.Owner} {area : Area}
      (height : Int) (ink : Color) {f : Fault}
      (hform : e.form = .button text textColor font corner action clickable owner)
      (hbounds : e.bounds = .ok area) (h : (e.labelLine text font area height ink).Unwritable f) :
      Undrawable e f
  | text {content font align : String} {owner : Lettering.Owner} (ink : Color) {f : Fault}
      (hform : e.form = .text content font align owner)
      (h : (e.textLine content font align ink).Unwritable f) : Undrawable e f
  /-- The box of a line is of a negative size. -/
  | box {radius : α} {filled : Bool} {stroke : Int} {x : α} {n : Int}
      (hform : e.form = .shape .line radius filled stroke) (hx : x ∈ e.sides)
      (hn : Scalar.nearest x = .ok n) (h : n + outline stroke * 2 < 0) :
      Undrawable e (.device .badSurfaceSize)
  /-- The ends of a divider. -/
  | ends {x : α} {f : Fault} (hform : e.form = .divider) (hx : x ∈ [e.x, e.y, e.y + e.height])
      (h : Scalar.whole x = .error f) : Undrawable e f

/-- To present a picture takes its corner, its angle and its opacity (`_present`). -/
theorem faultsIn_present (e : Entity α) (canvas picture : Surface) :
    (e.present canvas picture).FaultsIn e.Unplaceable := by
  have hhost (f : Fault) : Host.Refuses α f → e.Unplaceable f := .refused
  unfold present
  have hrest (turned : Surface) : (do
      let opacity ← Act.ofExcept (Device.opacityPart e.alpha 255.0)
      let shown ← Device.faded turned opacity
      let x ← Act.ofExcept (Scalar.nearest e.center.1)
      let y ← Act.ofExcept (Scalar.nearest e.center.2)
      Device.place shown canvas (.centered x y) : Act (Device α) Unit).FaultsIn e.Unplaceable := by
    refine faultsIn_bind (faultsIn_ofExcept fun _ => .opacity) fun _ => ?_
    refine faultsIn_bind (Device.faultsIn_faded hhost _ _) fun _ => ?_
    refine faultsIn_bind (faultsIn_ofExcept fun _ => .x) fun _ => ?_
    exact faultsIn_bind (faultsIn_ofExcept fun _ => .y) fun _ => Device.faultsIn_ask hhost _
  exact faultsIn_ite (faultsIn_bind (faultsIn_pure _) hrest)
    (faultsIn_bind (Device.faultsIn_newSurface hhost) hrest)

/-- A sprite is stretched to the size of its body, so it needs that in whole pixels.  With an
image it is fitted; without one the body is filled with its colour, if it has any. -/
theorem faultsIn_sprite {e : Entity α} {image : Option Surface} (hform : e.form = .sprite image)
    (canvas : Surface) : (e.drawSprite image canvas).FaultsIn e.Undrawable := by
  have hhost (f : Fault) : Host.Refuses α f → e.Undrawable f := .refused
  have hsides : e.sides = [e.scaledWidth, e.scaledHeight] := by rw [sides, hform]
  have hpresent (picture : Surface) : (e.present canvas picture).FaultsIn e.Undrawable :=
    (e.faultsIn_present canvas picture).mono fun _ => .place
  unfold drawSprite
  refine faultsIn_bind (faultsIn_ofExcept fun _ => .side (by simp [hsides])) fun w => ?_
  refine faultsIn_bind (faultsIn_ofExcept fun _ => .side (by simp [hsides])) fun h => ?_
  split
  · exact faultsIn_pure _
  · next hsize =>
    cases image with
    | some image => exact faultsIn_bind (Device.faultsIn_fit hhost _ _ _) hpresent
    | none =>
      have hink : e.color ∈ e.inks := by simp [inks, hform]
      refine faultsIn_ite (faultsIn_pure _) (faultsIn_bind (Device.faultsIn_make hhost fun hneg => ?_)
        fun picture => faultsIn_bind (Device.faultsIn_paint fun _ => .ink hink) fun _ =>
        faultsIn_bind (Device.faultsIn_ask hhost _) fun _ => hpresent _)
      rw [Bool.or_eq_true, decide_eq_true_eq, decide_eq_true_eq] at hsize
      omega

/-- A button is a rounded rectangle, with a line of text in its middle.  The faults in the order
in which they can come: its bounds, its corners, its two colours, its font, and its place on the
canvas.  The surface itself is asked for only with sides above zero. -/
theorem faultsIn_button {e : Entity α} {text font : String} {textColor : Value α} {corner : Int}
    {action : Option (ActionSpec α)} {clickable : Bool} {owner : Lettering.Owner}
    (hform : e.form = .button text textColor font corner action clickable owner)
    (canvas : Surface) :
    (e.drawButton text textColor font corner owner canvas).FaultsIn e.Undrawable := by
  have hhost (f : Fault) : Host.Refuses α f → e.Undrawable f := .refused
  have hbutton : e.isButton = true := by rw [isButton, hform]
  have hinks : e.inks = [e.color, textColor] := by rw [inks, hform]
  have hpresent (picture : Surface) : (e.present canvas picture).FaultsIn e.Undrawable :=
    (e.faultsIn_present canvas picture).mono fun _ => .place
  unfold drawButton
  refine faultsIn_bind_of (faultsIn_ofExcept fun _ => .bounds hbutton) (resultsIn_ofExcept _)
    fun area hbounds => ?_
  split
  · exact faultsIn_pure _
  · next hsize =>
    refine faultsIn_bind (Device.faultsIn_make hhost fun hneg => ?_) fun picture => ?_
    · rw [Bool.or_eq_true, decide_eq_true_eq, decide_eq_true_eq] at hsize
      omega
    dsimp only
    refine faultsIn_bind (faultsIn_ofExcept fun _ => .corner hform) fun radius => ?_
    refine faultsIn_bind (Device.faultsIn_paint fun _ => .ink (by simp [hinks])) fun c => ?_
    refine faultsIn_bind (Device.faultsIn_ask hhost _) fun _ => ?_
    refine faultsIn_ite (faultsIn_bind (Device.faultsIn_measure hhost _ _ fun _ h =>
      .label 0 .white hform hbounds (.typeface h)) fun size => ?_) (hpresent _)
    refine faultsIn_bind (Device.faultsIn_paint fun _ => .ink (by simp [hinks])) fun ink => ?_
    refine faultsIn_bind ((Device.faultsIn_write owner picture
      (e.labelLine text font area size.2 ink)).mono fun _ => .label _ _ hform hbounds) fun _ => ?_
    exact hpresent _

/-- A line of text goes straight onto the canvas. -/
theorem faultsIn_text {e : Entity α} {content font align : String} {owner : Lettering.Owner}
    (hform : e.form = .text content font align owner) (canvas : Surface) :
    (e.drawText content font align owner canvas).FaultsIn e.Undrawable := by
  have hink : e.color ∈ e.inks := by simp [inks, hform]
  unfold drawText
  refine faultsIn_bind (Device.faultsIn_paint fun _ => .ink hink) fun ink => ?_
  refine faultsIn_bind ((Device.faultsIn_write owner canvas
    (e.textLine content font align ink)).mono fun _ => .text _ hform) fun _ => faultsIn_pure _

section Shapes

variable {e : Entity α} {radius : α} {filled : Bool} {stroke : Int}

/-- A disc needs its radius in whole pixels, on a surface of twice that size. -/
theorem faultsIn_circle (hform : e.form = .shape .circle radius filled stroke) (c : Color)
    (width : Int) (canvas : Surface) :
    (e.drawCircle c radius width canvas).FaultsIn e.Undrawable := by
  have hhost (f : Fault) : Host.Refuses α f → e.Undrawable f := .refused
  unfold drawCircle
  refine faultsIn_bind (faultsIn_ofExcept fun _ => .side (by simp [sides, hform])) fun side => ?_
  split
  · exact faultsIn_pure _
  · next hside =>
    refine faultsIn_bind (Device.faultsIn_make hhost fun hneg => ?_) fun picture => ?_
    · omega
    · exact faultsIn_bind (Device.faultsIn_ask hhost _) fun _ =>
        (e.faultsIn_present canvas picture).mono fun _ => .place

/-- The box of a line is made also if it is flat; only a negative side is refused. -/
theorem faultsIn_line (hform : e.form = .shape .line radius filled stroke) (c : Color)
    (canvas : Surface) : (e.drawLine c (outline stroke) canvas).FaultsIn e.Undrawable := by
  have hhost (f : Fault) : Host.Refuses α f → e.Undrawable f := .refused
  have hsides : e.sides = [Scalar.abs (e.width * Scalar.abs e.scaleX),
      Scalar.abs (e.height * Scalar.abs e.scaleY)] := by rw [sides, hform]
  have hwidth : Scalar.abs (e.width * Scalar.abs e.scaleX) ∈ e.sides := by simp [hsides]
  have hheight : Scalar.abs (e.height * Scalar.abs e.scaleY) ∈ e.sides := by simp [hsides]
  unfold drawLine
  refine faultsIn_bind_of (faultsIn_ofExcept fun _ => .side hwidth) (resultsIn_ofExcept _)
    fun w hw => ?_
  refine faultsIn_bind_of (faultsIn_ofExcept fun _ => .side hheight) (resultsIn_ofExcept _)
    fun h hh => ?_
  refine faultsIn_bind (Device.faultsIn_make hhost ?_) fun picture => ?_
  · rintro (hneg | hneg)
    · exact .box hform hwidth hw hneg
    · exact .box hform hheight hh hneg
  · exact faultsIn_bind (Device.faultsIn_ask hhost _) fun _ =>
      (e.faultsIn_present canvas picture).mono fun _ => .place

/-- A rectangle needs its sides in whole pixels. -/
theorem faultsIn_rectangle (hform : e.form = .shape .rect radius filled stroke) (c : Color)
    (width : Int) (canvas : Surface) :
    (e.drawRectangle c width canvas).FaultsIn e.Undrawable := by
  have hhost (f : Fault) : Host.Refuses α f → e.Undrawable f := .refused
  unfold drawRectangle
  refine faultsIn_bind (faultsIn_ofExcept fun _ => .side (by simp [sides, hform])) fun w => ?_
  refine faultsIn_bind (faultsIn_ofExcept fun _ => .side (by simp [sides, hform])) fun h => ?_
  split
  · exact faultsIn_pure _
  · next hsize =>
    refine faultsIn_bind (Device.faultsIn_make hhost fun hneg => ?_) fun picture => ?_
    · rw [Bool.or_eq_true, decide_eq_true_eq, decide_eq_true_eq] at hsize
      omega
    · exact faultsIn_bind (Device.faultsIn_ask hhost _) fun _ =>
        (e.faultsIn_present canvas picture).mono fun _ => .place

/-- Each form has its own needs, and all need the colour first. -/
theorem faultsIn_shape {kind : ShapeKind} (hform : e.form = .shape kind radius filled stroke)
    (canvas : Surface) : (e.drawShape kind radius filled stroke canvas).FaultsIn e.Undrawable := by
  have hink : e.color ∈ e.inks := by simp [inks, hform]
  unfold drawShape
  refine faultsIn_bind (Device.faultsIn_paint fun _ => .ink hink) fun c => ?_
  cases kind with
  | circle => exact faultsIn_circle hform c _ canvas
  | line => exact faultsIn_line hform c canvas
  | rect => exact faultsIn_rectangle hform c _ canvas

/-- The divider needs its height in whole pixels. -/
theorem faultsIn_divider (hform : e.form = .divider) (canvas : Surface) :
    (e.drawDivider canvas).FaultsIn e.Undrawable := by
  have hhost (f : Fault) : Host.Refuses α f → e.Undrawable f := .refused
  unfold drawDivider
  refine faultsIn_bind (faultsIn_ofExcept fun _ => .ends hform (by simp)) fun x => ?_
  refine faultsIn_bind (faultsIn_ofExcept fun _ => .ends hform (by simp)) fun top => ?_
  refine faultsIn_bind (faultsIn_ofExcept fun _ => .ends hform (by simp)) fun bottom => ?_
  exact faultsIn_forM _ fun _ _ => Device.faultsIn_ask hhost _

end Shapes

/-- **Drawing an entity ends with a fault only if something is wrong with it**, whatever the device
has drawn before; and an entity that cannot be seen is not drawn at all. -/
theorem faultsIn_render (e : Entity α) (canvas : Surface) :
    (e.render canvas).FaultsIn fun f =>
      e.visible = true ∧ Scalar.le e.alpha 0.0 = false ∧ e.Undrawable f := by
  have hdraw : (e.draw canvas).FaultsIn e.Undrawable := by
    unfold draw
    split
    · next hform => exact faultsIn_sprite hform canvas
    · next hform => exact faultsIn_button hform canvas
    · next hform => exact faultsIn_text hform canvas
    · next hform => exact faultsIn_shape hform canvas
    · next hform => exact faultsIn_divider hform canvas
  unfold render
  split
  · exact faultsIn_pure _
  · next hseen =>
    rw [Bool.or_eq_true, not_or, Bool.not_eq_true', Bool.not_eq_false, Bool.not_eq_true] at hseen
    exact hdraw.mono fun _ h => ⟨hseen.1, hseen.2, h⟩

end Entity

end Diorama
