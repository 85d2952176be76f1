/-
# What drawing asks for

The device refuses a surface with a negative side, and what it makes of an empty one, of a stroke
less than a pixel wide or of an opacity out of range is its own affair.  Drawing an entity asks for
none of these, whatever its size, scales, opacity and stroke are (`Call.Legal`): every path through
the drawing looks at its sizes after they were rounded and before it asks.  And what rounds to
nothing is not only not made, nothing is placed for it either (`Entity.Vanishes`).

`Device.Asks onto d d'` says that between two moments the calls were legal and nothing was placed but
on the sheets of `onto`.  It composes, so it is passed down a drawing act by act.  Where this depends
on the size of a label it also depends on the labels that are kept, and then it is shown from a device
that is ready (`Act.AsksFrom`).

What matters of the numbers is said by `Scalar.Unsigned`, and exact numbers have it.
-/
import Diorama.Proofs.Drawable
import Diorama.Proofs.Sharing

namespace Diorama

open Act

variable {α : Type}

/-! ## 1. Requests

`Legal` says of a request by itself that no library would refuse it for its numbers, and `Asks`
that between two moments nothing but such requests was made.  The host may still refuse any of
them; then the request is not recorded. -/

namespace Call

/-- A surface that is made or stretched has at least one pixel, an outline is at least one pixel wide
if there is one, and an opacity that is set is not full and not negative. -/
def Legal : Call α → Prop
  | .make _ width height | .resizeSmoothly _ _ width height | .resize _ _ width height =>
    1 ≤ width ∧ 1 ≤ height
  | .rectangle _ _ _ width _ | .circle _ _ _ _ width | .line _ _ _ _ width => width = 0 ∨ 1 ≤ width
  | .setOpacity _ opacity => 0 ≤ opacity ∧ opacity ≤ 254
  | _ => True

/-- The call is legal and places something on no sheet but those of `onto`. -/
structure Allowed (onto : Sheet → Prop) (c : Call α) : Prop where
  legal : c.Legal
  covers : ∀ s, c.touch? = some (.covers, s) → onto s

end Call

namespace Device

variable {onto onto' : Sheet → Prop} {d d' : Device α}

/-- From `d` to `d'` nothing was asked for but what is allowed. -/
def Asks (onto : Sheet → Prop) (d d' : Device α) : Prop :=
  ∃ cs, d'.calls.toList = d.calls.toList ++ cs ∧ ∀ c ∈ cs, c.Allowed onto

instance : IsPreorder (Device α) (Asks onto) where
  refl _ := ⟨[], by simp, by simp⟩
  trans := by
    rintro d d₁ d₂ ⟨cs, hcs, h⟩ ⟨cs', hcs', h'⟩
    refine ⟨cs ++ cs', by rw [hcs', hcs, List.append_assoc], fun c hc => ?_⟩
    exact (List.mem_append.1 hc).elim (h c) (h' c)

/-- Without a new call nothing was asked. -/
theorem Asks.of_calls_eq (h : d'.calls = d.calls) : Asks onto d d' := ⟨[], by simp [h], by simp⟩

/-- One more call, which is allowed. -/
theorem Asks.of_push {c : Call α} (h : d'.calls = d.calls.push c) (hc : c.Allowed onto) :
    Asks onto d d' :=
  ⟨[c], by simp [h], by simpa using hc⟩

/-- The calls in between are the ones that were allowed. -/
theorem Asks.since (h : Asks onto d d') :
    d'.calls.toList = d.calls.toList ++ d.since d' ∧ ∀ c ∈ d.since d', c.Allowed onto := by
  obtain ⟨cs, hcs, h⟩ := h
  rw [since_eq hcs]
  exact ⟨hcs, h⟩

variable [Host α]

/-- A call that is allowed may be refused, and then it is not recorded. -/
theorem asks_ask {c : Call α} (h : c.Allowed onto) : (ask c).Moves (Asks onto) :=
  moves_ask fun _ => .of_push rfl h

/-- A new surface is the result of a single call. -/
theorem asks_new {c : Sheet → Call α} {s : Sheet → Surface} (h : ∀ t, (c t).Allowed onto) :
    (do
      let t ← create c
      return s t : Act (Device α) Surface).Moves (Asks onto) :=
  moves_bind (moves_create fun _ => .of_push rfl (h _)) fun _ => moves_pure _

omit [Host α] in
/-- Nothing is placed by a call that only creates or marks a sheet. -/
theorem allowed_of_touch {c : Call α} {k : Touch} {s : Sheet} (hc : c.touch? = some (k, s))
    (hk : k ≠ .covers) (hlegal : c.Legal) : c.Allowed onto where
  legal := hlegal
  covers t ht := by
    cases hc.symm.trans ht
    exact (hk rfl).elim

/-! ## 2. Surfaces and letters

A surface is only made when both sides are positive, and every size is looked at first.  So each
of these acts is legal on the condition that its caller has looked. -/

/-- An empty surface with positive sides. -/
theorem asks_make {width height : Int} (hwidth : 0 < width) (hheight : 0 < height) :
    (make width height : Act (Device α) Surface).Moves (Asks onto) := by
  unfold make
  split
  · exact moves_bind (moves_throw _) fun _ =>
      asks_new fun _ => allowed_of_touch rfl nofun ⟨hwidth, hheight⟩
  · exact asks_new fun _ => allowed_of_touch rfl nofun ⟨hwidth, hheight⟩

/-- A surface stretched to positive sides. -/
theorem asks_fit (s : Surface) {width height : Int} (hwidth : 0 < width) (hheight : 0 < height) :
    (fit s width height : Act (Device α) Surface).Moves (Asks onto) :=
  moves_ite (moves_pure _)
    (moves_ite (asks_new fun _ => allowed_of_touch rfl nofun ⟨hwidth, hheight⟩)
      (asks_new fun _ => allowed_of_touch rfl nofun ⟨hwidth, hheight⟩))

/-- Only what is not full is set. -/
theorem asks_faded (s : Surface) {opacity : Int} (h : 0 ≤ opacity) :
    (faded s opacity : Act (Device α) Surface).Moves (Asks onto) := by
  unfold faded
  split
  · next hfull =>
    have hlegal (s : Sheet) : (Call.setOpacity s opacity : Call α).Allowed onto :=
      allowed_of_touch rfl nofun ⟨h, by omega⟩
    exact moves_bind (asks_new fun _ => allowed_of_touch rfl nofun trivial) fun _ =>
      moves_bind (asks_ask (hlegal _)) fun _ => moves_pure _
  · exact moves_pure _

/-- Whatever is placed, it is placed on the sheet that is meant. -/
theorem asks_place (shown : Surface) {target : Surface} (h : onto target.sheet) (spot : Placement) :
    (place shown target spot : Act (Device α) Unit).Moves (Asks onto) :=
  asks_ask ⟨trivial, fun s hs => by cases hs; exact h⟩

omit [Host α] in
theorem asks_liftLog {β : Type} (x : Act Log β) :
    (liftM x : Act (Device α) β).Moves (Asks onto) :=
  fun _ => .of_calls_eq rfl

omit [Host α] in
/-- What only changes what is kept asks for nothing. -/
theorem asks_modify {f : Device α → Device α} (h : ∀ d, (f d).calls = d.calls) :
    (modify f : Act (Device α) PUnit).Moves (Asks onto) :=
  moves_modify fun d => .of_calls_eq (h d)

omit [Host α] in
theorem asks_setLettering (o : Lettering.Owner) (l : Device α → Lettering) :
    (modify fun d => setLettering o (l d) d : Act (Device α) PUnit).Moves (Asks onto) :=
  asks_modify fun _ => by cases o <;> rfl

/-- To load a typeface draws on nothing. -/
theorem asks_useFace (o : Lettering.Owner) (t : Typeface) :
    (useFace o t : Act (Device α) Unit).Moves (Asks onto) :=
  moves_bind moves_get fun _ => moves_ite
    (moves_bind (asks_ask ⟨trivial, nofun⟩) fun _ => asks_setLettering o _) (moves_pure _)

/-- A label is a surface of its own, and nothing is placed for it yet. -/
theorem asks_keptLabel (o : Lettering.Owner) (text : String) (t : Typeface)
    (rgb : Int × Int × Int) :
    (keptLabel o text t rgb : Act (Device α) Surface).Moves (Asks onto) := by
  have hlabel : (do
      useFace o t
      let s ← label t text rgb
      modify fun d =>
        let l := d.lettering o
        setLettering o { l with labels := ((text, t, rgb), s) :: l.labels } d
      return s : Act (Device α) Surface).Moves (Asks onto) :=
    moves_bind (asks_useFace o t) fun _ =>
      moves_bind (asks_new fun _ => allowed_of_touch rfl nofun trivial) fun _ =>
        moves_bind (asks_setLettering o _) fun _ => moves_pure _
  unfold keptLabel
  refine moves_bind moves_get fun d => ?_
  dsimp only
  split
  · exact moves_pure _
  · exact moves_ite (moves_bind (asks_setLettering o _) fun _ => hlabel) hlabel

end Device

variable [Scalar α] [Host α]

/-- What matters of the numbers: neither the size of what has no sign nor a part of an opacity is
rounded to less than nothing. -/
structure Scalar.Unsigned (α : Type) [Scalar α] : Prop where
  side : ∀ {x : α} {n : Int}, nearest (abs x) = .ok n → 0 ≤ n
  part : ∀ {a full : α} {n : Int}, le 0.0 full = true → Device.opacityPart a full = .ok n → 0 ≤ n
  full : le (0.0 : α) 255.0 = true
  ofNat : ∀ k : Nat, le (0.0 : α) (ofInt k) = true

theorem Scalar.unsigned_exact (sine : Rat → Rat) (radian : Rat) :
    letI := Scalar.exact sine radian
    Unsigned Rat := by
  let _ := Scalar.exact sine radian
  have hzero : (0.0 : Rat) = 0 := by norm_num
  refine ⟨fun {x n} h => ?_, fun {a full n} hfull h => ?_, ?_, fun k => ?_⟩
  · rw [Scalar.abs_exact] at h
    exact Scalar.nearest_exact_nonneg sine radian (abs_nonneg x) h
  · rw [Scalar.le_exact, decide_eq_true_eq, hzero] at hfull
    rw [Device.opacityPart, Scalar.max_exact, hzero] at h
    exact Scalar.whole_exact_nonneg sine radian (mul_nonneg (le_max_left _ _) hfull) h
  · exact decide_eq_true (by norm_num)
  · rw [Scalar.le_exact, decide_eq_true_eq, hzero]
    exact Nat.cast_nonneg k

namespace Device

variable {onto : Sheet → Prop}

/-- To find a colour asks for nothing.  Looking a colour up may change the cache and print a line,
and neither is a request. -/
theorem asks_paint (v : Value α) : (paint v).Moves (Asks onto) := by
  unfold paint color
  split
  · exact moves_pure _
  · exact moves_pure _
  · refine moves_bind ?_ fun c => ?_
    · unfold colorOfText?
      refine moves_bind moves_get fun d => ?_
      split
      · exact moves_pure _
      · split
        · exact moves_bind (asks_modify fun _ => rfl) fun _ => moves_pure _
        · exact moves_pure _
    · split
      · exact moves_pure _
      · exact asks_liftLog _
  · refine moves_bind (moves_ofExcept _) fun c => ?_
    split
    · exact moves_pure _
    · exact asks_liftLog _

/-- To measure asks only for the typeface. -/
theorem asks_measure (o : Lettering.Owner) (text font : String) :
    (measure o text font : Act (Device α) (Int × Int)).Moves (Asks onto) :=
  moves_bind (asks_liftLog _) fun _ => moves_bind (asks_useFace o _) fun _ =>
    moves_bind (moves_permit _) fun _ => moves_pure _

/-- A label is stretched to at least one pixel, or not at all. -/
theorem asks_stretchLabel (s : Surface) (scaleX scaleY : α) :
    (stretchLabel s scaleX scaleY).Moves (Asks onto) := by
  unfold stretchLabel
  refine moves_ite (moves_pure _) (moves_bind (moves_ofExcept _) fun w =>
    moves_bind (moves_ofExcept _) fun h => ?_)
  dsimp only
  split
  · exact moves_pure _
  · next hne =>
    rw [Bool.or_eq_true, beq_iff_eq, beq_iff_eq] at hne
    exact moves_bind (asks_new fun _ => allowed_of_touch rfl nofun ⟨by omega, by omega⟩)
      fun _ => moves_pure _

/-- A line of text is stretched only to positive sides, and faded only to an opacity between 0 and
255. -/
theorem asks_write (hα : Scalar.Unsigned α) (o : Lettering.Owner) {target : Surface}
    (htarget : onto target.sheet) {l : Line α} (hopacity : Scalar.le 0.0 l.opacity = true) :
    (write o target l).Moves (Asks onto) := by
  unfold write
  refine moves_ite (moves_pure _) (moves_bind (asks_liftLog _) fun t =>
    moves_bind (asks_keptLabel o _ _ _) fun s => moves_bind (asks_stretchLabel s _ _)
      fun stretched => ?_)
  cases stretched with
  | none => exact moves_pure _
  | some s =>
    refine (resultsIn_ofExcept _).moves_bind (moves_ofExcept _) fun opacity h => ?_
    exact moves_bind (asks_faded s (hα.part hopacity h)) fun _ => moves_bind (moves_ofExcept _)
      fun _ => moves_bind (moves_ofExcept _) fun _ => moves_bind (asks_place _ htarget _)
        fun _ => moves_pure _

end Device

/-! ## 3. Entities

Every form is drawn behind the same guards: an entity of no opacity or without a positive side is
passed over before anything is made for it. -/

namespace Entity

variable {onto : Sheet → Prop} {e : Entity α} {canvas : Surface}

section Legal

variable (hα : Scalar.Unsigned α)

include hα

/-- What is presented is turned, faded where it is not at full opacity, and placed. -/
theorem asks_present (hcanvas : onto canvas.sheet) (picture : Surface) :
    (e.present canvas picture).Moves (Device.Asks onto) := by
  have hrest (turned : Surface) : (do
      let opacity ← Act.ofExcept (Device.opacityPart e.alpha 255.0)
      let shown ← Device.faded turned opacity
      let x ← Act.ofExcept (Scalar.nearest e.center.1)
      let y ← Act.ofExcept (Scalar.nearest e.center.2)
      Device.place shown canvas (.centered x y) : Act (Device α) Unit).Moves
        (Device.Asks onto) := by
    refine (resultsIn_ofExcept _).moves_bind (moves_ofExcept _) fun opacity h => ?_
    exact moves_bind (Device.asks_faded _ (hα.part hα.full h)) fun _ => moves_bind (moves_ofExcept _)
      fun _ => moves_bind (moves_ofExcept _) fun _ => Device.asks_place _ hcanvas _
  unfold present
  exact moves_ite (moves_bind (moves_pure _) hrest)
    (moves_bind (Device.asks_new fun _ => Device.allowed_of_touch rfl nofun trivial) hrest)

/-- A picture of one's own gets its last mark before it is placed. -/
theorem asks_marked (hcanvas : onto canvas.sheet) {c : Call α} {picture : Surface}
    (hc : c.touch? = some (.marks, picture.sheet)) (hlegal : c.Legal) : (do
      Device.ask c
      e.present canvas picture : Act (Device α) Unit).Moves (Device.Asks onto) :=
  moves_bind (Device.asks_ask (Device.allowed_of_touch hc nofun hlegal)) fun _ =>
    asks_present hα hcanvas _

/-- An image is stretched, or a surface is filled, in both cases after the sides were looked at. -/
theorem asks_sprite (hcanvas : onto canvas.sheet) (image : Option Surface) :
    (e.drawSprite image canvas).Moves (Device.Asks onto) := by
  unfold drawSprite
  refine moves_bind (moves_ofExcept _) fun w => moves_bind (moves_ofExcept _) fun h => ?_
  split
  · exact moves_pure _
  · next hsize =>
    rw [Bool.or_eq_true, decide_eq_true_eq, decide_eq_true_eq] at hsize
    cases image with
    | some image =>
      exact moves_bind (Device.asks_fit _ (by omega) (by omega)) fun _ => asks_present hα hcanvas _
    | none =>
      exact moves_ite (moves_pure _) (moves_bind (Device.asks_make (by omega) (by omega)) fun _ =>
        moves_bind (Device.asks_paint _) fun _ => asks_marked hα hcanvas rfl trivial)

/-- A button writes its text on a surface of its own, so any sheet has to be allowed. -/
theorem asks_button (honto : ∀ s, onto s) (text font : String) (textColor : Value α) (corner : Int)
    (o : Lettering.Owner) :
    (e.drawButton text textColor font corner o canvas).Moves (Device.Asks onto) := by
  unfold drawButton
  refine moves_bind (moves_ofExcept _) fun area => ?_
  split
  · exact moves_pure _
  · next hsize =>
    rw [Bool.or_eq_true, decide_eq_true_eq, decide_eq_true_eq] at hsize
    refine moves_bind (Device.asks_make (by omega) (by omega)) fun picture =>
      moves_bind (moves_ofExcept _) fun radius => moves_bind (Device.asks_paint _) fun c => ?_
    refine moves_bind (Device.asks_ask (Device.allowed_of_touch rfl nofun (.inl rfl))) fun _ => ?_
    refine moves_ite (moves_bind (Device.asks_measure _ _ _) fun size =>
      moves_bind (Device.asks_paint _) fun ink => moves_bind (Device.asks_write hα o (honto _) ?_)
        fun _ => asks_present hα (honto _) _) (asks_present hα (honto _) _)
    exact hα.ofNat ink.opacity

/-- A line of text places itself. -/
theorem asks_text (hcanvas : onto canvas.sheet) (content font align : String)
    (o : Lettering.Owner) :
    (e.drawText content font align o canvas).Moves (Device.Asks onto) :=
  moves_bind (Device.asks_paint _) fun ink =>
    moves_bind (Device.asks_write hα o hcanvas (hα.ofNat ink.opacity)) fun _ => moves_pure _

/-- A filled shape has no outline, and every other one of at least a pixel.  The surface that is
asked for has sides of at least a pixel: a circle and a rectangle return before it if they have
none, and a line adds its padding to sides that are not negative. -/
theorem asks_shape (hcanvas : onto canvas.sheet) (kind : ShapeKind) (radius : α) (filled : Bool)
    (stroke : Int) : (e.drawShape kind radius filled stroke canvas).Moves (Device.Asks onto) := by
  have houtline : 1 ≤ outline stroke := le_max_left 1 stroke
  have hwidth : (if filled then 0 else outline stroke) = 0 ∨
      1 ≤ if filled then 0 else outline stroke := by
    split
    · exact .inl rfl
    · exact .inr houtline
  unfold drawShape
  refine moves_bind (Device.asks_paint _) fun c => ?_
  cases kind with
  | circle =>
    refine moves_bind (moves_ofExcept _) fun side => ?_
    split
    · exact moves_pure _
    · next hside =>
      exact moves_bind (Device.asks_make (by omega) (by omega)) fun _ =>
        asks_marked hα hcanvas rfl hwidth
  | line =>
    refine (resultsIn_ofExcept _).moves_bind (moves_ofExcept _) fun w hw =>
      (resultsIn_ofExcept _).moves_bind (moves_ofExcept _) fun h hh => ?_
    have hw := hα.side hw
    have hh := hα.side hh
    exact moves_bind (Device.asks_make (by omega) (by omega)) fun _ =>
      asks_marked hα hcanvas rfl (.inr houtline)
  | rect =>
    refine moves_bind (moves_ofExcept _) fun w => moves_bind (moves_ofExcept _) fun h => ?_
    split
    · exact moves_pure _
    · next hsize =>
      rw [Bool.or_eq_true, decide_eq_true_eq, decide_eq_true_eq] at hsize
      exact moves_bind (Device.asks_make (by omega) (by omega)) fun _ =>
        asks_marked hα hcanvas rfl hwidth

/-- **Drawing an entity asks for nothing that is not legal.** -/
theorem asks_render (e : Entity α) (canvas : Surface) :
    (e.render canvas).Moves (Device.Asks fun _ => True) := by
  unfold render draw
  refine moves_ite (moves_pure _) ?_
  cases e.form with
  | sprite image => exact asks_sprite hα trivial image
  | button text textColor font corner action clickable o =>
    exact asks_button hα (fun _ => trivial) text font textColor corner o
  | text content font align o => exact asks_text hα trivial content font align o
  | shape kind radius filled stroke => exact asks_shape hα trivial kind radius filled stroke
  | divider =>
    refine moves_bind (moves_ofExcept _) fun x => moves_bind (moves_ofExcept _) fun top =>
      moves_bind (moves_ofExcept _) fun bottom => moves_forM _ fun _ _ => ?_
    exact Device.asks_ask (Device.allowed_of_touch rfl nofun (.inr (by decide)))

end Legal

end Entity

/-! ## 4. What rounds to nothing

To see that nothing is placed, the path that is taken has to be followed to its end, and for a
label that path depends on the size of the label, which is found on the device.  So this is shown
from a device that is ready. -/

namespace Act

variable {β γ : Type} {onto own mine : Sheet → Prop} {d : Device α}

/-- From `d`, when all is ready and `own` is free, the act asks for nothing but what is allowed. -/
def AsksFrom (onto own : Sheet → Prop) (d : Device α) (x : Act (Device α) β) : Prop :=
  d.Ready → (∀ s, own s → d.Free s) → Device.Asks onto d (x.after d)

omit [Scalar α]

/-- What is asked for in any case. -/
theorem Moves.asksFrom {x : Act (Device α) β} (hx : x.Moves (Device.Asks onto)) :
    x.AsksFrom onto own d :=
  fun _ _ => hx d

/-- What the rest of an act asks for may depend on what its beginning yields. -/
theorem asksFrom_bind {ε : Type} {x : Act (Device α) β} {f : β → Act (Device α) ε}
    {r : Except Fault γ} {R : γ → β → Device α → Prop} (hx : x.Yields mine d r R)
    (hmoves : x.Moves (Device.Asks onto)) (hmine : ∀ s, mine s → own s)
    (hf : ∀ c b d', r = .ok c → R c b d' →
      (f b).AsksFrom onto (fun s => own s ∨ d.Fresh d' s) d') :
    (x >>= f).AsksFrom onto own d := by
  intro hd hown
  obtain ⟨hdraws, hready, hends⟩ := hx hd fun s hs => hown s (hmine s hs)
  refine after_bind_cases (hmoves d) fun b d' hrun => ?_
  rw [hrun, after_eq_of_run hrun] at hends
  rw [after_eq_of_run hrun] at hdraws hready
  have hdraws' := hdraws.mono hmine
  cases hends with
  | ok hR =>
    have hrest := hf _ b d' rfl hR hready fun s hs =>
      hs.elim (fun hs => hdraws'.free (hown s hs)) hdraws'.free_of_fresh
    exact Trans.trans (after_eq_of_run hrun ▸ hmoves d) hrest

/-- What the rest of an act asks for depends on nothing. -/
theorem AsksFrom.bind_moves {ε : Type} {x : Act (Device α) β} {f : β → Act (Device α) ε}
    (hx : x.AsksFrom onto own d) (hf : ∀ b, (f b).Moves (Device.Asks onto)) :
    (x >>= f).AsksFrom onto own d := by
  intro hd hown
  refine after_bind_cases (hx hd hown) fun b d' hrun => ?_
  exact Trans.trans (after_eq_of_run hrun ▸ hx hd hown) (hf b d')

/-- Both ways ask for what is legal only. -/
theorem asksFrom_ite {c : Prop} [Decidable c] {x y : Act (Device α) β}
    (hx : c → x.AsksFrom onto own d) (hy : ¬ c → y.AsksFrom onto own d) :
    (if c then x else y).AsksFrom onto own d := by
  split
  · next h => exact hx h
  · next h => exact hy h

end Act

/-- A side of the label of a text rounds to nothing when the label is stretched by two scales.  At
full size no label is stretched. -/
def LabelVanishes (content font : String) (scaleX scaleY : α) : Prop :=
  (Scalar.eq scaleX 1.0 && Scalar.eq scaleY 1.0) = false ∧
    ∃ a, ∃ n ≤ 0, Scalar.nearest (Scalar.ofInt (Entity.labelLength α content font a) *
      Scalar.abs (a.pick scaleX scaleY)) = .ok n

namespace Device

variable {onto own : Sheet → Prop} {d : Device α}

/-- A label that vanishes is found to do so.  The side that rounds to nothing is one of the two
that are computed, so the test before the stretching succeeds whichever it is. -/
theorem resultsIn_stretchLabel {content font : String} {s : Surface} {scaleX scaleY : α}
    (hs : ∀ a, Entity.labelLength α content font a = a.pick s.width s.height)
    (h : LabelVanishes content font scaleX scaleY) :
    (stretchLabel s scaleX scaleY).ResultsIn (· = none) := by
  intro d stretched d' hr
  obtain ⟨hscales, a, n, hn, hround⟩ := h
  unfold stretchLabel at hr
  rw [hscales, if_neg (by simp)] at hr
  obtain ⟨w, d₁, hw, hr⟩ := run_bind_eq_ok.1 hr
  obtain ⟨h, d₂, hh, hr⟩ := run_bind_eq_ok.1 hr
  have hw := resultsIn_ofExcept _ _ _ _ hw
  have hh := resultsIn_ofExcept _ _ _ _ hh
  have hnone : (max 0 w == 0 || max 0 h == 0) = true := by
    rw [hs] at hround
    rw [Bool.or_eq_true, beq_iff_eq, beq_iff_eq]
    cases a with
    | across =>
      cases hw.symm.trans hround
      omega
    | down =>
      cases hh.symm.trans hround
      omega
  dsimp only at hr
  rw [if_pos hnone] at hr
  cases hr
  rfl

/-- Nothing is placed for a label that vanishes.  The label itself is drawn and kept; its
stretched picture is what vanishes, and nothing after that is asked for. -/
theorem asksFrom_write (o : Lettering.Owner) (target : Surface) {l : Line α}
    (h : LabelVanishes l.text l.font l.scaleX l.scaleY) :
    (write o target l).AsksFrom onto own d := by
  unfold write
  refine asksFrom_ite (fun _ => (moves_pure _).asksFrom) fun _ => ?_
  refine asksFrom_bind (yields_readTypeface l.font) (asks_liftLog _) (fun _ hs => hs) ?_
  rintro _ t d₁ ht rfl
  refine asksFrom_bind (yields_keptLabel o l.text _ l.rgb) (asks_keptLabel o _ _ _)
    (fun _ hs => hs) ?_
  rintro _ s d₂ ⟨⟩ hs
  have hmeasured : (Typeface.measured α l.text l.font).toOption =
      some (Host.textSize (α := α) t l.text) := by
    rw [Typeface.measured, ht]
    rfl
  have hlength (a : Axis) :
      Entity.labelLength α l.text l.font a = a.pick s.width s.height := by
    unfold Entity.labelLength
    rw [hmeasured, hs.width, hs.height]
    cases a <;> rfl
  refine Moves.asksFrom ((resultsIn_stretchLabel hlength h).moves_bind (asks_stretchLabel s _ _) ?_)
  rintro _ rfl
  exact moves_pure _

end Device

namespace Entity

variable {onto : Sheet → Prop} {e : Entity α} {canvas : Surface} {d : Device α}

/-- On some axis what is to be drawn rounds to nothing: the size of a sprite, a rectangle or a disc,
the bounds of a button, or the label of a text.  A line has room for its stroke. -/
def Vanishes (e : Entity α) : Prop :=
  match e.form with
  | .text content font _ _ => LabelVanishes content font e.scaleX e.scaleY
  | .shape .line _ _ _ | .divider => False
  | _ => ∃ a, ∃ n ≤ 0, Scalar.nearest (e.measure a) = .ok n

/-- The text of a button rounds to nothing. -/
def LosesLabel (e : Entity α) : Prop :=
  match e.form with
  | .button text _ font _ _ _ _ =>
    LabelVanishes text font (Scalar.abs e.scaleX) (Scalar.abs e.scaleY)
  | _ => False

omit [Scalar α] [Host α] in
/-- What has no side is passed over. -/
theorem moves_flat {w h : Int} (hflat : w ≤ 0 ∨ h ≤ 0) {x : Act (Device α) Unit} :
    (if w ≤ 0 || h ≤ 0 then pure () else x).Moves (Device.Asks onto) := by
  rw [if_pos]
  · exact moves_pure _
  · rw [Bool.or_eq_true, decide_eq_true_eq, decide_eq_true_eq]
    exact hflat

/-- It is flat on one axis, whichever that is. -/
theorem flat_of_measures (hflat : ∃ a, ∃ n ≤ 0, Scalar.nearest (e.measure a) = .ok n) {w h : Int}
    (hw : Scalar.nearest (e.measure .across) = .ok w)
    (hh : Scalar.nearest (e.measure .down) = .ok h) : w ≤ 0 ∨ h ≤ 0 := by
  obtain ⟨_ | _, n, hn, hround⟩ := hflat
  · cases hw.symm.trans hround
    exact .inl hn
  · cases hh.symm.trans hround
    exact .inr hn

/-- What the screen keeps of the bounds of a button rounds to nothing if they do. -/
theorem flat_of_bounds (hα : Scalar.Unsigned α) (hbutton : e.isButton = true)
    (hflat : ∃ a, ∃ n ≤ 0, Scalar.nearest (e.measure a) = .ok n) {area : Area}
    (h : e.bounds = .ok area) : area.width ≤ 0 ∨ area.height ≤ 0 := by
  have hnothing {a : Axis} {n k : Int} (hn : n ≤ 0) (hround : Scalar.nearest (e.measure a) = .ok n)
      (hkept : e.Measures a k) : k ≤ 0 := by
    obtain ⟨m, hm, hkept⟩ := hkept
    cases hround.symm.trans hm
    rw [if_pos hbutton] at hkept
    rw [measure_of_isButton hbutton] at hm
    exact (Area.screenInt_le hkept (hα.side hm)).1.trans hn
  obtain ⟨hwidth, hheight⟩ := measures_of_bounds hbutton h
  obtain ⟨_ | _, n, hn, hround⟩ := hflat
  · exact .inl (hnothing hn hround hwidth)
  · exact .inr (hnothing hn hround hheight)

/-- What rounds to nothing asks for nothing to be placed.  Each form computes its sides first and
returns if one is missing; the forms that do not are excluded by the hypotheses. -/
theorem asks_of_flat (hα : Scalar.Unsigned α)
    (hflat : ∃ a, ∃ n ≤ 0, Scalar.nearest (e.measure a) = .ok n)
    (htext : ∀ content font align o, e.form ≠ .text content font align o)
    (hline : ∀ radius filled stroke, e.form ≠ .shape .line radius filled stroke)
    (hdivider : e.form ≠ .divider) : (e.draw canvas).Moves (Device.Asks onto) := by
  have hmeasure (a : Axis) {x : α} (hx : e.measure a = x) {n : Int} (hn : Scalar.nearest x = .ok n) :
      Scalar.nearest (e.measure a) = .ok n := hx ▸ hn
  unfold draw
  cases hform : e.form with
  | sprite image =>
    refine (resultsIn_ofExcept _).moves_bind (moves_ofExcept _) fun w hw =>
      (resultsIn_ofExcept _).moves_bind (moves_ofExcept _) fun h hh => moves_flat ?_
    exact flat_of_measures hflat (hmeasure .across (by rw [measure, hform]; rfl) hw)
      (hmeasure .down (by rw [measure, hform]; rfl) hh)
  | button text textColor font corner action clickable o =>
    refine (resultsIn_ofExcept _).moves_bind (moves_ofExcept _) fun area harea => moves_flat ?_
    exact flat_of_bounds hα (by rw [isButton, hform]) hflat harea
  | text content font align o => exact (htext _ _ _ _ hform).elim
  | shape kind radius filled stroke =>
    refine moves_bind (Device.asks_paint _) fun c => ?_
    cases kind with
    | circle =>
      refine (resultsIn_ofExcept _).moves_bind (moves_ofExcept _) fun side hside => ?_
      have hflat := flat_of_measures hflat (hmeasure .across (by rw [measure, hform]) hside)
        (hmeasure .down (by rw [measure, hform]) hside)
      rw [or_self] at hflat
      rw [if_pos hflat]
      exact moves_pure _
    | line => exact (hline _ _ _ hform).elim
    | rect =>
      refine (resultsIn_ofExcept _).moves_bind (moves_ofExcept _) fun w hw =>
        (resultsIn_ofExcept _).moves_bind (moves_ofExcept _) fun h hh => moves_flat ?_
      exact flat_of_measures hflat (hmeasure .across (by rw [measure, hform]; rfl) hw)
        (hmeasure .down (by rw [measure, hform]; rfl) hh)
  | divider => exact (hdivider hform).elim

/-- **Nothing is placed for what rounds to nothing.** -/
theorem asksFrom_render (hα : Scalar.Unsigned α) (h : e.Vanishes) :
    (e.render canvas).AsksFrom onto (fun _ => False) d := by
  unfold render
  refine asksFrom_ite (fun _ => (moves_pure _).asksFrom) fun _ => ?_
  unfold Vanishes at h
  split at h
  · next content font align o hform =>
    unfold draw
    rw [hform]
    refine asksFrom_bind (Device.yields_paint e.color) (Device.asks_paint _) (fun _ hs => hs) ?_
    rintro ink _ d' - rfl
    exact (Device.asksFrom_write (l := e.textLine content font align _) o canvas h).bind_moves
      fun _ => moves_pure _
  · exact h.elim
  · exact h.elim
  · next htext hline hdivider =>
    exact (asks_of_flat hα h (fun _ _ _ _ hform => htext _ _ _ _ hform)
      (fun _ _ _ hform => hline _ _ _ hform) hdivider).asksFrom

/-- **Nothing is placed for the text of a button that rounds to nothing**: only the button is, on the
canvas. -/
theorem asksFrom_render_of_label (hα : Scalar.Unsigned α) (hcanvas : onto canvas.sheet)
    (h : e.LosesLabel) : (e.render canvas).AsksFrom onto (fun _ => False) d := by
  unfold render
  refine asksFrom_ite (fun _ => (moves_pure _).asksFrom) fun _ => ?_
  unfold LosesLabel at h
  split at h
  case h_2 => exact h.elim
  next text textColor font corner action clickable o hform =>
  unfold draw
  rw [hform]
  refine asksFrom_bind (yields_ofExcept e.bounds) (moves_ofExcept _) (fun _ hs => hs) ?_
  rintro _ area _ - ⟨rfl, rfl⟩
  refine asksFrom_ite (fun _ => (moves_pure _).asksFrom) fun hsize => ?_
  rw [Bool.or_eq_true, decide_eq_true_eq, decide_eq_true_eq] at hsize
  refine asksFrom_bind (Device.yields_make _ _) (Device.asks_make (by omega) (by omega))
    (fun _ hs => hs) ?_
  rintro p picture d₁ - ⟨hp, hfresh⟩
  refine asksFrom_bind (yields_ofExcept _) (moves_ofExcept _) (fun _ => False.elim) ?_
  rintro _ radius _ - ⟨rfl, rfl⟩
  refine asksFrom_bind (Device.yields_paint e.color) (Device.asks_paint _) (fun _ => False.elim) ?_
  rintro _ c d₂ - rfl
  have hmark : (Device.rectangle picture c picture.area 0 radius).Yields (· = picture.sheet) d₂ _ _ :=
    Device.yields_call fun k t ht => by cases ht; exact ⟨nofun, rfl⟩
  refine asksFrom_bind hmark (Device.asks_ask (Device.allowed_of_touch rfl nofun (.inl rfl)))
    (fun s hs => .inl (.inl (.inr (hs ▸ hfresh)))) ?_
  rintro _ _ d₃ - -
  refine asksFrom_ite (fun _ => ?_) fun _ => (asks_present hα hcanvas _).asksFrom
  refine asksFrom_bind (Device.yields_measure o text font) (Device.asks_measure _ _ _)
    (fun _ => False.elim) ?_
  rintro _ size d₄ - rfl
  refine asksFrom_bind (Device.yields_paint textColor) (Device.asks_paint _)
    (fun _ => False.elim) ?_
  rintro _ ink d₅ - rfl
  exact (Device.asksFrom_write (l := e.labelLine text font area size.2 ink) o picture h).bind_moves
    fun _ => asks_present hα hcanvas _

/-- **Drawing an entity asks for legal surfaces, strokes and opacities, and for nothing that rounds to
nothing.**  From a device that is ready, an entity is rendered to the end, if the bounds of a button
are numbers of the screen, unless one of its colours is none and cannot be said in the log; position,
size, scales and opacity may be any fractions.

* Every surface that is made, and every size that one is stretched to, has at least one pixel on
  both axes.  Every stroke is at least one pixel wide, or the shape is filled.  Every opacity that is
  set lies between 0 and 254.
* If a side of a sprite, a rectangle, a disc or the bounds of a button rounds to nothing, or one of
  the label of a text that is stretched, then nothing is placed anywhere.
* If it is one of the label of a button that is stretched, then nothing is placed on the button. -/
theorem requests_of_render [Host Rat] (sine : Rat → Rat) (radian : Rat) :
    letI := Scalar.exact sine radian
    ∀ {e : Entity Rat} {d : Device Rat} (canvas : Surface), d.Ready → e.OnScreen →
      ∃ r d', (e.render canvas).run d = (r, d') ∧
        (r = .ok () ∨ r = .error .notANumber ∧ e.HasUnsayable) ∧
        d'.calls.toList = d.calls.toList ++ d.since d' ∧
        (∀ c ∈ d.since d', c.Legal) ∧
        (e.Vanishes → ∀ c ∈ d.since d', ∀ s, c.touch? ≠ some (.covers, s)) ∧
        (e.LosesLabel → ∀ c ∈ d.since d', ∀ s, c.touch? = some (.covers, s) → s = canvas.sheet) := by
  intro e d canvas hd hscreen
  let _ := Scalar.exact sine radian
  have hα := Scalar.unsigned_exact sine radian
  obtain ⟨hcalls, hallowed⟩ := (asks_render hα e canvas d).since
  obtain ⟨r, hrun, hr⟩ := run_render_exact sine radian hd.obliging canvas d hscreen
  refine ⟨r, _, hrun, hr, hcalls, fun c hc => (hallowed c hc).legal, fun h c hc s hs => ?_,
    fun h c hc s hs => ?_⟩
  · have hasks : Device.Asks (fun _ => False) d ((e.render canvas).after d) :=
      asksFrom_render hα h hd fun _ => False.elim
    exact (hasks.since.2 c hc).covers s hs
  · have hasks : Device.Asks (· = canvas.sheet) d ((e.render canvas).after d) :=
      asksFrom_render_of_label hα rfl h hd fun _ => False.elim
    exact (hasks.since.2 c hc).covers s hs

/-! A button that is almost closed: it is two pixels wide, and its text would be less than half of
one. -/

def easel : Device Rat where
  frameRate := 60
  chances := fun _ => 0

def slit : Entity Rat where
  x := 10
  y := 20
  width := 100
  height := 30
  rotation := 0
  alpha := 1 / 2
  scaleX := -1 / 40
  scaleY := 1
  form := .button "Go" .null "16px Arial" 4 none false .engine

/-- The text is not placed on the button, and the button is rendered without it.  It is wide
enough for a button and too narrow for the word on it. -/
theorem requests_of_render_slit : letI := Scalar.exact (fun x => x) 57
    letI : Host Rat := .recording
    ∃ d', (slit.render Device.board).run easel = (.ok (), d') ∧
      (∀ c ∈ easel.since d', c.Legal) ∧
      ∀ c ∈ easel.since d', ∀ s, c.touch? = some (.covers, s) → s = .canvas := by
  let _ := Scalar.exact (fun x => x) 57
  let _ : Host Rat := .recording
  have hd : easel.Ready :=
    Device.ready_of_empty Host.obliging_recording rfl (by rintro (_ | _) <;> rfl) rfl
  have hscreen : slit.OnScreen := fun _ => ⟨⟨59, 20, 2, 30⟩,
    ⟨fun a => by cases a <;> decide +kernel, fun a => by cases a <;> decide +kernel⟩,
    fun a => by cases a <;> decide⟩
  have hlabel : slit.LosesLabel := by
    have hround : (Scalar.nearest (Scalar.ofInt (labelLength Rat "Go" "16px Arial" .across) *
        Scalar.abs (Axis.across.pick (Scalar.abs slit.scaleX) (Scalar.abs slit.scaleY))) :
          Except Fault Int) = .ok 0 := by
      decide +kernel
    exact ⟨by decide +kernel, .across, 0, le_rfl, hround⟩
  obtain ⟨r, d', hrun, hr, -, hlegal, -, honly⟩ :=
    requests_of_render (fun x => x) 57 Device.board hd hscreen
  have hsayable : ¬ slit.HasUnsayable := by
    rintro ⟨v, hv, hno⟩
    obtain rfl | rfl : v = slit.color ∨ v = .null := by simpa [inks, slit] using hv
    · exact Color.not_unsayable (by simp [slit, Value.writable]) hno
    · exact Color.not_unsayable (by simp [Value.writable]) hno
  obtain rfl : r = .ok () := hr.resolve_right fun h => hsayable h.2
  exact ⟨d', hrun, hlegal, honly hlabel⟩

end Entity

end Diorama
