/-
# Shared surfaces

Entities may share an image, all that could not be loaded share the placeholder, and the labels of
one lettering are shared by every text that it writes.  Each entity fades, stretches and turns what
it shows, and still none of this is seen on another: what is marked during a rendering was created
during that rendering and is not kept, and only the canvas is covered with anything else
(`Renders`).  So through any sequence of renderings all that was there looks as it did, and an entity
that is rendered then shows what it would have shown at the beginning.
-/
import Diorama.Proofs.Sights

namespace Diorama

open Act

variable {α : Type}

namespace Device

/-! ## 1. Devices that are ready

A device that keeps nothing yet is ready, if its host refuses nothing.  So what is asked of a
device in this module is met at the start of every program, and from there on it lasts. -/

/-- A device that keeps nothing. -/
theorem ready_of_empty [Host α] {d : Device α} (hhost : Host.Obliging α)
    (hplaceholders : d.placeholders = []) (hlabels : ∀ o, (d.lettering o).labels = [])
    (hcolors : d.colors = []) : d.Ready where
  obliging := hhost
  held := by simp [held, hplaceholders, hlabels]
  labels := by simp [hlabels]
  colors := by simp [hcolors]

/-! ## 2. One rendering

What a rendering draws on is its own: the canvas, or a sheet that was made for it. -/

/-- Between two moments a rendering marked nothing but what it created and nothing keeps, and covered
nothing else but the canvas. -/
structure Renders (target : Sheet) (d d' : Device α) : Prop extends Draws (· = target) d d' where
  marks : ∀ c ∈ d.since d', ∀ s, c.touch? = some (.marks, s) → d.Fresh d' s

/-- What a canvas shows once a sight was placed on it, if there was one. -/
def onCanvas (p : Picture α) : Except Fault (Option (Sight α)) → Picture α
  | .ok (some s) => .covered p s.picture s.spot
  | _ => p

variable {d d' : Device α} {canvas : Surface}

/-- Who draws on no sheet at all draws on nothing but the canvas. -/
theorem Draws.renders (h : Draws (fun _ => False) d d') : Renders canvas.sheet d d' :=
  { h.mono fun _ => False.elim with
    marks := fun c hc s hs => (h.writes c hc .marks s hs (by simp)).resolve_left id }

/-- Placing on the canvas is all that happens to it. -/
theorem Draws.renders_placed (h : Draws (fun _ => False) d d') (shown : Surface)
    (spot : Placement) : Renders canvas.sheet d (d'.placed shown canvas spot) := by
  have hplaced : Draws (· = canvas.sheet) d' (d'.placed shown canvas spot) :=
    draws_touch rfl (by simp) rfl
  have hsince : d.since (d'.placed shown canvas spot) =
      d.since d' ++ [.place shown.sheet canvas.sheet spot] :=
    since_eq (by simp [placed, h.calls])
  refine { (h.mono fun _ => False.elim).trans (hplaced.mono fun _ => .inl) with
    marks := fun c hc s hs => ?_ }
  rw [hsince, List.mem_append, List.mem_singleton] at hc
  rcases hc with hc | rfl
  · exact h.fresh hplaced ((h.writes c hc .marks s hs (by simp)).resolve_left id)
  · cases hs

/-- What is kept are sheets that the device made, and the canvas is none of them. -/
theorem Ready.placed [Host α] (hd : d.Ready) (hcanvas : ∀ n, canvas.sheet ≠ .made n)
    (shown : Surface)
    (spot : Placement) : (d.placed shown canvas spot).Ready := by
  have hdraws : Draws (· = canvas.sheet) d (d.placed shown canvas spot) :=
    draws_touch rfl (by simp) rfl
  refine hd.draws hdraws ?_ (fun _ hs => hs) (fun _ _ hp => hp) rfl
  rintro _ rfl hheld
  obtain ⟨n, -, hn⟩ := hd.held _ hheld
  exact hcanvas n hn

variable [Scalar α] {e : Entity α}

/-- **One rendering**: how it ends, what it does to the surfaces, and what it adds to the
canvas.  The canvas is no surface that was made, so nothing of the drawing falls on it but the one
picture at the end. -/
theorem renders_render [Host α] (hd : d.Ready) (hcanvas : ∀ n, canvas.sheet ≠ .made n)
    (he : d.Provides e) :
    Renders canvas.sheet d ((e.render canvas).after d) ∧ ((e.render canvas).after d).Ready ∧
      ((e.render canvas).run d).1 = (e.sight d.view).map (fun _ => ()) ∧
      ((e.render canvas).after d).view canvas.sheet =
        onCanvas (d.view canvas.sheet) (e.sight d.view) := by
  have hrender : (e.render canvas).Displays (fun _ => False) d canvas (e.sight d.view) :=
    e.displays_render he
  obtain ⟨d', hdraws, hready, hends⟩ := hrender hd fun _ => False.elim
  have hthere : ¬ d.Lacks canvas.sheet := fun ⟨n, _, hn⟩ => hcanvas n hn
  have hview : d'.view canvas.sheet = d.view canvas.sheet := hdraws.view hthere id
  cases hrun : (e.render canvas).run d with
  | mk q d'' =>
    rw [hrun] at hends
    rw [after_eq_of_run hrun]
    generalize e.sight d.view = r at hends ⊢
    cases hends with
    | error e => exact ⟨hdraws.renders, hready, rfl, hview⟩
    | nothing b => exact ⟨hdraws.renders, hready, rfl, hview⟩
    | @sight _ shown s hshown =>
      refine ⟨hdraws.renders_placed _ _, hready.placed hcanvas _ _, rfl, ?_⟩
      refine (congrFun (view_of_push rfl) canvas.sheet).trans ?_
      simp [Call.paint, onCanvas, hview, hshown.picture]

/-! ## 3. Sequences of renderings

Entities may share an image, a placeholder or a label, and nothing of what they share is ever
drawn on: what an entity draws on is made for it.  So each of them sees the shared sheets as they
were at the start, whatever was drawn before. -/

/-- The device after entities were rendered one after the other, each whatever became of those
before it. -/
def rendered [Host α] (d : Device α) (canvas : Surface) (es : List (Entity α)) : Device α :=
  es.foldl (fun d e => (e.render canvas).after d) d

omit [Scalar α] in
/-- What was there for an entity is there later. -/
theorem Provides.mono (h : d.made ≤ d'.made) (he : d.Provides e) : d'.Provides e :=
  ⟨he.1, fun s hs => (he.2 s hs).mono h⟩

/-- By induction on the entities: each leaves a device that is ready for the next. -/
theorem draws_rendered [Host α] (hcanvas : ∀ n, canvas.sheet ≠ .made n) {es : List (Entity α)}
    (hd : d.Ready) (hes : ∀ e ∈ es, d.Provides e) :
    Draws (· = canvas.sheet) d (d.rendered canvas es) ∧ (d.rendered canvas es).Ready := by
  induction es generalizing d with
  | nil => exact ⟨.refl d, hd⟩
  | cons e es ih =>
    obtain ⟨hone, hready, -, -⟩ := renders_render hd hcanvas (hes e List.mem_cons_self)
    obtain ⟨hrest, hready'⟩ := ih hready fun f hf =>
      (hes f (List.mem_cons_of_mem e hf)).mono hone.made
    exact ⟨hone.toDraws.trans (hrest.mono fun _ => .inl), hready'⟩

/-- **Rendering never touches a shared surface.**  Entities are rendered on a canvas one after the
other, in any order and with any attributes, from a device that is ready and has made their images.

* In each of the renderings every sheet that a call touches is a new one that it creates, or the
  canvas, which is only covered with something, or one that was created in the same rendering and is
  neither the image of an entity nor a placeholder or label that is kept before or after.
* So every surface that was there at first, but for the canvas, looks as it did.
* And an entity that is rendered then ends like, and adds to the canvas what, its sight at the
  beginning says, in which none of the others occur. -/
theorem shared_of_rendered [Host α] (d : Device α) (canvas : Surface) (es : List (Entity α))
    (hd : d.Ready)
    (hcanvas : ∀ n, canvas.sheet ≠ .made n) (hes : ∀ e ∈ es, d.Provides e) :
    (∀ before e after, es = before ++ e :: after →
      let d₁ := d.rendered canvas before
      let d₂ := d.rendered canvas (before ++ [e])
      d₂.calls.toList = d₁.calls.toList ++ d₁.since d₂ ∧
      ∀ c ∈ d₁.since d₂, ∀ k s, c.touch? = some (k, s) →
        k = .creates ∧ d₁.Lacks s ∨ k = .covers ∧ s = canvas.sheet ∨
        (∃ b ∈ d₁.since d₂, b.touch? = some (.creates, s)) ∧ s ∉ d₁.held ∧ s ∉ d₂.held ∧
          ∀ f ∈ es, ∀ image, f.form = .sprite (some image) → s ≠ image.sheet) ∧
    (∀ s, ¬ d.Lacks s → s ≠ canvas.sheet → (d.rendered canvas es).view s = d.view s) ∧
    ∀ e, d.Provides e →
      ((e.render canvas).run (d.rendered canvas es)).1 = (e.sight d.view).map (fun _ => ()) ∧
      ((e.render canvas).after (d.rendered canvas es)).view canvas.sheet =
        onCanvas ((d.rendered canvas es).view canvas.sheet) (e.sight d.view) := by
  refine ⟨fun before e after hsplit => ?_, fun s hs hne => ?_, fun e he => ?_⟩
  · subst hsplit
    obtain ⟨hbefore, hready⟩ := draws_rendered hcanvas hd fun f hf =>
      hes f (List.mem_append_left _ hf)
    obtain ⟨hone, -, -, -⟩ := renders_render hready hcanvas ((hes e (by simp)).mono hbefore.made)
    have hlast : d.rendered canvas (before ++ [e]) =
        (e.render canvas).after (d.rendered canvas before) := by simp [rendered]
    dsimp only
    rw [hlast]
    generalize d.rendered canvas before = d₁ at *
    generalize (e.render canvas).after d₁ = d₂ at *
    have hnew (s : Sheet) (hfresh : d₁.Fresh d₂ s) :
        (∃ b ∈ d₁.since d₂, b.touch? = some (.creates, s)) ∧ s ∉ d₁.held ∧ s ∉ d₂.held ∧
          ∀ f ∈ before ++ e :: after, ∀ image, f.form = .sprite (some image) → s ≠ image.sheet := by
      have hlacks := hone.lacks_of_fresh hfresh
      refine ⟨hfresh.2, fun hheld => (hready.held s hheld).not_lacks hlacks, hfresh.1, ?_⟩
      rintro f hf image hform rfl
      exact (((hes f hf).2 image hform).mono hbefore.made).not_lacks hlacks
    refine ⟨hone.calls, fun c hc k s hs => ?_⟩
    cases k with
    | creates => exact .inl ⟨rfl, (hone.creates c hc s hs).1⟩
    | marks => exact .inr (.inr (hnew s (hone.marks c hc s hs)))
    | covers =>
      rcases hone.writes c hc .covers s hs (by simp) with hs | hfresh
      · exact .inr (.inl ⟨rfl, hs⟩)
      · exact .inr (.inr (hnew s hfresh))
  · exact (draws_rendered hcanvas hd hes).1.view hs hne
  · obtain ⟨hall, hready⟩ := draws_rendered hcanvas hd hes
    obtain ⟨-, -, hresult, hview⟩ := renders_render hready hcanvas (he.mono hall.made)
    have hsight : e.sight (d.rendered canvas es).view = e.sight d.view := by
      refine e.sight_congr fun s hform => ?_
      obtain ⟨n, hn, hs⟩ := he.2 s hform
      exact hall.view (he.2 s hform).not_lacks fun h => hcanvas n (h.symm.trans hs)
    rw [hsight] at hresult hview
    exact ⟨hresult, hview⟩

/-! Two stars share an image, and a third sprite shows the placeholder. -/

def studio : Device Rat where
  calls := #[.loadImage "star.png" (.made 1), .make (.made 2) 64 64]
  made := 2
  placeholders := [(64, { sheet := .made 2, width := 64, height := 64 })]
  frameRate := 60
  chances := fun _ => 0

def board : Surface := { sheet := .canvas, width := 100, height := 100 }

/-- A sprite of an image of 20 pixels. -/
def sprite (n : Nat) (side alpha : Rat) : Entity Rat where
  x := 0
  y := 0
  width := side
  height := side
  rotation := 0
  alpha := alpha
  scaleX := 1
  scaleY := 1
  form := .sprite (some { sheet := .made n, width := 20, height := 20 })

theorem provides_sprite {n : Nat} (hn : n ≤ 2) (side alpha : Rat) :
    studio.Provides (sprite n side alpha) :=
  ⟨nofun, fun _ hs => by cases hs; exact ⟨n, hn, rfl⟩⟩

theorem sheet_board (n : Nat) : board.sheet ≠ .made n := nofun

theorem sight_star : letI := Scalar.exact (fun x => x) 57
    letI : Host Rat := .recording
    (sprite 1 20 1).sight studio.view =
      .ok (some ⟨⟨.image "star.png", 20, 20⟩, .centered 10 10⟩) := by
  with_unfolding_all rfl

/-- A star shows its image also after it was rendered at half its opacity. -/
theorem shared_of_rendered_stars : letI := Scalar.exact (fun x => x) 57
    letI : Host Rat := .recording
    let d := studio.rendered board [sprite 1 20 (1 / 2), sprite 2 40 1]
    d.view (.made 1) = .image "star.png" ∧
      (((sprite 1 20 1).render board).after d).view .canvas =
        .covered (d.view .canvas) (.image "star.png") (.centered 10 10) := by
  let _ := Scalar.exact (fun x => x) 57
  let _ : Host Rat := .recording
  have hd : studio.Ready :=
    ⟨Host.obliging_recording, by simp [held, studio, lettering, Made], by rintro (_ | _) p ⟨⟩,
      by simp [studio]⟩
  have hes : ∀ e ∈ [sprite 1 20 (1 / 2), sprite 2 40 1], studio.Provides e := by
    simp [provides_sprite]
  obtain ⟨-, hviews, hsight⟩ := shared_of_rendered studio board _ hd sheet_board hes
  refine ⟨(hviews (.made 1) ?_ (sheet_board 1).symm).trans (by simp [view, studio, Call.paint]), ?_⟩
  · exact Made.not_lacks ⟨1, by simp [studio], rfl⟩
  · have hadded := (hsight _ (provides_sprite (show 1 ≤ 2 by omega) 20 1)).2
    rwa [sight_star] at hadded

end Device

end Diorama
