/-
# What an act paints

What is painted does not depend on what was painted before, though colours, typefaces and labels are
remembered (`parse_color`, `get_font` and the label cache of `TextRenderer`): what is remembered is
what would be found again (`Device.Ready`).  So every act of painting has an answer that is worked
out without a device, from its arguments, from what the surfaces among them show and from what the
host answers, and this module has the rules for saying that it gives this answer.

* `Act.Yields own d x r R`: from the device `d` the act draws on nothing but `own`, and ends like
  the answer `r`, with results that `R` relates.
* `Act.Displays own d canvas x r`: it does so and then places on the canvas what `r` says, if
  anything, and does nothing after that.

The rules follow the text of a program; what is created on the way may be drawn on later.  Both
kinds of sequence, one that ends with a result and one that ends with a placement, are one kind of
sequence (`Act.Comes`), and the rule for that is `Act.Yields.comes`.

Nothing is assumed of the host but that it refuses nothing (`Host.Obliging`); its colours and its
metric of letters may be any.
-/
import Diorama.Proofs.Pictures

namespace Diorama

open Act

variable {α : Type} [Host α]

/-! ## 1. Devices that can be painted with

What has to be known of a device before it paints (`Ready`), and what is then known of a surface
(`Shows`): it is there, and it shows a picture in a size.  Both are stated without the requests so
far, so that they can be carried from one request to the next. -/

/-- A picture with its size. -/
structure Panel (α : Type) where
  picture : Picture α
  width : Int
  height : Int

/-- A picture with its size and where it is placed. -/
structure Sight (α : Type) extends Panel α where
  spot : Placement

/-- The label of a text in a typeface. -/
def Panel.label (text : String) (t : Typeface) (rgb : Int × Int × Int) : Panel α :=
  let size := Host.textSize (α := α) t text
  { picture := .label text t rgb size.1 size.2, width := size.1, height := size.2 }

namespace Device

/-- The surface is there, and shows this picture in this size. -/
structure Shows (d : Device α) (s : Surface) (p : Panel α) : Prop where
  there : ¬ d.Lacks s.sheet
  picture : d.view s.sheet = p.picture
  width : s.width = p.width
  height : s.height = p.height

/-- The host refuses nothing, all that is kept is there, a label shows what it is kept for, and a
colour that is remembered is the one that its text spells. -/
structure Ready (d : Device α) : Prop where
  obliging : Host.Obliging α
  held : ∀ s ∈ d.held, d.Made s
  labels : ∀ o, ∀ p ∈ (d.lettering o).labels, d.Shows p.2 (.label p.1.1 p.1.2.1 p.1.2.2)
  colors : ∀ s c, d.colors.lookup s = some c → Color.ofText? α s = some c

section Ready

variable {own : Sheet → Prop} {d d' : Device α} {s : Surface} {p : Panel α}

omit [Host α] in
theorem not_lacks_of_le (h : d.made ≤ d'.made) {t : Sheet} (ht : ¬ d.Lacks t) : ¬ d'.Lacks t :=
  fun hlacks => ht (hlacks.mono h)

omit [Host α] in
/-- A surface shows what it showed while others are drawn on. -/
theorem Shows.draws (hs : d.Shows s p) (h : Draws own d d') (hown : ¬ own s.sheet) :
    d'.Shows s p :=
  { hs with
    there := not_lacks_of_le h.made hs.there
    picture := (h.view hs.there hown).trans hs.picture }

omit [Host α] in
/-- What is drawn elsewhere does not matter. -/
theorem Shows.quiet (hs : d.Shows s p) (h : Draws (fun _ => False) d d') : d'.Shows s p :=
  hs.draws h id

/-- A device stays ready when it keeps nothing new and draws on nothing that it keeps. -/
theorem Ready.draws (hd : d.Ready) (h : Draws own d d') (hown : ∀ s, own s → s ∉ d.held)
    (hheld : ∀ s ∈ d'.held, s ∈ d.held)
    (hlabels : ∀ o, ∀ p ∈ (d'.lettering o).labels, p ∈ (d.lettering o).labels)
    (hcolors : d'.colors = d.colors) : d'.Ready where
  obliging := hd.obliging
  held s hs := (hd.held s (hheld s hs)).mono h.made
  labels o p hp := (hd.labels o p (hlabels o p hp)).draws h fun hs =>
    hown _ hs (mem_held.2 (.inr ⟨o, p, hlabels o p hp, rfl⟩))
  colors := by
    rw [hcolors]
    exact hd.colors

/-- Nothing is asked of the device, and it keeps no more than before. -/
theorem Ready.of_calls_eq (hd : d.Ready) (hcalls : d'.calls = d.calls) (hmade : d'.made = d.made)
    (hplaceholders : d'.placeholders = d.placeholders)
    (hlabels : ∀ o, ∀ p ∈ (d'.lettering o).labels, p ∈ (d.lettering o).labels)
    (hcolors : ∀ s c, d'.colors.lookup s = some c → Color.ofText? α s = some c) :
    Draws own d d' ∧ d'.Ready := by
  have hheld (s : Sheet) (hs : s ∈ d'.held) : s ∈ d.held := by
    rw [mem_held] at hs ⊢
    rw [hplaceholders] at hs
    exact hs.imp_right fun ⟨o, p, hp, hsheet⟩ => ⟨o, p, hlabels o p hp, hsheet⟩
  have hdraws {own : Sheet → Prop} : Draws own d d' := draws_of_calls_eq hcalls hmade hheld
  refine ⟨hdraws, hd.obliging, fun s hs => (hd.held s (hheld s hs)).mono (by omega),
    fun o p hp => ?_, hcolors⟩
  exact (hd.labels o p (hlabels o p hp)).quiet hdraws

/-- The next sheet is created, and kept for nothing but the label that it shows.  What is kept
afterwards is what was kept before, or the new sheet; and a label that is kept shows what it is
kept for, since the call that creates the sheet paints it. -/
theorem Ready.create (hd : d.Ready) {c : Call α}
    (hc : c.touch? = some (.creates, .made (d.made + 1))) (hcalls : d'.calls = d.calls.push c)
    (hmade : d'.made = d.made + 1) (hplaceholders : d'.placeholders = d.placeholders)
    (hcolors : d'.colors = d.colors)
    (hlabels : ∀ o, ∀ p ∈ (d'.lettering o).labels, p ∈ (d.lettering o).labels ∨
      p.2.sheet = .made (d.made + 1) ∧ d'.Shows p.2 (.label p.1.1 p.1.2.1 p.1.2.2)) :
    Draws own d d' ∧ d'.Ready := by
  have hheld : ∀ s ∈ d'.held, s ∈ d.held ∨ s = .made (d.made + 1) := by
    intro s hs
    rw [mem_held, hplaceholders] at hs
    rcases hs with hs | ⟨o, p, hp, rfl⟩
    · exact .inl (mem_held.2 (.inl hs))
    · exact (hlabels o p hp).imp (fun hp => mem_held.2 (.inr ⟨o, p, hp, rfl⟩)) And.left
  have hdraws {own : Sheet → Prop} : Draws own d d' := draws_create hc hcalls hmade hheld
  refine ⟨hdraws, hd.obliging, fun s hs => ?_, fun o p hp => ?_, ?_⟩
  · rcases hheld s hs with hs | rfl
    · exact (hd.held s hs).mono (by omega)
    · exact ⟨_, by omega, rfl⟩
  · rcases hlabels o p hp with hp | hp
    · exact (hd.labels o p hp).quiet hdraws
    · exact hp.2
  · rw [hcolors]
    exact hd.colors

/-- A sheet that is only created is free. -/
theorem Ready.newSheet (hd : d.Ready) {c : Call α}
    (hc : c.touch? = some (.creates, .made (d.made + 1)))
    (hd' : d' = { d with made := d.made + 1, calls := d.calls.push c }) :
    Draws own d d' ∧ d'.Ready ∧ d.Fresh d' (.made (d.made + 1)) := by
  obtain ⟨hdraws, hready⟩ : Draws own d d' ∧ d'.Ready :=
    hd.create hc (by rw [hd']) (by rw [hd']) (by rw [hd']) (by rw [hd']) fun o _ hp => .inl (by
      rw [hd'] at hp
      cases o <;> exact hp)
  refine ⟨hdraws, hready, fun hheld => ?_, c, ?_, hc⟩
  · rw [hd'] at hheld
    exact (hd.held _ hheld).not_lacks ⟨_, Nat.lt_succ_self _, rfl⟩
  · simp [since, hd']

end Ready

/-- The device after a surface was placed on another. -/
def placed (d : Device α) (source target : Surface) (spot : Placement) : Device α :=
  { d with calls := d.calls.push (.place source.sheet target.sheet spot) }

end Device

/-! ## 2. Answers

An answer is an `Except`: a fault, or what the act gives.  `Agrees` compares it with how a run
ends, and the acts of painting are compared with answers one by one. -/

namespace Act

variable {β γ δ ε : Type}

/-- Both are the same fault, or results that `R` relates. -/
inductive Agrees (R : γ → β → Prop) : Except Fault γ → Except Fault β → Prop where
  | ok {c : γ} {b : β} (h : R c b) : Agrees R (.ok c) (.ok b)
  | error (e : Fault) : Agrees R (.error e) (.error e)

theorem Agrees.mono {R S : γ → β → Prop} {r : Except Fault γ} {q : Except Fault β}
    (h : Agrees R r q) (hRS : ∀ c b, R c b → S c b) : Agrees S r q := by
  cases h with
  | ok h => exact .ok (hRS _ _ h)
  | error e => exact .error e

/-- From the device `d`, the act draws on nothing but `own` until it comes to a device that is ready,
and it ends from there as `E` says. -/
def Comes (own : Sheet → Prop) (d : Device α) (x : Act (Device α) β)
    (E : Device α → Except Fault β × Device α → Prop) : Prop :=
  d.Ready → (∀ s, own s → d.Free s) → ∃ d', Device.Draws own d d' ∧ d'.Ready ∧ E d' (x.run d)

/-- From the device `d`, the act draws on nothing but `own` and ends like `r`. -/
def Yields (own : Sheet → Prop) (d : Device α) (x : Act (Device α) β) (r : Except Fault γ)
    (R : γ → β → Device α → Prop) : Prop :=
  d.Ready → (∀ s, own s → d.Free s) →
    Device.Draws own d (x.after d) ∧ (x.after d).Ready ∧
      Agrees (fun c b => R c b (x.after d)) r (x.run d).1

/-- How an act ends that was at `d` when all was ready, and what is to be seen then. -/
inductive Ends (canvas : Surface) (d : Device α) :
    Except Fault β × Device α → Except Fault (Option (Sight α)) → Prop where
  | error (e : Fault) : Ends canvas d (.error e, d) (.error e)
  | nothing (b : β) : Ends canvas d (.ok b, d) (.ok none)
  | sight (b : β) {shown : Surface} {s : Sight α} (h : d.Shows shown s.toPanel) :
    Ends canvas d (.ok b, d.placed shown canvas s.spot) (.ok (some s))

/-- From the device `d`, the act draws on nothing but `own` and then places on the canvas what is to
be seen. -/
def Displays (own : Sheet → Prop) (d : Device α) (canvas : Surface) (x : Act (Device α) β)
    (r : Except Fault (Option (Sight α))) : Prop :=
  x.Comes own d fun d' out => Ends canvas d' out r

section Rules

variable {own mine : Sheet → Prop} {d : Device α} {canvas : Surface}

/-- To return is to give what is returned. -/
theorem yields_pure {R : γ → β → Device α → Prop} {c : γ} {b : β} (h : d.Ready → R c b d) :
    (pure b : Act (Device α) β).Yields own d (pure c) R :=
  fun hd _ => ⟨.refl d, hd, .ok (h hd)⟩

theorem yields_get_bind {f : Device α → Act (Device α) β} {r : Except Fault γ}
    {R : γ → β → Device α → Prop} (h : (f d).Yields own d r R) : (get >>= f).Yields own d r R := h

/-- To change what the device keeps, while it stays ready, gives nothing. -/
theorem yields_modify {f : Device α → Device α}
    (h : d.Ready → Device.Draws own d (f d) ∧ (f d).Ready) :
    (modify f : Act (Device α) PUnit).Yields own d (pure ()) fun _ _ d' => d' = f d :=
  fun hd _ => ⟨(h hd).1, (h hd).2, .ok rfl⟩

/-- A computed answer is its own. -/
theorem yields_ofExcept (r : Except Fault β) :
    (ofExcept r).Yields own d r fun c b d' => b = c ∧ d' = d := by
  intro hd _
  refine ⟨.refl d, hd, ?_⟩
  cases r with
  | ok b => exact .ok ⟨rfl, rfl⟩
  | error e => exact .error e

/-- Less may be said of the results. -/
theorem Yields.mono {x : Act (Device α) β} {r : Except Fault γ} {R S : γ → β → Device α → Prop}
    (hx : x.Yields own d r R) (h : ∀ c b d', Device.Draws own d d' → R c b d' → S c b d') :
    x.Yields own d r S := by
  intro hd hown
  obtain ⟨hdraws, hready, hends⟩ := hx hd hown
  exact ⟨hdraws, hready, hends.mono fun c b => h c b _ hdraws⟩

/-- To end with a result is to come to the device where the act ends. -/
theorem yields_iff {x : Act (Device α) β} {r : Except Fault γ} {R : γ → β → Device α → Prop} :
    x.Yields own d r R ↔
      x.Comes own d fun d' out => out.2 = d' ∧ Agrees (fun c b => R c b d') r out.1 := by
  refine forall₂_congr fun _ _ => ⟨?_, ?_⟩
  · rintro ⟨hdraws, hready, hends⟩
    exact ⟨_, hdraws, hready, rfl, hends⟩
  · rintro ⟨_, hdraws, hready, rfl, hends⟩
    exact ⟨hdraws, hready, hends⟩

/-- **How a sequence goes on.**  After its first part an act has failed, or it goes on from a device
that is ready, and may draw then on what its first part has created. -/
theorem Yields.comes {x : Act (Device α) β} {f : β → Act (Device α) ε} {r : Except Fault γ}
    {R : γ → β → Device α → Prop} {E : Device α → Except Fault ε × Device α → Prop}
    (hx : x.Yields mine d r R) (hmine : ∀ s, mine s → own s)
    (herror : ∀ e d', r = .error e → E d' (.error e, d'))
    (hf : ∀ c b d', r = .ok c → Device.Draws mine d d' → R c b d' →
      (f b).Comes (fun s => own s ∨ d.Fresh d' s) d' E) : (x >>= f).Comes own d E := by
  intro hd hown
  obtain ⟨hdraws, hready, hends⟩ := hx hd fun s hs => hown s (hmine s hs)
  have hdraws' := hdraws.mono hmine
  cases hrun : x.run d with
  | mk q d' =>
    rw [hrun, after_eq_of_run hrun] at hends
    rw [after_eq_of_run hrun] at hdraws hready hdraws'
    cases hends with
    | error e =>
      rw [run_bind_of_error hrun]
      exact ⟨d', hdraws', hready, herror e d' rfl⟩
    | @ok c b hR =>
      have hfree (s : Sheet) (hs : own s ∨ d.Fresh d' s) : d'.Free s :=
        hs.elim (fun hs => hdraws'.free (hown s hs)) hdraws'.free_of_fresh
      obtain ⟨d'', hrest, hready', hends⟩ := hf c b d' rfl hdraws hR hready hfree
      rw [run_bind_of_ok hrun]
      exact ⟨d'', hdraws'.trans hrest, hready', hends⟩

/-- The rest of an act may draw on what its beginning has created. -/
theorem yields_bind {x : Act (Device α) β} {f : β → Act (Device α) ε} {r : Except Fault γ}
    {g : γ → Except Fault δ} {R : γ → β → Device α → Prop} {S : δ → ε → Device α → Prop}
    (hx : x.Yields mine d r R) (hmine : ∀ s, mine s → own s)
    (hf : ∀ c b d', r = .ok c → Device.Draws mine d d' → R c b d' →
      (f b).Yields (fun s => own s ∨ d.Fresh d' s) d' (g c) S) :
    (x >>= f).Yields own d (r >>= g) S := by
  refine yields_iff.2 (hx.comes hmine ?_ ?_)
  · rintro e d' rfl
    exact ⟨rfl, .error e⟩
  · rintro c b d' rfl hdraws hR
    exact yields_iff.1 (hf c b d' rfl hdraws hR)

/-- The beginning cannot fail. -/
theorem yields_then {x : Act (Device α) β} {f : β → Act (Device α) ε} {c : γ}
    {r : Except Fault δ} {R : γ → β → Device α → Prop} {S : δ → ε → Device α → Prop}
    (hx : x.Yields mine d (pure c) R) (hmine : ∀ s, mine s → own s)
    (hf : ∀ b d', Device.Draws mine d d' → R c b d' →
      (f b).Yields (fun s => own s ∨ d.Fresh d' s) d' r S) :
    (x >>= f).Yields own d r S :=
  yields_bind (g := fun _ => r) hx hmine fun _ b d' hc hdraws hR => by
    cases hc
    exact hf b d' hdraws hR

/-- To do nothing is to place nothing. -/
theorem displays_pure (b : β) :
    (pure b : Act (Device α) β).Displays own d canvas (pure none) :=
  fun hd _ => ⟨d, .refl d, hd, .nothing b⟩

/-- A sequence that ends with a placement: its beginning gives something, and the rest places what
comes of it. -/
theorem displays_bind {x : Act (Device α) β} {f : β → Act (Device α) ε} {r : Except Fault γ}
    {g : γ → Except Fault (Option (Sight α))} {R : γ → β → Device α → Prop}
    (hx : x.Yields mine d r R) (hmine : ∀ s, mine s → own s)
    (hf : ∀ c b d', r = .ok c → Device.Draws mine d d' → R c b d' →
      (f b).Displays (fun s => own s ∨ d.Fresh d' s) d' canvas (g c)) :
    (x >>= f).Displays own d canvas (r >>= g) := by
  refine hx.comes hmine ?_ ?_
  · rintro e d' rfl
    exact .error e
  · rintro c b d' rfl hdraws hR
    exact hf c b d' rfl hdraws hR

/-- The beginning cannot fail. -/
theorem displays_then {x : Act (Device α) β} {f : β → Act (Device α) ε} {c : γ}
    {r : Except Fault (Option (Sight α))} {R : γ → β → Device α → Prop}
    (hx : x.Yields mine d (pure c) R) (hmine : ∀ s, mine s → own s)
    (hf : ∀ b d', Device.Draws mine d d' → R c b d' →
      (f b).Displays (fun s => own s ∨ d.Fresh d' s) d' canvas r) :
    (x >>= f).Displays own d canvas r :=
  displays_bind (g := fun _ => r) hx hmine fun _ b d' hc hdraws hR => by
    cases hc
    exact hf b d' hdraws hR

/-- A number that is worked out changes nothing. -/
theorem displays_ofExcept_bind {f : γ → Act (Device α) ε} {r : Except Fault γ}
    {g : γ → Except Fault (Option (Sight α))}
    (hf : ∀ c, r = .ok c → (f c).Displays own d canvas (g c)) :
    (ofExcept r >>= f).Displays own d canvas (r >>= g) := by
  cases r with
  | ok c => exact hf c rfl
  | error e => exact fun hd _ => ⟨d, .refl d, hd, .error e⟩

/-- What decides between two ways of placing decides between their answers. -/
theorem displays_ite {c : Prop} [Decidable c] {x y : Act (Device α) β}
    {r q : Except Fault (Option (Sight α))} (hx : c → x.Displays own d canvas r)
    (hy : ¬ c → y.Displays own d canvas q) :
    (if c then x else y).Displays own d canvas (if c then r else q) := by
  split
  · next h => exact hx h
  · next h => exact hy h

/-- What an act returns after placing does not matter. -/
theorem Displays.bind_pure {x : Act (Device α) β} {r : Except Fault (Option (Sight α))}
    (hx : x.Displays own d canvas r) (f : β → ε) :
    (x >>= fun b => pure (f b)).Displays own d canvas r := by
  intro hd hown
  obtain ⟨d', hdraws, hready, hends⟩ := hx hd hown
  refine ⟨d', hdraws, hready, ?_⟩
  cases hrun : x.run d with
  | mk q d'' =>
    rw [hrun] at hends
    cases hends with
    | error e =>
      rw [run_bind_of_error hrun]
      exact .error e
    | nothing b =>
      rw [run_bind_of_ok hrun]
      exact .nothing (f b)
    | sight b h =>
      rw [run_bind_of_ok hrun]
      exact .sight (f b) h

/-- To place a surface that shows something is to place what it shows. -/
theorem displays_place {shown : Surface} {s : Sight α} (h : d.Shows shown s.toPanel) :
    (Device.place shown canvas s.spot).Displays own d canvas (pure (some s)) := by
  intro hd _
  refine ⟨d, .refl d, hd, ?_⟩
  rw [Device.place, Device.run_ask hd.obliging]
  exact .sight () h

end Rules

end Act

/-! ## 3. Surfaces

Each request that makes a surface gives a panel, and the surface is fresh, so that it may be drawn
on.  What is stretched to its own size is not stretched at all, which is why `fit` does not
promise a fresh one. -/

namespace Panel

/-- An empty panel; a negative side is refused. -/
def blank (width height : Int) : Except Fault (Panel α) :=
  if width < 0 || height < 0 then .error (.device .badSurfaceSize)
  else .ok ⟨.blank width height, width, height⟩

/-- The panel of a size; colours are mixed if its depth allows it. -/
def fitted (p : Panel α) (depth : Nat) (width height : Int) : Panel α :=
  if (p.width, p.height) == (width, height) then p
  else if depth == 24 || depth == 32 then ⟨.smoothed p.picture width height, width, height⟩
  else ⟨.stretched p.picture width height, width, height⟩

/-- The panel at an opacity. -/
def faded (p : Panel α) (opacity : Int) : Panel α :=
  if opacity < 255 then { p with picture := .faded p.picture opacity } else p

omit [Host α] in
/-- Fading keeps the size. -/
theorem size_faded (p : Panel α) (opacity : Int) :
    (p.faded opacity).width = p.width ∧ (p.faded opacity).height = p.height := by
  unfold faded
  split <;> exact ⟨rfl, rfl⟩

/-- The panel with something placed on it. -/
def under (p : Panel α) : Option (Sight α) → Panel α
  | none => p
  | some s => { p with picture := .covered p.picture s.picture s.spot }

end Panel

namespace Device

variable {own : Sheet → Prop} {d : Device α} {s : Surface} {p q : Panel α}

/-- A new surface shows what its call paints. -/
theorem yields_new {c : Sheet → Call α} {s : Sheet → Surface}
    (hc : ∀ t, (c t).touch? = some (.creates, t)) (hp : ∀ t, (c t).paint d.view t = p.picture)
    (hs : ∀ t, (s t).sheet = t ∧ (s t).width = p.width ∧ (s t).height = p.height) :
    (do
      let t ← create c
      return s t : Act (Device α) Surface).Yields own d (pure p) fun p s d' =>
        d'.Shows s p ∧ d.Fresh d' s.sheet := by
  intro hd _
  obtain ⟨hdraws, hready, hfresh⟩ : Draws own d _ ∧ _ := hd.newSheet (hc _) rfl
  rw [after, run_bind_of_ok (run_create hd.obliging c d), run_pure]
  obtain ⟨hsheet, hwidth, hheight⟩ := hs (.made (d.made + 1))
  refine ⟨hdraws, hready, .ok ⟨⟨?_, ?_, hwidth, hheight⟩, ?_⟩⟩ <;> rw [hsheet]
  · exact (hdraws.made_of_fresh hfresh).not_lacks
  · exact (congrFun (view_of_push (d := d) rfl) _).trans (hp _)
  · exact hfresh

/-- An empty surface, if its sides are not negative. -/
theorem yields_make (width height : Int) :
    (make width height : Act (Device α) Surface).Yields own d (Panel.blank width height)
      fun p s d' => d'.Shows s p ∧ d.Fresh d' s.sheet := by
  unfold make Panel.blank
  split
  · exact fun hd _ => ⟨.refl d, hd, .error _⟩
  · exact yields_new (fun _ => rfl) (fun t => by simp [Call.paint]) fun _ => ⟨rfl, rfl, rfl⟩

/-- A copy looks like its original and shares no pixels with it. -/
theorem yields_copy (h : d.Shows s p) :
    (copy s).Yields own d (pure p) fun p s d' => d'.Shows s p ∧ d.Fresh d' s.sheet :=
  yields_new (fun _ => rfl) (fun t => by simp [Call.paint, h.picture])
    fun _ => ⟨rfl, h.width, h.height⟩

/-- What is turned is known by the angle; its size is not looked at. -/
theorem yields_rotate (h : d.Shows s p) (degrees : α) :
    (rotate s degrees).Yields own d
      (pure { p with picture := .turned p.picture degrees } : Except Fault (Panel α))
      fun p s d' => d'.Shows s p ∧ d.Fresh d' s.sheet :=
  yields_new (fun _ => rfl) (fun t => by simp [Call.paint, h.picture])
    fun _ => ⟨rfl, h.width, h.height⟩

/-- Stretching with colours mixed (`smoothscale`). -/
theorem yields_resizeSmoothly (h : d.Shows s p) (width height : Int) :
    (resizeSmoothly s width height).Yields own d
      (pure ⟨.smoothed p.picture width height, width, height⟩ : Except Fault (Panel α))
      fun p s d' => d'.Shows s p ∧ d.Fresh d' s.sheet :=
  yields_new (fun _ => rfl) (fun t => by simp [Call.paint, h.picture]) fun _ => ⟨rfl, rfl, rfl⟩

/-- A call keeps nothing new. -/
theorem Ready.push (hd : d.Ready) {c : Call α} (hfree : ∀ s, own s → d.Free s)
    (h : Draws own d { d with calls := d.calls.push c }) :
    Ready { d with calls := d.calls.push c } :=
  hd.draws h (fun s hs => (hfree s hs).2) (fun _ hs => hs) (fun _ _ hp => hp) rfl

/-- A call that draws on no more than `own`. -/
theorem yields_call {c : Call α} (hc : ∀ k t, c.touch? = some (k, t) → k ≠ .creates ∧ own t) :
    (ask c).Yields own d (pure ()) fun _ _ d' => d' = { d with calls := d.calls.push c } := by
  intro hd hfree
  have hdraws : Draws own d { d with calls := d.calls.push c } := draws_call hc
  rw [after, run_ask hd.obliging]
  exact ⟨hdraws, hd.push hfree hdraws, .ok rfl⟩

/-- What the host does not refuse changes nothing. -/
theorem yields_permit (r : Request α) :
    (permit r).Yields own d (pure ()) fun _ _ _ => True := by
  intro hd _
  rw [after, run_permit hd.obliging]
  exact ⟨.refl d, hd, .ok trivial⟩

/-- A surface of one's own is marked. -/
theorem yields_mark {c : Call α} {q : Picture α} (hown : own s.sheet)
    (hc : c.touch? = some (.marks, s.sheet)) (h : d.Shows s p)
    (hq : c.paint d.view s.sheet = q) :
    (ask c).Yields own d (pure { p with picture := q } : Except Fault (Panel α))
      fun p _ d' => d'.Shows s p := by
  intro hd hfree
  have hdraws : Draws own d { d with calls := d.calls.push c } := draws_touch hc (by simp) hown
  rw [after, run_ask hd.obliging]
  refine ⟨hdraws, hd.push hfree hdraws, .ok ?_⟩
  exact ⟨h.there, (congrFun (view_of_push rfl) s.sheet).trans hq, h.width, h.height⟩

/-- What is placed on a surface of one's own is seen on it.  The surface is drawn on by nobody
else in between, so it still shows what it did when the picture is placed. -/
theorem yields_of_displays {β : Type} {x : Act (Device α) β}
    {r : Except Fault (Option (Sight α))} (hx : x.Displays (fun _ => False) d s r)
    (hown : own s.sheet) (h : d.Shows s p) :
    x.Yields own d r fun top _ d' => d'.Shows s (p.under top) := by
  intro hd hfree
  obtain ⟨d', hdraws, hready, hends⟩ := hx hd fun _ => False.elim
  have hshows := h.quiet hdraws
  have hdraws' : Draws own d d' := hdraws.mono fun _ => False.elim
  cases hrun : x.run d with
  | mk q d'' =>
    rw [hrun] at hends
    rw [after_eq_of_run hrun]
    cases hends with
    | error e => exact ⟨hdraws', hready, .error e⟩
    | nothing b => exact ⟨hdraws', hready, .ok hshows⟩
    | @sight b shown top htop =>
      have hfree' (t : Sheet) (ht : own t) : t ∉ d'.held := (hdraws'.free (hfree t ht)).2
      have hplaced {mine : Sheet → Prop} (hmine : mine s.sheet) :
          Draws mine d' (d'.placed shown s top.spot) := draws_touch rfl (by simp) hmine
      refine ⟨hdraws'.trans (hplaced (.inl hown)), hready.draws (hplaced hown) hfree'
        (fun _ hs => hs) (fun _ _ hp => hp) rfl, .ok ⟨hshows.there, ?_, h.width, h.height⟩⟩
      have hview : (d'.placed shown s top.spot).view s.sheet = _ := congrFun (view_of_push rfl) _
      simpa [Call.paint, Panel.under, hshows.picture, htop.picture] using hview

/-- Stretching in the way that suits the depth of the surface (`scale_surface`). -/
theorem yields_fit (h : d.Shows s p) (width height : Int) :
    (fit s width height).Yields own d
      (pure (p.fitted s.depth width height) : Except Fault (Panel α))
      fun p s d' => d'.Shows s p := by
  unfold fit Panel.fitted Surface.size
  rw [h.width, h.height]
  split
  · exact yields_pure fun _ => h
  · split
    · exact (yields_resizeSmoothly h width height).mono fun _ _ _ _ h => h.1
    · refine (yields_new (p := ⟨.stretched p.picture width height, width, height⟩) (fun _ => rfl)
        (fun t => by simp [Call.paint, h.picture]) fun _ => ⟨rfl, rfl, rfl⟩).mono ?_
      exact fun _ _ _ _ h => h.1

/-- A surface is copied before it is faded. -/
theorem yields_faded (h : d.Shows s p) (opacity : Int) :
    (faded s opacity).Yields own d (pure (p.faded opacity) : Except Fault (Panel α))
      fun p s d' => d'.Shows s p := by
  unfold faded Panel.faded
  split
  · refine yields_then (yields_copy h) (fun _ hs => hs) fun copied d' _ ⟨hcopied, hfresh⟩ => ?_
    have hq : (Call.setOpacity copied.sheet opacity).paint d'.view copied.sheet =
        .faded p.picture opacity := by simp [Call.paint, hcopied.picture]
    exact yields_then (yields_mark (.inr hfresh) rfl hcopied hq) (fun _ hs => hs)
      fun _ _ _ hmarked => yields_pure fun _ => hmarked
  · exact yields_pure fun _ => h

end Device

/-! ## 4. Colours and letters

Here the device is read as well as written: colours, typefaces and labels are remembered.  A
device that is ready remembers nothing that it would not find again, so the answer is the same
with and without. -/

section Letters

variable [Scalar α]

/-- What a value that is no colour is painted in: white, once the line about it is printed. -/
def Color.rejected (v : Value α) : Except Fault Color := do
  let _ ← v.written
  return .white

/-- The colour that is seen when something is painted in the colour of a value. -/
def Color.seen : Value α → Except Fault Color
  | .null => pure .white
  | .text s => pure ((ofText? α s).getD .white)
  | v => do
    match ← ofParts? v with
    | some c => return c
    | none => rejected v

/-- The typeface that a text is written in. -/
def Typeface.spelled (α : Type) [Scalar α] (spelling : String) : Except Fault Typeface :=
  ((Typeface.read α spelling).run #[]).1

/-- The size of a text in the typeface that a text spells. -/
def Typeface.measured (α : Type) [Scalar α] [Host α] (text spelling : String) :
    Except Fault (Int × Int) := do
  return Host.textSize (α := α) (← spelled α spelling) text

omit [Host α] in
/-- The lines about a spelling apart, a typeface is a function of it. -/
theorem Typeface.run_read (spelling : String) (log : Log) :
    ((Typeface.read α spelling).run log).1 = spelled α spelling := by
  unfold spelled Typeface.read
  dsimp only
  split
  · split
    · simp only [run_bind, run_ofExcept]
      split <;> simp_all
    · rfl
  · rfl

namespace Device

variable {own : Sheet → Prop} {d : Device α} {s : Surface} {p q : Panel α}

omit [Scalar α] in
/-- Printing draws nothing. -/
theorem yields_liftLog {β : Type} (x : Act Log β) :
    (liftM x : Act (Device α) β).Yields own d (x.run d.log).1 fun c b _ => b = c := by
  intro hd _
  obtain ⟨hdraws, hready⟩ : Draws own d { d with log := (x.run d.log).2 } ∧
      Ready { d with log := (x.run d.log).2 } :=
    hd.of_calls_eq rfl rfl rfl (fun _ _ hp => hp) hd.colors
  refine ⟨hdraws, hready, ?_⟩
  change Agrees _ _ (x.run d.log).1
  cases (x.run d.log).1 with
  | ok b => exact .ok rfl
  | error e => exact .error e

/-- Reading a typeface prints lines, and draws on nothing. -/
theorem yields_readTypeface (spelling : String) :
    (liftM (Typeface.read α spelling) : Act (Device α) Typeface).Yields own d
      (Typeface.spelled α spelling) fun t t' _ => t' = t := by
  rw [← Typeface.run_read spelling d.log]
  exact yields_liftLog _

omit [Scalar α] in
/-- A colour that is remembered is the one that the host would say.  The cache is trusted because
`Ready` says of each of its entries that the host would give the same answer. -/
theorem yields_colorOfText (s : String) :
    (colorOfText? s : Act (Device α) (Option Color)).Yields own d (pure (Color.ofText? α s))
      fun c b _ => b = c := by
  unfold colorOfText?
  refine yields_get_bind ?_
  split
  · next c hc => exact yields_pure fun hd => (hd.colors s c hc).symm
  · next hnone =>
    split
    · next c hc =>
      refine yields_then (yields_modify fun hd => ?_) (fun _ hs => hs) fun _ _ _ _ =>
        yields_pure fun _ => hc.symm
      refine hd.of_calls_eq rfl rfl rfl (fun _ _ hp => hp) fun s' c' hs' => ?_
      rw [List.lookup_cons] at hs'
      split at hs'
      · next heq =>
        cases hs'
        rw [eq_of_beq heq, hc]
      · exact hd.colors s' c' hs'
    · next hc => exact yields_pure fun _ => hc.symm

/-- A colour that is none is reported, or cannot be. -/
theorem yields_rejectColor (v : Value α) :
    (liftM (rejectColor v .white) : Act (Device α) Color).Yields own d (Color.rejected v)
      fun c b _ => b = c := by
  have hrun : Color.rejected v = ((rejectColor v .white).run d.log).1 := by
    unfold Color.rejected rejectColor
    rw [run_bind, run_ofExcept]
    cases v.written <;> rfl
  rw [hrun]
  exact yields_liftLog (rejectColor v .white)

/-- The colour of a value that lists channels. -/
theorem yields_parts (v : Value α) : (do
    match ← Act.ofExcept (Color.ofParts? v) with
    | some c => return c
    | none => rejectColor v .white : Act (Device α) Color).Yields own d (do
    match ← Color.ofParts? v with
    | some c => return c
    | none => Color.rejected v) fun c b _ => b = c := by
  refine yields_bind (yields_ofExcept _) (fun _ hs => hs) ?_
  rintro (_ | c) _ _ - - ⟨rfl, rfl⟩
  · exact yields_rejectColor v
  · exact yields_pure fun _ => rfl

/-- A colour is seen as it is spelled, whatever was painted before. -/
theorem yields_paint (v : Value α) :
    (paint v).Yields own d (Color.seen v) fun c b _ => b = c := by
  cases v with
  | null => exact yields_pure fun _ => rfl
  | text s =>
    refine yields_then (yields_colorOfText s) (fun _ hs => hs) ?_
    rintro _ d' - rfl
    change Yields _ _ _ (pure ((Color.ofText? α s).getD .white) : Except Fault Color) _
    cases Color.ofText? α s with
    | some c => exact yields_pure fun _ => rfl
    | none =>
      have hwhite : Color.rejected (.text s : Value α) = pure .white := by
        simp only [Color.rejected, Value.written_text]
        rfl
      rw [Option.getD_none, ← hwhite]
      exact yields_rejectColor _
  | _ => exact yields_parts _

section Faces

omit [Scalar α]

omit [Host α] in
/-- To set one lettering leaves the others. -/
theorem lettering_setLettering (o o' : Lettering.Owner) (l : Lettering) (d : Device α) :
    (setLettering o l d).lettering o' = if o' = o then l else d.lettering o' := by
  cases o <;> cases o' <;> rfl

/-- Another lettering that keeps no more labels. -/
theorem Ready.setLettering (hd : d.Ready) {o : Lettering.Owner} {l : Lettering}
    (hl : ∀ p ∈ l.labels, p ∈ (d.lettering o).labels) :
    Draws own d (setLettering o l d) ∧ (setLettering o l d).Ready := by
  have hsame : (Device.setLettering o l d).calls = d.calls ∧
      (Device.setLettering o l d).made = d.made ∧
      (Device.setLettering o l d).placeholders = d.placeholders ∧
      (Device.setLettering o l d).colors = d.colors := by
    cases o <;> exact ⟨rfl, rfl, rfl, rfl⟩
  refine hd.of_calls_eq hsame.1 hsame.2.1 hsame.2.2.1 (fun o' p hp => ?_) ?_
  · rw [lettering_setLettering] at hp
    split at hp
    · next heq => exact heq ▸ hl p hp
    · exact hp
  · rw [hsame.2.2.2]
    exact hd.colors

/-- Loading a typeface draws nothing. -/
theorem yields_useFace (o : Lettering.Owner) (t : Typeface) :
    (useFace o t : Act (Device α) Unit).Yields own d (pure ()) fun _ _ _ => True := by
  unfold useFace
  refine yields_get_bind ?_
  dsimp only
  split
  · refine yields_then (yields_call fun _ _ h => nomatch h) (fun _ hs => hs) ?_
    rintro _ _ - rfl
    refine (yields_modify fun hd => hd.setLettering fun p hp => ?_).mono fun _ _ _ _ _ => trivial
    cases o <;> exact hp
  · exact yields_pure fun _ => trivial

/-- A label is drawn now or kept from before, and shows the same in both cases. -/
theorem yields_keptLabel (o : Lettering.Owner) (text : String) (t : Typeface)
    (rgb : Int × Int × Int) :
    (keptLabel o text t rgb : Act (Device α) Surface).Yields own d
      (pure (.label text t rgb) : Except Fault (Panel α)) fun p s d' => d'.Shows s p := by
  -- A new label is created and kept in one go: in between nothing would keep it.
  have hnew (d : Device α) {own : Sheet → Prop} : (do
      let s ← label t text rgb
      modify fun d =>
        let l := d.lettering o
        setLettering o { l with labels := ((text, t, rgb), s) :: l.labels } d
      return s : Act (Device α) Surface).Yields own d
      (pure (.label text t rgb) : Except Fault (Panel α)) fun p s d' => d'.Shows s p := by
    intro hd hown
    let s : Surface :=
      { sheet := .made (d.made + 1), width := (Host.textSize (α := α) t text).1
        height := (Host.textSize (α := α) t text).2 }
    let d' : Device α := setLettering o
      { d.lettering o with labels := ((text, t, rgb), s) :: (d.lettering o).labels }
      { d with
        made := d.made + 1
        calls := d.calls.push (@Call.label α t s.sheet text rgb s.width s.height) }
    have hsame : d'.calls = d.calls.push (@Call.label α t s.sheet text rgb s.width s.height) ∧
        d'.made = d.made + 1 ∧ d'.placeholders = d.placeholders ∧ d'.colors = d.colors := by
      cases o <;> exact ⟨rfl, rfl, rfl, rfl⟩
    have hshows : d'.Shows s (.label text t rgb) := by
      refine ⟨Made.not_lacks ⟨_, Nat.le_of_eq hsame.2.1.symm, rfl⟩, ?_, rfl, rfl⟩
      simp [view_of_push hsame.1, Call.paint, Panel.label, s]
    -- the new entry of the cache is the label that was just drawn, the others were shown before
    obtain ⟨hdraws, hready⟩ : Draws own d d' ∧ d'.Ready :=
      hd.create rfl hsame.1 hsame.2.1 hsame.2.2.1 hsame.2.2.2 fun o' p hp => by
        rw [lettering_setLettering] at hp
        split at hp
        · next heq =>
          subst heq
          rcases List.mem_cons.1 hp with rfl | hp
          · exact .inr ⟨rfl, hshows⟩
          · exact .inl hp
        · cases o' <;> exact .inl hp
    have hrun : (do
        let s ← label t text rgb
        modify fun d =>
          let l := d.lettering o
          setLettering o { l with labels := ((text, t, rgb), s) :: l.labels } d
        return s : Act (Device α) Surface).run d = (.ok s, d') := by
      have hlabel : (label t text rgb).run d = (.ok s, { d with
          made := d.made + 1
          calls := d.calls.push (@Call.label α t s.sheet text rgb s.width s.height) }) :=
        run_bind_of_ok (run_create hd.obliging _ d)
      rw [run_bind_of_ok hlabel]
      cases o <;> rfl
    rw [after, hrun]
    exact ⟨hdraws, hready, .ok hshows⟩
  unfold keptLabel
  refine yields_get_bind ?_
  dsimp only
  split
  · next s hs =>
    refine yields_pure fun hd => ?_
    obtain ⟨before, after, hmem, -⟩ := List.lookup_eq_some_iff.1 hs
    exact hd.labels o ((text, t, rgb), s) (by simp [hmem])
  · have hrest (d : Device α) {own : Sheet → Prop} : (do
        useFace o t
        let s ← label t text rgb
        modify fun d =>
          let l := d.lettering o
          setLettering o { l with labels := ((text, t, rgb), s) :: l.labels } d
        return s : Act (Device α) Surface).Yields own d
        (pure (.label text t rgb) : Except Fault (Panel α)) fun p s d' => d'.Shows s p :=
      yields_then (yields_useFace o t) (fun _ hs => hs) fun _ d' _ _ => hnew d'
    split
    · exact yields_then (yields_modify fun hd => hd.setLettering (List.forall_mem_nil _))
        (fun _ hs => hs)
        fun _ d' _ _ => hrest d'
    · exact hrest d

end Faces

/-- A text is measured by its typeface. -/
theorem yields_measure (o : Lettering.Owner) (text font : String) :
    (measure o text font : Act (Device α) (Int × Int)).Yields own d
      (Typeface.measured α text font) fun size size' _ => size' = size := by
  unfold measure
  refine yields_bind (yields_readTypeface font) (fun _ hs => hs) ?_
  rintro t _ d' - - rfl
  refine yields_then (yields_useFace o _) (fun _ hs => hs) fun _ _ _ _ => ?_
  refine yields_then (yields_permit _) (fun _ hs => hs) fun _ _ _ _ => yields_pure fun _ => rfl

end Device

/-- The panel stretched by both scales, unless nothing of it is left. -/
def Panel.stretched (p : Panel α) (scaleX scaleY : α) : Except Fault (Option (Panel α)) := do
  if Scalar.eq scaleX 1.0 && Scalar.eq scaleY 1.0 then return some p
  let w := max 0 (← Scalar.nearest (Scalar.ofInt p.width * Scalar.abs scaleX))
  let h := max 0 (← Scalar.nearest (Scalar.ofInt p.height * Scalar.abs scaleY))
  if w == 0 || h == 0 then return none
  return some ⟨.smoothed p.picture w h, w, h⟩

/-- What is to be seen of a line of text. -/
def Line.sight (l : Line α) : Except Fault (Option (Sight α)) := do
  if l.text == "" || Scalar.le l.alpha 0.0 then return none
  let t ← Typeface.spelled α l.font
  match ← (Panel.label l.text t l.rgb).stretched l.scaleX l.scaleY with
  | none => return none
  | some p =>
    let opacity ← Device.opacityPart l.alpha l.opacity
    let x ← Scalar.whole (Device.leftEdge l.align l.x p.width)
    let y ← Scalar.whole l.y
    return some { p.faded opacity with spot := .cornered x y }

namespace Device

variable {own : Sheet → Prop} {d : Device α} {s : Surface} {p : Panel α}

/-- A label that rounds to nothing is not stretched, and then there is none. -/
theorem yields_stretchLabel (h : d.Shows s p) (scaleX scaleY : α) :
    (stretchLabel s scaleX scaleY).Yields own d (p.stretched scaleX scaleY)
      fun p s d' => Option.Rel (fun p s => d'.Shows s p) p s := by
  unfold stretchLabel Panel.stretched
  split
  · exact yields_pure fun _ => .some h
  · rw [h.width, h.height]
    refine yields_bind (yields_ofExcept _) (fun _ hs => hs) ?_
    rintro w _ _ - - ⟨rfl, rfl⟩
    refine yields_bind (yields_ofExcept _) (fun _ hs => hs) ?_
    rintro w' _ _ - - ⟨rfl, rfl⟩
    dsimp only
    split
    · exact yields_pure fun _ => .none
    · exact yields_then (yields_resizeSmoothly h _ _) (fun _ hs => hs)
        fun _ _ _ hs => yields_pure fun _ => .some hs.1

/-- What is placed to write a line, where, and how large it is, unless nothing of it is left. -/
def prepare (o : Lettering.Owner) (l : Line α) :
    Act (Device α) (Option (Surface × Placement × (Int × Int))) := do
  if l.text == "" || Scalar.le l.alpha 0.0 then return none
  let t ← Typeface.read α l.font
  let s ← keptLabel o l.text t l.rgb
  match ← stretchLabel s l.scaleX l.scaleY with
  | none => return none
  | some s =>
    let opacity ← Act.ofExcept (opacityPart l.alpha l.opacity)
    let shown ← faded s opacity
    let x ← Act.ofExcept (Scalar.whole (leftEdge l.align l.x s.width))
    let y ← Act.ofExcept (Scalar.whole l.y)
    return some (shown, .cornered x y, s.size)

omit [Scalar α] in
/-- Places what was prepared; the result is its size. -/
def finish (target : Surface) :
    Option (Surface × Placement × (Int × Int)) → Act (Device α) (Int × Int)
  | none => pure (0, 0)
  | some (shown, spot, size) => do
    place shown target spot
    return size

/-- A line is written by preparing it and placing what was prepared. -/
theorem write_eq (o : Lettering.Owner) (target : Surface) (l : Line α) :
    write o target l = prepare o l >>= finish target := by
  unfold write prepare
  split
  · rfl
  · simp only [bind_assoc]
    congr 1
    funext t
    congr 1
    funext s
    congr 1
    funext stretched
    cases stretched with
    | none => rfl
    | some s =>
      simp only [bind_assoc]
      rfl

/-- **What is prepared for a line is what is to be seen of it**, whichever labels are kept.  The
steps are those of `render_text`: the font, the label, its stretching, its opacity, and the place,
each with the lemma that says what it yields. -/
theorem yields_prepare (o : Lettering.Owner) (l : Line α) :
    (prepare o l).Yields own d l.sight fun s p d' => Option.Rel (fun s p =>
      d'.Shows p.1 s.toPanel ∧ p.2 = (s.spot, s.width, s.height)) s p := by
  unfold prepare Line.sight
  split
  · exact yields_pure fun _ => .none
  refine yields_bind (yields_readTypeface l.font) (fun _ hs => hs) ?_
  rintro t _ d₁ - - rfl
  refine yields_then (yields_keptLabel o l.text _ l.rgb) (fun _ hs => hs) fun s d₂ _ hs => ?_
  refine yields_bind (yields_stretchLabel hs l.scaleX l.scaleY) (fun _ hs => hs) ?_
  intro _ _ d₃ _ _ hstretched
  cases hstretched with
  | none => exact yields_pure fun _ => .none
  | @some p s hs =>
    refine yields_bind (yields_ofExcept _) (fun _ hs => hs) ?_
    rintro _ opacity _ - - ⟨rfl, rfl⟩
    refine yields_then (yields_faded hs opacity) (fun _ hs => hs) fun shown d₄ _ hshown => ?_
    rw [hs.width]
    refine yields_bind (yields_ofExcept _) (fun _ hs => hs) ?_
    rintro _ x _ - - ⟨rfl, rfl⟩
    refine yields_bind (yields_ofExcept _) (fun _ hs => hs) ?_
    rintro _ y _ - - ⟨rfl, rfl⟩
    refine yields_pure fun _ => .some ⟨hshown, ?_⟩
    rw [(p.size_faded opacity).1, (p.size_faded opacity).2, Surface.size, hs.width, hs.height]

/-- Writing a line places what is to be seen of it. -/
theorem displays_write (o : Lettering.Owner) (target : Surface) (l : Line α) :
    (write o target l).Displays own d target l.sight := by
  rw [write_eq, ← bind_pure l.sight]
  refine displays_bind (yields_prepare o l) (fun _ hs => hs) fun s p d' _ _ hp => ?_
  cases hp with
  | none => exact displays_pure _
  | @some s p hp =>
    obtain ⟨shown, spot, size⟩ := p
    obtain ⟨hshown, hspot⟩ := hp
    cases hspot
    exact (displays_place hshown).bind_pure _

end Device

end Letters

end Diorama
