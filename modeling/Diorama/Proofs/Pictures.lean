/-
# What surfaces show

The device is asked to draw and keeps no pixels, so what a surface shows is read off from what was
asked.  A `Picture` is the history of a surface as a term, and `d.view s` is the picture on the
sheet `s` after all the calls of the device `d`.  Equal pictures look the same.

A call creates a sheet, marks one, or covers one with another (`Call.touch?`); every other sheet
shows what it showed (`Call.paint_of_untouched`).  `Device.Draws own d d'` says that between two
moments only sheets of `own` were marked or covered, and sheets that were created in between and that
nothing keeps.  It composes (`Draws.trans`), and whatever else there was at the first moment looks
the same at the second (`Draws.view`).
-/
import Diorama.Proofs.Drawing
import Mathlib.Logic.Function.Basic
import Mathlib.Data.Nat.Basic

namespace Diorama

open Act

variable {α : Type}

/-! ## 1. Pictures

A picture is a term: what a sheet shows, told by how it came about.  A request touches one sheet,
and what it makes of the picture there is `Call.paint`; so what a sheet shows after any requests
is a fold over them. -/

/-- What a surface shows, by what has been done to it.  A line of text is known by its letters,
typeface, colour and size. -/
inductive Picture (α : Type) where
  /-- What a surface shows of which no call is known. -/
  | given (s : Sheet)
  | blank (width height : Int)
  | image (path : String)
  | label (text : String) (face : Typeface) (rgb : Int × Int × Int) (width height : Int)
  | turned (p : Picture α) (degrees : α)
  | smoothed (p : Picture α) (width height : Int)
  | stretched (p : Picture α) (width height : Int)
  | filled (p : Picture α) (ink : Ink) (area : Option Area)
  | faded (p : Picture α) (opacity : Int)
  | deepened (p : Picture α)
  | rectangle (p : Picture α) (ink : Ink) (area : Area) (width radius : Int)
  | circle (p : Picture α) (ink : Ink) (center : α × α) (radius : α) (width : Int)
  | line (p : Picture α) (ink : Ink) (start : Int × Int) (tip : Tip α) (width : Int)
  /-- One picture with another placed on it. -/
  | covered (p top : Picture α) (spot : Placement)

/-- What a call can do to a sheet. -/
inductive Touch where
  | creates | marks | covers
  deriving DecidableEq

namespace Call

/-- What a call does, and to which sheet. -/
def touch? : Call α → Option (Touch × Sheet)
  | .make s _ _ | .copy _ s | .rotate _ s _ | .resizeSmoothly _ s _ _ | .resize _ s _ _
  | .loadImage _ s | .label s _ _ _ _ => some (.creates, s)
  | .openWindow _ _ _ => some (.creates, .window)
  | .fill s _ _ | .setOpacity s _ | .addOpacity s | .rectangle s _ _ _ _ | .circle s _ _ _ _
  | .line s _ _ _ _ => some (.marks, s)
  | .place _ s _ => some (.covers, s)
  | _ => none

/-- What all sheets show after a call. -/
def paint (c : Call α) (v : Sheet → Picture α) : Sheet → Picture α :=
  match c with
  | .make s width height => Function.update v s (.blank width height)
  | .loadImage path s => Function.update v s (.image path)
  | @label _ face s text rgb width height =>
    Function.update v s (.label text face rgb width height)
  | .openWindow width height _ => Function.update v .window (.blank width height)
  | .copy source s => Function.update v s (v source)
  | .rotate source s degrees => Function.update v s (.turned (v source) degrees)
  | .resizeSmoothly source s width height =>
    Function.update v s (.smoothed (v source) width height)
  | .resize source s width height => Function.update v s (.stretched (v source) width height)
  | .fill s ink area => Function.update v s (.filled (v s) ink area)
  | .setOpacity s opacity => Function.update v s (.faded (v s) opacity)
  | .addOpacity s => Function.update v s (.deepened (v s))
  | .rectangle s ink area width radius =>
    Function.update v s (.rectangle (v s) ink area width radius)
  | .circle s ink center radius width => Function.update v s (.circle (v s) ink center radius width)
  | .line s ink origin tip width => Function.update v s (.line (v s) ink origin tip width)
  | .place source s spot => Function.update v s (.covered (v s) (v source) spot)
  | _ => v

/-- A sheet that a call does not touch looks the same. -/
theorem paint_of_untouched {c : Call α} {s : Sheet} (h : ∀ k, c.touch? ≠ some (k, s))
    (v : Sheet → Picture α) : c.paint v s = v s := by
  have hne {k : Touch} {t : Sheet} (ht : c.touch? = some (k, t)) : s ≠ t := by
    rintro rfl
    exact h k ht
  cases c <;> simp only [paint] <;> exact Function.update_of_ne (hne rfl) _ _

end Call

namespace Device

/-- What the sheets show. -/
def view (d : Device α) : Sheet → Picture α := d.calls.toList.foldl (fun v c => c.paint v) .given

/-- One more call changes the view by what that call does. -/
theorem view_of_push {d d' : Device α} {c : Call α} (h : d'.calls = d.calls.push c) :
    d'.view = c.paint d.view := by
  simp [view, h]

/-! ## 2. Sheets

Sheets are numbered as they are made.  A sheet is either one of the host, or it was made before a
certain moment, and then it has a number up to the count of that moment. -/

/-- The sheet was made by the device. -/
def Made (d : Device α) (s : Sheet) : Prop := ∃ n, n ≤ d.made ∧ s = .made n

/-- The sheet is yet to be made. -/
def Lacks (d : Device α) (s : Sheet) : Prop := ∃ n, d.made < n ∧ s = .made n

/-- The sheets that are kept for later: those of the placeholders and of the labels. -/
def held (d : Device α) : List Sheet :=
  d.placeholders.map (·.2.sheet) ++ (d.lettering .everyone).labels.map (·.2.sheet) ++
    (d.lettering .engine).labels.map (·.2.sheet)

/-- What was asked since `d`. -/
def since (d d' : Device α) : List (Call α) := d'.calls.toList.drop d.calls.size

/-- The sheet was created since `d`, and nothing keeps it. -/
def Fresh (d d' : Device α) (s : Sheet) : Prop :=
  s ∉ d'.held ∧ ∃ c ∈ d.since d', c.touch? = some (.creates, s)

/-- The sheet is there and nothing keeps it. -/
def Free (d : Device α) (s : Sheet) : Prop := d.Made s ∧ s ∉ d.held

/-- What was made is there. -/
theorem Made.not_lacks {d : Device α} {s : Sheet} (h : d.Made s) : ¬ d.Lacks s := by
  obtain ⟨n, hn, rfl⟩ := h
  rintro ⟨m, hm, heq⟩
  cases heq
  omega

/-- What the device keeps for later: the placeholders and the labels of all letterings. -/
theorem mem_held {d : Device α} {s : Sheet} :
    s ∈ d.held ↔ (∃ p ∈ d.placeholders, p.2.sheet = s) ∨
      ∃ o, ∃ p ∈ (d.lettering o).labels, p.2.sheet = s := by
  constructor
  · intro h
    simp only [held, List.mem_append, List.mem_map] at h
    rcases h with (h | h) | h
    · exact .inl h
    · exact .inr ⟨.everyone, h⟩
    · exact .inr ⟨.engine, h⟩
  · rintro (h | ⟨o, h⟩)
    · simp [held, h]
    · cases o <;> simp [held, h]

/-! ## 3. What is drawn between two moments

`Draws own d d'` is the one relation that everything here rests on.  Sheets that existed and are
not in `own` are untouched between the two moments; `own` is chosen by whoever uses it, so that
the drawing of one thing does not meddle with that of another. -/

/-- From `d` to `d'` sheets were created, and nothing was marked or covered but sheets of `own` and
sheets that were created in between and that nothing keeps. -/
structure Draws (own : Sheet → Prop) (d d' : Device α) : Prop where
  made : d.made ≤ d'.made
  held : ∀ s ∈ d'.held, s ∈ d.held ∨ d.Lacks s
  calls : d'.calls.toList = d.calls.toList ++ d.since d'
  creates : ∀ c ∈ d.since d', ∀ s, c.touch? = some (.creates, s) → d.Lacks s ∧ d'.Made s
  writes : ∀ c ∈ d.since d', ∀ k s, c.touch? = some (k, s) → k ≠ .creates →
    own s ∨ d.Fresh d' s

/-- The calls between two moments are read off from those at the second. -/
theorem since_eq {d d' : Device α} {cs : List (Call α)}
    (h : d'.calls.toList = d.calls.toList ++ cs) : d.since d' = cs := by
  simp [since, h]

section Draws

variable {own own' : Sheet → Prop} {d d' d'' : Device α} {s : Sheet}

/-- Sheets come and never go. -/
theorem Lacks.mono (h : d.made ≤ d'.made) (hs : d'.Lacks s) : d.Lacks s := by
  obtain ⟨n, hn, rfl⟩ := hs
  exact ⟨n, by omega, rfl⟩

theorem Made.mono (h : d.made ≤ d'.made) (hs : d.Made s) : d'.Made s := by
  obtain ⟨n, hn, rfl⟩ := hs
  exact ⟨n, by omega, rfl⟩

/-- Nothing is drawn. -/
theorem draws_of_calls_eq (hcalls : d'.calls = d.calls) (hmade : d'.made = d.made)
    (hheld : ∀ s ∈ d'.held, s ∈ d.held) : Draws own d d' := by
  have hsince : d.since d' = [] := since_eq (by simp [hcalls])
  refine ⟨by omega, fun s hs => .inl (hheld s hs), ?_, ?_, ?_⟩
  · simp [hsince, hcalls]
  · simp [hsince]
  · simp [hsince]

/-- Nothing happens, so nothing is drawn on. -/
theorem Draws.refl (d : Device α) : Draws own d d := draws_of_calls_eq rfl rfl fun _ hs => hs

/-- A call that draws on a sheet of one's own, or on none. -/
theorem draws_call {c : Call α} (hc : ∀ k s, c.touch? = some (k, s) → k ≠ .creates ∧ own s) :
    Draws own d { d with calls := d.calls.push c } := by
  have hsince : d.since { d with calls := d.calls.push c } = [c] := since_eq (by simp)
  refine ⟨le_rfl, fun s hs => .inl hs, ?_, ?_, ?_⟩ <;> simp only [hsince, List.mem_singleton]
  · simp
  · rintro _ rfl s hs
    exact absurd rfl (hc _ s hs).1
  · rintro _ rfl k s hs -
    exact .inl (hc k s hs).2

/-- A call that draws on a sheet of one's own. -/
theorem draws_touch {c : Call α} {k : Touch} (hc : c.touch? = some (k, s)) (hk : k ≠ .creates)
    (hs : own s) : Draws own d { d with calls := d.calls.push c } := by
  refine draws_call fun k' t ht => ?_
  cases hc.symm.trans ht
  exact ⟨hk, hs⟩

/-- A call that creates the next sheet, which may be kept at once. -/
theorem draws_create {c : Call α} (hc : c.touch? = some (.creates, .made (d.made + 1)))
    (hcalls : d'.calls = d.calls.push c) (hmade : d'.made = d.made + 1)
    (hheld : ∀ s ∈ d'.held, s ∈ d.held ∨ s = .made (d.made + 1)) : Draws own d d' := by
  have hsince : d.since d' = [c] := since_eq (by simp [hcalls])
  have hlacks : d.Lacks (.made (d.made + 1)) := ⟨_, Nat.lt_succ_self _, rfl⟩
  have hkept (s : Sheet) (hs : s ∈ d'.held) : s ∈ d.held ∨ d.Lacks s := by
    rcases hheld s hs with hs | rfl
    · exact .inl hs
    · exact .inr hlacks
  refine ⟨by omega, hkept, ?_, ?_, ?_⟩ <;> simp only [hsince, List.mem_singleton]
  · simp [hcalls]
  · rintro _ rfl s hs
    rw [hc] at hs
    cases hs
    exact ⟨hlacks, _, by omega, rfl⟩
  · rintro _ rfl k s hs hk
    rw [hc] at hs
    cases hs
    exact absurd rfl hk

/-- Drawing on less is drawing on more. -/
theorem Draws.mono (h : Draws own d d') (hown : ∀ s, own s → own' s) : Draws own' d d' :=
  { h with writes := fun c hc k s hs hk => (h.writes c hc k s hs hk).imp_left (hown s) }

/-- A fresh sheet is one that was made in between. -/
theorem Draws.made_of_fresh (h : Draws own d d') (hs : d.Fresh d' s) : d'.Made s := by
  obtain ⟨-, c, hc, hcreates⟩ := hs
  exact (h.creates c hc s hcreates).2

/-- A new sheet was not there before. -/
theorem Draws.lacks_of_fresh (h : Draws own d d') (hs : d.Fresh d' s) : d.Lacks s := by
  obtain ⟨-, c, hc, hcreates⟩ := hs
  exact (h.creates c hc s hcreates).1

/-- What nothing keeps is not kept later, since only new sheets come to be kept. -/
theorem Draws.free (h : Draws own d d') (hs : d.Free s) : d'.Free s := by
  refine ⟨hs.1.mono h.made, fun hheld => ?_⟩
  rcases h.held s hheld with hold | hnew
  · exact hs.2 hold
  · exact hs.1.not_lacks hnew

/-- A fresh sheet may be drawn on: nobody else knows it. -/
theorem Draws.free_of_fresh (h : Draws own d d') (hs : d.Fresh d' s) : d'.Free s :=
  ⟨h.made_of_fresh hs, hs.1⟩

/-- The calls of two stretches of time are put one after the other. -/
theorem Draws.since_trans (h : Draws own d d') (h' : Draws own' d' d'') :
    d''.calls.toList = d.calls.toList ++ (d.since d' ++ d'.since d'') := by
  rw [h'.calls, h.calls, List.append_assoc]

/-- What is fresh at one moment is so at the next. -/
theorem Draws.fresh (h : Draws own d d') (h' : Draws own' d' d'') (hs : d.Fresh d' s) :
    d.Fresh d'' s := by
  refine ⟨(h'.free (h.free_of_fresh hs)).2, ?_⟩
  obtain ⟨-, c, hc, hcreates⟩ := hs
  rw [since_eq (h.since_trans h')]
  exact ⟨c, List.mem_append_left _ hc, hcreates⟩

/-- What was created and is free may be drawn on.  What the second part may draw on besides its
own is what the first part created; seen from the start, both are new. -/
theorem Draws.trans (h : Draws own d d') (h' : Draws (fun s => own s ∨ d.Fresh d' s) d' d'') :
    Draws own d d'' := by
  have hsince := since_eq (h.since_trans h')
  refine ⟨Nat.le_trans h.made h'.made, fun s hs => ?_, ?_, fun c hc s hs => ?_,
    fun c hc k s hs hk => ?_⟩
  · rcases h'.held s hs with hs | hs
    · exact h.held s hs
    · exact .inr (hs.mono h.made)
  · rw [hsince]
    exact h.since_trans h'
  · rw [hsince, List.mem_append] at hc
    rcases hc with hc | hc
    · obtain ⟨hlacks, hmade⟩ := h.creates c hc s hs
      exact ⟨hlacks, hmade.mono h'.made⟩
    · obtain ⟨hlacks, hmade⟩ := h'.creates c hc s hs
      exact ⟨hlacks.mono h.made, hmade⟩
  · rw [hsince, List.mem_append] at hc
    rcases hc with hc | hc
    · exact (h.writes c hc k s hs hk).imp_right (h.fresh h')
    · rcases h'.writes c hc k s hs hk with (hown | hfresh) | ⟨hheld, b, hb, hcreates⟩
      · exact .inl hown
      · exact .inr (h.fresh h' hfresh)
      · refine .inr ⟨hheld, b, ?_, hcreates⟩
        rw [hsince]
        exact List.mem_append_right _ hb

/-- By induction on the calls: none of them touches the sheet. -/
theorem foldl_paint_of_untouched {cs : List (Call α)} (h : ∀ c ∈ cs, ∀ k, c.touch? ≠ some (k, s))
    (v : Sheet → Picture α) : cs.foldl (fun v c => c.paint v) v s = v s := by
  induction cs generalizing v with
  | nil => rfl
  | cons c cs ih =>
    rw [List.foldl_cons, ih (fun b hb => h b (List.mem_cons_of_mem c hb)),
      Call.paint_of_untouched (h c List.mem_cons_self)]

/-- **Whatever was there and is not one's own looks the same.** -/
theorem Draws.view (h : Draws own d d') (hs : ¬ d.Lacks s) (hown : ¬ own s) :
    d'.view s = d.view s := by
  rw [Device.view, h.calls, List.foldl_append]
  refine foldl_paint_of_untouched (fun c hc k hk => ?_) _
  by_cases hcreates : k = .creates
  · subst hcreates
    exact hs (h.creates c hc s hk).1
  · rcases h.writes c hc k s hk hcreates with hs' | hfresh
    · exact hown hs'
    · exact hs (h.lacks_of_fresh hfresh)

end Draws

end Device

end Diorama
