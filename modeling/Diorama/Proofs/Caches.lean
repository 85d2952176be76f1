/-
# What is remembered does not show

A lettering remembers the typefaces that were loaded and the labels that were drawn, up to a limit at
which it drops all labels, and the device remembers the colours that could be read.  Neither shows in
what is written, measured or read.

For the letters this is said of a list of jobs that is done twice, once as it is and once by a
lettering that forgets everything before each job: at every point both return the same size, place
the same sight (`Act.Places`) and print the same.  Both are told from the job alone, by what is seen
of a line whichever labels are kept (`Device.yields_prepare`).
-/
import Diorama.Proofs.Sharing

namespace Diorama

open Act

variable {α : Type} [Host α]

/-! ## 1. What is placed

`Places` says how an act ends and what it places on which surface, in terms that do not mention
what is remembered; and that nothing else is drawn on what was there before. -/

namespace Act

/-- The act ends like `r`, and all that it draws on what was there is to place this sight, if any,
on this surface at the end. -/
def Places {β : Type} (x : Act (Device α) β) (d : Device α) (r : Except Fault β)
    (blit : Option (Surface × Sight α)) : Prop :=
  ∃ d', Device.Draws (fun _ => False) d d' ∧ d'.Ready ∧
    match blit with
    | none => x.run d = (r, d')
    | some (target, s) =>
      ∃ shown, d'.Shows shown s.toPanel ∧ x.run d = (r, d'.placed shown target s.spot)

/-- An act that begins by drawing nothing. -/
theorem Places.of_run_eq {β : Type} {x y : Act (Device α) β} {d d' : Device α} {r : Except Fault β}
    {blit : Option (Surface × Sight α)} (hy : y.Places d' r blit) (hrun : x.run d = y.run d')
    (hdraws : Device.Draws (fun _ => False) d d') : x.Places d r blit := by
  obtain ⟨d'', hdraws', hready, hends⟩ := hy
  refine ⟨d'', hdraws.trans (hdraws'.mono fun _ => False.elim), hready, ?_⟩
  rw [hrun]
  exact hends

end Act

namespace Device

/-- The sheet is there and is kept for nothing. -/
def Open (d : Device α) (s : Sheet) : Prop := ¬ d.Lacks s ∧ s ∉ d.held

omit [Host α] in
/-- A sheet that may be drawn on by anyone stays one. -/
theorem Draws.opens {own : Sheet → Prop} {d d' : Device α} {s : Sheet} (h : Draws own d d')
    (hs : d.Open s) : d'.Open s := by
  refine ⟨not_lacks_of_le h.made hs.1, fun hheld => ?_⟩
  rcases h.held s hheld with hold | hnew
  · exact hs.2 hold
  · exact hs.1 hnew

/-- A device stays ready when something is placed on what it does not keep. -/
theorem ready_of_places {β : Type} {x : Act (Device α) β} {d : Device α} {r : Except Fault β}
    {blit : Option (Surface × Sight α)} (h : x.Places d r blit)
    (hblit : ∀ target s, blit = some (target, s) → d.Open target.sheet) :
    (x.after d).Ready ∧ ∀ s, d.Open s → (x.after d).Open s := by
  obtain ⟨d', hdraws, hready, hrun⟩ := h
  cases blit with
  | none =>
    rw [after_eq_of_run hrun]
    exact ⟨hready, fun s => hdraws.opens⟩
  | some b =>
    obtain ⟨target, s⟩ := b
    obtain ⟨shown, -, hrun⟩ := hrun
    have hplaced : Draws (· = target.sheet) d' (d'.placed shown target s.spot) :=
      draws_touch rfl (by simp) rfl
    rw [after_eq_of_run hrun]
    refine ⟨hready.draws hplaced ?_ (fun _ hs => hs) (fun _ _ hp => hp) rfl,
      fun s hs => hplaced.opens (hdraws.opens hs)⟩
    rintro _ rfl
    exact (hdraws.opens (hblit target s rfl)).2

/-! ## 2. Jobs

A job is a label to be written.  A run of jobs is done twice, once with everything that is
remembered and once with everything forgotten before each job. -/

end Device

namespace Line

variable [Scalar α]

/-- The size of what is written. -/
def size (l : Line α) : Except Fault (Int × Int) :=
  l.sight.map fun
    | none => (0, 0)
    | some s => (s.width, s.height)

/-- What is placed to write a line. -/
def sight? (l : Line α) : Option (Sight α) :=
  match l.sight with
  | .ok s => s
  | .error _ => none

end Line

namespace Device

/-- What a lettering is asked to do. -/
inductive Job (α : Type) where
  | draw (target : Surface) (l : Line α)
  | measure (text font : String)

namespace Job

variable [Scalar α]

/-- The size that a job returns. -/
def size : Job α → Except Fault (Int × Int)
  | .draw _ l => l.size
  | .measure text font => Typeface.measured α text font

/-- What is placed, and on which surface. -/
def blit? : Job α → Option (Surface × Sight α)
  | .draw target l => l.sight?.map fun s => (target, s)
  | .measure _ _ => none

/-- The lines printed after a job, by those printed before. -/
def said : Job α → Log → Log
  | .draw _ l, log =>
    if l.text == "" || Scalar.le l.alpha 0.0 then log else (Typeface.read α l.font).after log
  | .measure _ font, log => (Typeface.read α font).after log

/-- A lettering does a job. -/
def act (o : Lettering.Owner) : Job α → Act (Device α) (Int × Int)
  | .draw target l => Device.write o target l
  | .measure text font => Device.measure o text font

end Job

/-- A lettering forgets all typefaces and labels. -/
def forget (o : Lettering.Owner) : Act (Device α) Unit :=
  modify fun d => setLettering o { d.lettering o with faces := [], labels := [] } d

/-- A lettering does a job anew. -/
def Job.anew [Scalar α] (o : Lettering.Owner) (j : Job α) : Act (Device α) (Int × Int) := do
  forget o
  j.act o

/-- The device after jobs were done one way or the other, each whatever became of those before. -/
def doneBy (how : Job α → Act (Device α) (Int × Int)) (jobs : List (Job α)) (d : Device α) :
    Device α :=
  jobs.foldl (fun d j => (how j).after d) d

variable [Scalar α] {d : Device α}

/-- A job of writing places its line and tells its size, whatever labels are kept.  Writing is
preparing and, if there is something to place, placing it; preparing is known to yield the sight
of the line. -/
theorem places_write (hd : d.Ready) (o : Lettering.Owner) (target : Surface) (l : Line α) :
    (write o target l).Places d l.size (l.sight?.map fun s => (target, s)) := by
  obtain ⟨hdraws, hready, hends⟩ := yields_prepare o l hd fun _ => False.elim
  refine ⟨_, hdraws, hready, ?_⟩
  rw [write_eq]
  unfold Line.size Line.sight?
  cases hrun : (prepare o l).run d with
  | mk q d' =>
    rw [hrun, after_eq_of_run hrun] at hends
    rw [after_eq_of_run hrun]
    generalize l.sight = r at hends
    cases hends with
    | error e => exact run_bind_of_error hrun
    | ok hrel =>
      rw [run_bind_of_ok hrun]
      cases hrel with
      | none => rfl
      | @some s p hp =>
        obtain ⟨shown, spot, size⟩ := p
        obtain ⟨hshown, hspot⟩ := hp
        cases hspot
        exact ⟨shown, hshown, run_bind_of_ok (run_ask hd.obliging _ _)⟩

/-- A job of measuring places nothing. -/
theorem places_measure (hd : d.Ready) (o : Lettering.Owner) (text font : String) :
    (measure o text font).Places d (Typeface.measured α text font) none := by
  obtain ⟨hdraws, hready, hends⟩ := yields_measure o text font hd fun _ => False.elim
  refine ⟨_, hdraws, hready, Prod.ext ?_ rfl⟩
  generalize Typeface.measured α text font = r at hends
  generalize ((measure o text font).run d).1 = q at hends
  cases hends with
  | error e => rfl
  | ok heq => rw [heq]

/-- **A job returns a size and places a sight that are told from it alone.** -/
theorem places_act (hd : d.Ready) (o : Lettering.Owner) (j : Job α) :
    (j.act o).Places d j.size j.blit? := by
  cases j with
  | draw target l => exact places_write hd o target l
  | measure text font => exact places_measure hd o text font

/-- A lettering that forgets everything first places the same. -/
theorem places_anew (hd : d.Ready) (o : Lettering.Owner) (j : Job α) :
    (j.anew o).Places d j.size j.blit? := by
  obtain ⟨hforget, hready⟩ : Draws (fun _ => False) d ((forget o).after d) ∧ _ :=
    hd.setLettering (List.forall_mem_nil _)
  exact (places_act hready o j).of_run_eq rfl hforget

/-! ## 3. The limit and the log

Beside what is placed two things change: the log, which gets the lines about a typeface that
cannot be read, and the labels that are kept, of which there are never more than the limit. -/

/-- Nothing is printed, and a lettering keeps the same labels as before. -/
structure Steady (o : Lettering.Owner) (d d' : Device α) : Prop where
  log : d'.log = d.log
  limit : (d'.lettering o).limit = (d.lettering o).limit
  labels : (d'.lettering o).labels = (d.lettering o).labels

/-- The labels of a lettering do not exceed its limit, which lets it keep at least one. -/
def Within (o : Lettering.Owner) (d : Device α) : Prop :=
  ((d.lettering o).labels.length : Int) ≤ max 1 (d.lettering o).limit

/-- Nothing is printed, and the labels of a lettering stay within its limit. -/
structure Careful (o : Lettering.Owner) (d d' : Device α) : Prop where
  log : d'.log = d.log
  limit : (d'.lettering o).limit = (d.lettering o).limit
  within : d.Within o → d'.Within o

section Careful

variable {o : Lettering.Owner}

omit [Scalar α] [Host α] in
/-- To keep what is kept is to keep to the limit. -/
theorem Steady.careful {d' : Device α} (h : Steady o d d') : Careful o d d' := by
  refine ⟨h.log, h.limit, fun hd => ?_⟩
  unfold Within
  rw [h.labels, h.limit]
  exact hd

omit [Scalar α] in
instance : IsPreorder (Device α) (Steady o) where
  refl _ := ⟨rfl, rfl, rfl⟩
  trans _ _ _ h h' :=
    ⟨h'.log.trans h.log, h'.limit.trans h.limit, h'.labels.trans h.labels⟩

omit [Scalar α] in
instance : IsPreorder (Device α) (Careful o) where
  refl _ := ⟨rfl, rfl, id⟩
  trans _ _ _ h h' := ⟨h'.log.trans h.log, h'.limit.trans h.limit, h'.within ∘ h.within⟩

omit [Scalar α] [Host α] in
/-- A call keeps no label. -/
theorem steady_call (c : Call α) : (call c).Moves (Steady o) :=
  fun _ => ⟨rfl, by cases o <;> rfl, by cases o <;> rfl⟩

omit [Scalar α] in
theorem steady_create (c : Sheet → Call α) : (create c).Moves (Steady o) :=
  moves_create fun _ => ⟨rfl, by cases o <;> rfl, by cases o <;> rfl⟩

omit [Scalar α] in
/-- A new surface is the result of a single call. -/
theorem steady_new {c : Sheet → Call α} {s : Sheet → Surface} :
    (do
      let sheet ← create c
      return s sheet : Act (Device α) Surface).Moves (Steady o) :=
  moves_bind (steady_create c) fun _ => moves_pure _

omit [Scalar α] in
/-- To load a typeface keeps no label. -/
theorem steady_useFace (t : Typeface) : (useFace o t : Act (Device α) Unit).Moves (Steady o) := by
  intro d
  change Steady o d (Act.after (if t ∉ (d.lettering o).faces then _ else _) d)
  unfold loadFont
  split
  · rcases run_ask_cases (.loadFont t.family t.size t.bold t.italic) d with ⟨fault, hrun⟩ | hrun
    · rw [after_bind_of_error hrun]
      exact refl d
    · rw [after_bind_of_ok hrun]
      cases o <;> exact ⟨rfl, rfl, rfl⟩
  · exact refl d

omit [Scalar α] [Host α] in
/-- A label that is kept is one more. -/
theorem within_of_kept {d' : Device α} {key : String × Typeface × (Int × Int × Int)} {s : Surface}
    (h : Steady o d d')
    (hroom : ((d.lettering o).labels.length : Int) + 1 ≤ max 1 (d.lettering o).limit) :
    Careful o d (setLettering o
      { d'.lettering o with labels := (key, s) :: (d'.lettering o).labels } d') := by
  refine ⟨?_, ?_, fun _ => ?_⟩
  · exact Eq.trans (by cases o <;> rfl) h.log
  · rw [lettering_setLettering, if_pos rfl]
    exact h.limit
  · unfold Within
    rw [lettering_setLettering, if_pos rfl, h.labels, h.limit, List.length_cons]
    exact_mod_cast hroom

omit [Scalar α] in
/-- **All labels are dropped before there would be too many.** If the cache is full it is emptied
first, so there is room for one more label in either case; what is created does not touch the
cache itself. -/
theorem careful_keptLabel (text : String) (t : Typeface) (rgb : Int × Int × Int) :
    (keptLabel o text t rgb : Act (Device α) Surface).Moves (Careful o) := by
  -- A new label, when there is room for one more.
  have hnew (d : Device α)
      (hroom : ((d.lettering o).labels.length : Int) + 1 ≤ max 1 (d.lettering o).limit) :
      Careful o d (Act.after (do
        useFace o t
        let s ← label t text rgb
        modify fun d =>
          let l := d.lettering o
          setLettering o { l with labels := ((text, t, rgb), s) :: l.labels } d
        return s : Act (Device α) Surface) d) := by
    refine after_bind_cases (steady_useFace t d).careful fun _ d₁ hface => ?_
    have hface : Steady o d d₁ := after_eq_of_run hface ▸ steady_useFace t d
    have hlabel : Steady o d₁ ((label t text rgb : Act (Device α) Surface).after d₁) :=
      steady_new d₁
    refine after_bind_cases (Trans.trans hface hlabel).careful fun s d₂ hrun => ?_
    exact within_of_kept (Trans.trans hface (after_eq_of_run hrun ▸ hlabel)) hroom
  intro d
  unfold keptLabel
  rw [after_bind_of_ok (run_get d)]
  dsimp only
  split
  · exact refl d
  · by_cases hfull : (d.lettering o).limit ≤ ((d.lettering o).labels.length : Int)
    · have hdropped : Careful o d (setLettering o { d.lettering o with labels := [] } d) := by
        refine ⟨by cases o <;> rfl, ?_, fun _ => ?_⟩
        · rw [lettering_setLettering, if_pos rfl]
        · unfold Within
          rw [lettering_setLettering, if_pos rfl, List.length_nil]
          omega
      rw [if_pos hfull]
      refine Trans.trans hdropped (hnew _ ?_)
      rw [lettering_setLettering, if_pos rfl, List.length_nil]
      omega
    · rw [if_neg hfull]
      exact hnew d (by omega)

theorem steady_stretchLabel (s : Surface) (scaleX scaleY : α) :
    (stretchLabel s scaleX scaleY).Moves (Steady o) := by
  unfold stretchLabel
  exact moves_ite (moves_pure _) (moves_bind (moves_ofExcept _) fun _ =>
    moves_bind (moves_ofExcept _) fun _ => moves_ite (moves_pure _)
      (moves_bind steady_new fun _ => moves_pure _))

omit [Scalar α] in
/-- A faded copy is not kept. -/
theorem steady_faded (s : Surface) (opacity : Int) :
    (faded s opacity : Act (Device α) Surface).Moves (Steady o) :=
  moves_ite (moves_bind steady_new fun _ =>
    moves_bind (moves_ask (steady_call _)) fun _ => moves_pure _)
    (moves_pure _)

omit [Host α] in
/-- What is printed while a typeface is read is told from how it is spelled. -/
theorem careful_read_bind {β : Type} (font : String) {f : Typeface → Act (Device α) β}
    (hf : ∀ t, (f t).Moves (Careful o)) :
    Careful o { d with log := (Typeface.read α font).after d.log }
      ((liftM (Typeface.read α font) >>= f).after d) := by
  have hread : (liftM (Typeface.read α font) : Act (Device α) Typeface).run d =
      (((Typeface.read α font).run d.log).1,
        { d with log := (Typeface.read α font).after d.log }) := rfl
  cases hr : ((Typeface.read α font).run d.log).1 with
  | error e =>
    rw [hr] at hread
    rw [after_bind_of_error hread]
    exact refl _
  | ok t =>
    rw [hr] at hread
    rw [after_bind_of_ok hread]
    exact hf t _

/-- What is printed by a job is told from it and from what was printed before. -/
theorem careful_act (o : Lettering.Owner) (j : Job α) :
    Careful o { d with log := j.said d.log } ((j.act o).after d) := by
  cases j with
  | draw target l =>
    unfold Job.said Job.act write
    dsimp only
    split
    · exact refl d
    · refine careful_read_bind l.font fun t => moves_bind (careful_keptLabel _ _ _) fun s =>
        moves_bind ((steady_stretchLabel s _ _).mono fun _ _ => Steady.careful) fun stretched => ?_
      cases stretched with
      | none => exact moves_pure _
      | some s =>
        exact Moves.mono (moves_bind (moves_ofExcept _) fun _ => moves_bind (steady_faded s _)
          fun _ => moves_bind (moves_ofExcept _) fun _ => moves_bind (moves_ofExcept _) fun _ =>
            moves_bind (moves_ask (steady_call _)) fun _ => moves_pure _) fun _ _ => Steady.careful
  | measure text font =>
    exact careful_read_bind font fun t => Moves.mono (moves_bind (steady_useFace t) fun _ =>
      moves_bind (moves_permit _) fun _ => moves_pure _) fun _ _ => Steady.careful

end Careful

/-! ## 4. Lists of jobs

The two letterings are not compared directly.  Each of them is compared with the job, so that what
they do is the same without a relation between two devices. -/

/-- What a job is drawn on is there and kept for nothing. -/
def Job.Fair (d : Device α) : Job α → Prop
  | .draw target _ => d.Open target.sheet
  | .measure _ _ => True

omit [Scalar α] [Host α] in
/-- A fair job stays fair when sheets are added. -/
theorem Job.Fair.mono {d' : Device α} (h : ∀ s, d.Open s → d'.Open s) {j : Job α} (hj : j.Fair d) :
    j.Fair d' := by
  cases j with
  | draw target l => exact h _ hj
  | measure text font => trivial

theorem Job.Fair.open_blit {j : Job α} (hj : j.Fair d) (target : Surface) (s : Sight α)
    (h : j.blit? = some (target, s)) : d.Open target.sheet := by
  cases j with
  | draw target' l =>
    obtain ⟨s', -, hs'⟩ := Option.map_eq_some_iff.1 h
    cases hs'
    exact hj
  | measure text font => cases h

/-- Jobs that are fair leave a device ready, in whichever way they are done. -/
theorem ready_doneBy {how : Job α → Act (Device α) (Int × Int)}
    (hhow : ∀ {d : Device α} (j : Job α), d.Ready → (how j).Places d j.size j.blit?)
    {jobs : List (Job α)} (hd : d.Ready) (hjobs : ∀ j ∈ jobs, j.Fair d) :
    (doneBy how jobs d).Ready := by
  induction jobs generalizing d with
  | nil => exact hd
  | cons j jobs ih =>
    obtain ⟨hready, hopen⟩ := ready_of_places (hhow j hd) (hjobs j List.mem_cons_self).open_blit
    exact ih hready fun j' hj' => (hjobs j' (List.mem_cons_of_mem _ hj')).mono hopen

omit [Host α] in
/-- What is printed by jobs is told from them and from what was printed before. -/
theorem log_doneBy {how : Job α → Act (Device α) (Int × Int)}
    (hhow : ∀ (d : Device α) (j : Job α), ((how j).after d).log = j.said d.log)
    (jobs : List (Job α)) (d : Device α) :
    (doneBy how jobs d).log = jobs.foldl (fun log j => j.said log) d.log := by
  induction jobs generalizing d with
  | nil => rfl
  | cons j jobs ih =>
    exact (ih ((how j).after d)).trans (by rw [hhow, List.foldl_cons])

/-- What a job prints is told from the job. -/
theorem log_act (o : Lettering.Owner) (d : Device α) (j : Job α) :
    ((j.act o).after d).log = j.said d.log := (careful_act o j).log

/-- A lettering that forgets everything first prints the same. -/
theorem log_anew (o : Lettering.Owner) (d : Device α) (j : Job α) :
    ((j.anew o).after d).log = j.said d.log := by
  have hforget : ((forget o).after d).log = d.log := by cases o <;> rfl
  exact (log_act o ((forget o).after d) j).trans (by rw [hforget])

/-- By induction on the jobs: the limit is never passed. -/
theorem within_doneBy (o : Lettering.Owner) (jobs : List (Job α)) (hd : d.Within o) :
    ((doneBy (Job.act o) jobs d).lettering o).limit = (d.lettering o).limit ∧
      (doneBy (Job.act o) jobs d).Within o := by
  induction jobs generalizing d with
  | nil => exact ⟨rfl, hd⟩
  | cons j jobs ih =>
    have hone := careful_act (d := d) o j
    have hsame : ({ d with log := j.said d.log } : Device α).lettering o = d.lettering o := by
      cases o <;> rfl
    obtain ⟨hlimit, hwithin⟩ := ih (hone.within (by unfold Within; rw [hsame]; exact hd))
    exact ⟨hlimit.trans (hone.limit.trans (by rw [hsame])), hwithin⟩

/-! ## 5. Colours

Colours are remembered by their spelling.  Only those that could be read are kept, and a host that
is asked again says the same, so nothing is gained or lost. -/

/-- Every colour that is remembered is the one that its text spells. -/
def Truthful (α : Type) [Host α] (colors : List (String × Color)) : Prop :=
  ∀ s c, colors.lookup s = some c → Color.ofText? α s = some c

/-- The colour whose channels a value lists. -/
def readParts (default : Color) (v : Value α) : Act Log Color := do
  match ← Act.ofExcept (Color.ofParts? v) with
  | some c => return c
  | none => rejectColor v default

/-- The colour of a value, read anew. -/
def readColor (default : Color) : Choice α Color → Act Log Color
  | .member c => pure c
  | .value .null => pure default
  | .value (.text s) =>
    match Color.ofText? α s with
    | some c => pure c
    | none => rejectColor (.text s : Value α) default
  | .value v => readParts default v

omit [Scalar α] in
/-- Asking for a colour gives what the host says, and may add it to those remembered. -/
theorem run_colorOfText (hd : Truthful α d.colors) (s : String) :
    ∃ colors, Truthful α colors ∧
      (colorOfText? s).run d = (.ok (Color.ofText? α s), { d with colors }) := by
  unfold colorOfText?
  rw [run_bind_of_ok (run_get d)]
  cases hlookup : d.colors.lookup s with
  | some c => exact ⟨d.colors, hd, by rw [hd s c hlookup]; rfl⟩
  | none =>
    cases hc : Color.ofText? α s with
    | none => exact ⟨d.colors, hd, rfl⟩
    | some c =>
      refine ⟨(s, c) :: d.colors, fun s' c' h => ?_, rfl⟩
      rw [List.lookup_cons] at h
      split at h
      · next heq => rw [eq_of_beq heq, hc, h]
      · exact hd s' c' h

omit [Host α] in
/-- What lists channels is worked out without asking the host. -/
theorem run_parts (default : Color) (v : Value α) : (do
    match ← Act.ofExcept (Color.ofParts? v) with
    | some c => return c
    | none => rejectColor v default : Act (Device α) Color).run d =
      (((readParts default v).run d.log).1,
        { d with log := (readParts default v).after d.log }) := by
  unfold readParts
  cases Color.ofParts? v with
  | error e => rfl
  | ok c => cases c <;> rfl

/-- **A colour is read as if none were remembered**, and what is then remembered is true. -/
theorem run_color (hd : Truthful α d.colors) (default : Color) (c : Choice α Color) :
    ∃ colors, Truthful α colors ∧ (color default c).run d =
      (((readColor default c).run d.log).1,
        { d with log := (readColor default c).after d.log, colors }) := by
  cases c with
  | member c => exact ⟨d.colors, hd, rfl⟩
  | value v =>
    cases v with
    | null => exact ⟨d.colors, hd, rfl⟩
    | text s =>
      obtain ⟨colors, htrue, hrun⟩ := run_colorOfText hd s
      refine ⟨colors, htrue, ?_⟩
      unfold color readColor
      dsimp only
      rw [run_bind_of_ok hrun]
      cases Color.ofText? α s <;> rfl
    | _ => exact ⟨d.colors, hd, run_parts default _⟩

/-- The device after colours were asked for, each with a default. -/
def asked (qs : List (Color × Choice α Color)) (d : Device α) : Device α :=
  qs.foldl (fun d q => (color q.1 q.2).after d) d

/-- By induction on the colours that were asked for. -/
theorem truthful_asked (qs : List (Color × Choice α Color)) (hd : Truthful α d.colors) :
    Truthful α (asked qs d).colors := by
  induction qs generalizing d with
  | nil => exact hd
  | cons q qs ih =>
    obtain ⟨colors, htrue, hrun⟩ := run_color hd q.1 q.2
    have hafter : Truthful α ((color q.1 q.2).after d).colors := by
      rw [after_eq_of_run hrun]
      exact htrue
    exact ih hafter

/-! ## 6. Nothing that is remembered shows

The theorem, for every list of jobs and every memory that came about by jobs. -/

/-- **What is remembered does not show, and is bounded.**

A lettering that keeps no labels yet does jobs, of which those that draw do so on what is there and
kept for nothing.  At every point the next job, whatever it is, returns the same size, places the
same sight (a label of a text in a typeface and colour, stretched and faded) and prints the same as
when the lettering forgets all labels and typefaces before each job: both are told from the job.
Every label that is kept shows the text of its key in the typeface and colour of its key, and there
are never more than the limit, or one if the limit is less.

A device that remembers no colours is asked for some, with any defaults.  At every point the next
colour is read like, and the same is printed as, with no colours remembered. -/
theorem remembered_unseen :
    (∀ (o : Lettering.Owner) (limit : Int) (d : Device α) (jobs : List (Job α)) (j : Job α),
      d.Ready → (d.lettering o).limit = limit → (d.lettering o).labels = [] →
      (∀ j' ∈ jobs, j'.Fair d) →
      let d₁ := doneBy (Job.act o) jobs d
      let d₂ := doneBy (Job.anew o) jobs d
      ((j.act o).Places d₁ j.size j.blit? ∧ (j.anew o).Places d₂ j.size j.blit? ∧
        ((j.act o).after d₁).log = ((j.anew o).after d₂).log) ∧
      (∀ p ∈ (d₁.lettering o).labels, d₁.Shows p.2 (.label p.1.1 p.1.2.1 p.1.2.2)) ∧
      ((d₁.lettering o).labels.length : Int) ≤ max 1 limit) ∧
    ∀ (d : Device α) (qs : List (Color × Choice α Color)) (default : Color) (c : Choice α Color),
      d.colors = [] →
      let d₁ := asked qs d
      ((color default c).run d₁).1 = ((color default c).run { d₁ with colors := [] }).1 ∧
      ((color default c).after d₁).log = ((color default c).after { d₁ with colors := [] }).log := by
  refine ⟨fun o limit d jobs j hd hlimit hlabels hjobs => ?_, fun d qs default c hcolors => ?_⟩
  · have hready₁ := ready_doneBy (fun {d} j hd => places_act (d := d) hd o j) hd hjobs
    have hready₂ := ready_doneBy (fun {d} j hd => places_anew (d := d) hd o j) hd hjobs
    have hwithin : d.Within o := by
      unfold Within
      rw [hlabels, List.length_nil]
      omega
    obtain ⟨hsame, hbound⟩ := within_doneBy o jobs hwithin
    refine ⟨⟨places_act hready₁ o j, places_anew hready₂ o j, ?_⟩, hready₁.labels o, ?_⟩
    · rw [log_act, log_anew, log_doneBy (log_act o), log_doneBy (log_anew o)]
    · unfold Within at hbound
      rw [hsame, hlimit] at hbound
      exact hbound
  · have htrue := truthful_asked qs (d := d) (by rw [hcolors]; exact nofun)
    obtain ⟨_, -, hrun⟩ := run_color htrue default c
    obtain ⟨_, -, hempty⟩ := run_color (d := { asked qs d with colors := [] }) nofun default c
    dsimp only
    rw [after_eq_of_run hrun, after_eq_of_run hempty, hrun, hempty]
    exact ⟨rfl, rfl⟩

/-! A lettering that may keep no label writes two signs and then the first again. -/

def desk : Device Rat where
  frameRate := 60
  chances _ := 0
  everyoneLettering := { limit := 0 }

def sign (text : String) : Job Rat :=
  .draw ⟨.canvas, 1080, 1920, 32⟩
    { text, x := 0, y := 0, opacity := 255, alpha := 1, scaleX := 1, scaleY := 1 }

theorem size_sign : letI := Scalar.exact (fun x => x) 57
    letI : Host Rat := .recording
    (sign "left").size.toOption = some (96, 60) := by
  decide +kernel

/-- The first sign is written as at first, though its label was dropped.  The cache has room for
one label, so the second sign has driven out the first. -/
theorem remembered_unseen_signs : letI := Scalar.exact (fun x => x) 57
    letI : Host Rat := .recording
    let d := doneBy (Job.act .everyone) [sign "left", sign "right"] desk
    let red : Choice Rat Color := .value (.text "#f00")
    ((sign "left").act .everyone).Places d (.ok (96, 60)) (sign "left").blit? ∧
      ((d.lettering .everyone).labels.length : Int) ≤ 1 ∧
      ((color .white red).run (asked [(.white, red)] desk)).1 =
        ((color .white red).run { asked [(.white, red)] desk with colors := [] }).1 := by
  let _ := Scalar.exact (fun x => x) 57
  let _ : Host Rat := .recording
  intro d red
  obtain ⟨hlabels, hcolors⟩ := remembered_unseen (α := Rat)
  have hready : desk.Ready :=
    ready_of_empty Host.obliging_recording rfl (fun o => by cases o <;> rfl) rfl
  have hfair (text : String) : (sign text).Fair desk := by
    refine ⟨?_, by simp [held, desk, lettering]⟩
    rintro ⟨n, -, h⟩
    cases h
  obtain ⟨⟨hplaces, -, -⟩, -, hbound⟩ := hlabels .everyone 0 desk [sign "left", sign "right"]
    (sign "left") hready rfl rfl (by simp [hfair])
  obtain ⟨hcolor, -⟩ := hcolors desk [(.white, red)] .white red rfl
  refine ⟨?_, hbound, hcolor⟩
  rw [← eq_ok_of_toOption size_sign]
  exact hplaces

end Device

end Diorama
