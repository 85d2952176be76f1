/-
# The hooks of a scene

A scene may have any of the hooks.  Those that it has are called in a fixed order: it is bound to
the engine, enters, places what it shows, is updated any number of times, and leaves; and then it
may come again.  This is its `Life`, and how far it has come in it is a `Phase`.

Scenes do not overlap: a hook of a scene is called only while all others are away (`Orderly`).  The
director is followed through the parts of a change of scenes, each of which takes one scene one
phase further (`Follows.call`, `Follows.skip`).  A change can also be asked for in the middle of an
update, when the scene that asks is there; it is the same change.

Only witnesses tell of the hooks that are called, so all this is shown of a company of witnesses.
-/
import Diorama.Proofs.World.Turns

namespace Diorama

open Act

variable {α : Type}

namespace World

/-! ## 1. The life of a scene

The order of the hooks is a matter of each scene by itself, and `Life` says what its part of the
notes looks like at each phase.  That scenes do not overlap is a matter of all of them: before
each note every other scene was away. -/

/-- How far a scene has come since it was away. -/
inductive Phase where
  | away | bound | entered | on
  deriving Repr, DecidableEq

/-- The hooks of a scene that has come as far as that, the last time of any number of times. -/
inductive Life : Phase → List Hook → Prop where
  | new : Life .away []
  | bind {hs : List Hook} (h : Life .away hs) : Life .bound (hs ++ [.bind])
  | enter {hs : List Hook} (h : Life .bound hs) : Life .entered (hs ++ [.enter])
  | populate {hs : List Hook} (h : Life .entered hs) : Life .on (hs ++ [.populate])
  | update {hs : List Hook} (h : Life .on hs) : Life .on (hs ++ [.update])
  | leave {hs : List Hook} (h : Life .on hs) : Life .away (hs ++ [.leave])

/-- The hooks of the scene `n` among those of all scenes. -/
def hooksOf (n : Nat) (t : List (Nat × Hook)) : List Hook := (t.filter (·.1 == n)).map (·.2)

theorem hooksOf_concat (n k : Nat) (hook : Hook) (t : List (Nat × Hook)) :
    hooksOf k (t ++ [(n, hook)]) = if n = k then hooksOf k t ++ [hook] else hooksOf k t := by
  unfold hooksOf
  rw [List.filter_append, List.map_append]
  split
  · next h => rw [List.filter_cons_of_pos (by simp [h]), List.filter_nil, List.map_singleton]
  · next h =>
    rw [List.filter_cons_of_neg (by simp [h]), List.filter_nil, List.map_nil, List.append_nil]

/-- The scene `n` has come to a phase, and all others are away.  So it was at every call of a
hook. -/
structure Orderly (n : Nat) (m : Phase) (t : List (Nat × Hook)) : Prop where
  own : Life m (hooksOf n t)
  others : ∀ k, k ≠ n → Life .away (hooksOf k t)
  alone : ∀ a k hook b, t = a ++ (k, hook) :: b → ∀ j, j ≠ k → Life .away (hooksOf j a)

theorem Orderly.nil (n : Nat) : Orderly n .away [] where
  own := .new
  others _ _ := .new
  alone a k hook b h := by simp at h

/-- When nobody is there it does not matter whom one looks at. -/
theorem Orderly.away {n : Nat} {t : List (Nat × Hook)} (h : Orderly n .away t) (k : Nat) :
    Orderly k .away t := by
  have hall (j : Nat) : Life .away (hooksOf j t) := by
    by_cases hj : j = n
    · rw [hj]
      exact h.own
    · exact h.others j hj
  exact ⟨hall k, fun j _ => hall j, h.alone⟩

/-- The scene that is there comes one phase further. -/
theorem Orderly.concat {n : Nat} {m m' : Phase} {t : List (Nat × Hook)} {hook : Hook}
    (h : Orderly n m t) (hlife : ∀ hs, Life m hs → Life m' (hs ++ [hook])) :
    Orderly n m' (t ++ [(n, hook)]) where
  own := by
    rw [hooksOf_concat, if_pos rfl]
    exact hlife _ h.own
  others k hk := by
    rw [hooksOf_concat, if_neg (Ne.symm hk)]
    exact h.others k hk
  alone a k hook' b heq j hj := by
    rcases List.eq_nil_or_concat b with rfl | ⟨b, last, rfl⟩
    · obtain ⟨rfl, hlast⟩ := List.append_inj' heq rfl
      cases hlast
      exact h.others j hj
    · rw [List.concat_eq_append, ← List.cons_append, ← List.append_assoc] at heq
      exact h.alone a k hook' b (List.append_inj' heq rfl).1 j hj

/-! ## 2. A company of witnesses

The condition on the scenes under which the rest is shown.  A witness may wish for changes, in the
middle of its own update too; these have to lead to scenes that exist, and that is all that is
asked of them. -/

/-- All scenes are witnesses, and those that are registered, shown or asked for exist. -/
structure Company (w : World α) : Prop where
  canvas : w.hasPart .compositor = true
  witnesses : ∀ (n : Nat) (s : Scene α), w.scenes[n]? = some s → ∃ r, s.role = .witness r ∧
    ∀ m, .change (some m) ∈ r.wishes → m < w.scenes.size
  registered : ∀ (name : String) (n : Nat), w.registry.lookup name = some n → n < w.scenes.size
  shown : ∀ n, w.current = some n → n < w.scenes.size

/-- The name of the scene `n`. -/
def nameAt (w : World α) (n : Nat) : String := (w.scenes[n]?.map (·.name)).getD ""

/-- Whether the scene `n` has a hook. -/
def hasAt (w : World α) (n : Nat) (hook : Hook) : Bool := w.scenes[n]?.any (·.has hook)

theorem Company.offDepot {w v : World α} (h : w.Company) (hv : w.OffDepot v) : v.Company := by
  rw [hv]
  exact ⟨h.canvas, h.witnesses, h.registered, h.shown⟩

/-- A company stays one when a scene changes, as long as it asks for nothing new. -/
theorem Company.modifyScene {w : World α} (h : w.Company) (n : Nat) {f : Scene α → Scene α}
    (hf : ∀ (s : Scene α) r, w.scenes[n]? = some s → s.role = .witness r →
      ∃ r', (f s).role = .witness r' ∧ ∀ wish ∈ r'.wishes, wish ∈ r.wishes) :
    ({ w with scenes := w.scenes.modify n f } : World α).Company where
  canvas := h.canvas
  witnesses m s hs := by
    rw [Array.getElem?_modify] at hs
    split at hs
    · next hnm =>
      subst hnm
      obtain ⟨s', hs', rfl⟩ := Option.map_eq_some_iff.1 hs
      obtain ⟨r, hr, hwishes⟩ := h.witnesses n s' hs'
      obtain ⟨r', hr', hsub⟩ := hf s' r hs' hr
      exact ⟨r', hr', fun m hm =>
        Nat.lt_of_lt_of_eq (hwishes m (hsub _ hm)) Array.size_modify.symm⟩
    · rw [Array.size_modify]
      exact h.witnesses m s hs
  registered name m hm := Nat.lt_of_lt_of_eq (h.registered name m hm) Array.size_modify.symm
  shown m hm := Nat.lt_of_lt_of_eq (h.shown m hm) Array.size_modify.symm

/-- The members of a company keep their names and hooks. -/
theorem Ages.member {start w : World α} (h : start.Ages w) {n : Nat} (hn : n < start.scenes.size) :
    ∃ s, w.scenes[n]? = some s ∧ s.name = start.nameAt n ∧
      ∀ hook, s.has hook = start.hasAt n hook := by
  obtain ⟨t, ht, hst⟩ := h.scenes n _ (Array.getElem?_eq_getElem hn)
  refine ⟨t, ht, ?_, fun hook => ?_⟩
  · rw [hst.name, nameAt, Array.getElem?_eq_getElem hn]
    rfl
  · unfold hasAt
    rw [Array.getElem?_eq_getElem hn, Option.any_some]
    have hrole := hst.role
    unfold Scene.has
    generalize start.scenes[n].role = a at hrole
    generalize t.role = b at hrole
    cases hrole with
    | witness hooks =>
      dsimp only
      rw [hooks]
    | _ => rfl

/-! ## 3. What the witnesses note

A witness notes its hooks on the device, so the notes are a part of what the device was asked
for.  `Follows` ties the two together: the notes so far are those of a run in which the scene `n`
has come as far as the phase `m`. -/

/-- What a witness notes: which hook was called, how much the layers held, how much time passed. -/
structure Note (α : Type) where
  scene : Nat
  hook : Hook
  held : Option Nat
  dt : Option α

/-- The scene and its hook. -/
def Note.key (c : Note α) : Nat × Hook := (c.scene, c.hook)

/-- A note as it reaches the device. -/
def Note.call (start : World α) (c : Note α) : Call α :=
  .called (start.nameAt c.scene) c.hook c.held c.dt

/-- Before it shows something a scene sees empty layers, if it is bound to the engine. -/
def Note.SeesNothing (start : World α) (c : Note α) : Prop :=
  c.hook = .enter ∨ c.hook = .populate →
    c.held = some 0 ∨ c.held = none ∧ start.hasAt c.scene .bind = false

/-- The scene `n` of a company has come to a phase, all others are away, and the hooks that were
called since the start were noted by the scenes that have them. -/
structure Follows (start : World α) (n : Nat) (m : Phase) (w : World α) : Prop where
  company : w.Company
  ages : start.Ages w
  noted : ∃ (t : List (Nat × Hook)) (notes : List (Note α)), Orderly n m t ∧
    notes.map Note.key = t.filter (fun p => start.hasAt p.1 p.2) ∧
    w.depot.device.calls = start.depot.device.calls ++ (notes.map (Note.call start)).toArray ∧
    ∀ c ∈ notes, c.SeesNothing start

namespace Follows

variable {start w v : World α} {n : Nat} {m m' : Phase} {hook : Hook}

theorem away (h : Follows start n .away w) (k : Nat) : Follows start k .away w := by
  obtain ⟨t, notes, horderly, hnotes⟩ := h.noted
  exact ⟨h.company, h.ages, t, notes, horderly.away k, hnotes⟩

/-- Nothing is noted. -/
theorem silent (h : Follows start n m w) (hcompany : v.Company) (hages : w.Ages v)
    (hcalls : v.depot.device.calls = w.depot.device.calls) : Follows start n m v := by
  obtain ⟨t, notes, hnotes⟩ := h.noted
  exact ⟨hcompany, h.ages.trans hages, t, notes, by rwa [hcalls]⟩

/-- A scene that does not have the hook goes on without it. -/
theorem skip (h : Follows start n m w) (hlife : ∀ hs, Life m hs → Life m' (hs ++ [hook]))
    (hhas : start.hasAt n hook = false) : Follows start n m' w := by
  obtain ⟨t, notes, horderly, hkeys, hcalls, hblank⟩ := h.noted
  refine ⟨h.company, h.ages, t ++ [(n, hook)], notes, horderly.concat hlife, ?_, hcalls, hblank⟩
  rw [List.filter_append, List.filter_cons_of_neg (by simp [hhas]), List.filter_nil,
    List.append_nil, hkeys]

/-- A scene that has the hook notes it. -/
theorem call (h : Follows start n m w) (hlife : ∀ hs, Life m hs → Life m' (hs ++ [hook]))
    (hhas : start.hasAt n hook = true) (hcompany : v.Company) (hages : w.Ages v)
    {held : Option Nat} {dt : Option α} (hblank : (Note.mk n hook held dt).SeesNothing start)
    (hcalls : v.depot.device.calls =
      w.depot.device.calls.push (.called (start.nameAt n) hook held dt)) :
    Follows start n m' v := by
  obtain ⟨t, notes, horderly, hkeys, hold, hblanks⟩ := h.noted
  refine ⟨hcompany, h.ages.trans hages, t ++ [(n, hook)], notes ++ [⟨n, hook, held, dt⟩],
    horderly.concat hlife, ?_, ?_, fun c hc => ?_⟩
  · rw [List.filter_append, List.filter_cons_of_pos (by simp [hhas]), List.filter_nil,
      List.map_append, hkeys]
    rfl
  · rw [hcalls, hold, List.map_append]
    simp [Note.call]
  · rcases List.mem_append.1 hc with hc | hc
    · exact hblanks c hc
    · rw [List.mem_singleton.1 hc]
      exact hblank

end Follows

/-! ## 4. One hook

One lemma for calling a hook and one for passing it over, where a scene does not have it; both
take the scene to the same next phase. -/

/-- The device is called and nothing else happens. -/
def noting (c : Call α) (w : World α) : World α := (onDevice (Device.call c)).after w

theorem offDepot_noting (c : Call α) (w : World α) : w.OffDepot (w.noting c) :=
  moves_onDevice _ w

theorem calls_noting (c : Call α) (w : World α) :
    (w.noting c).depot.device.calls = w.depot.device.calls.push c := rfl

theorem Follows.noting {start w : World α} {n : Nat} {m m' : Phase} {hook : Hook} {s : Scene α}
    (h : Follows start n m w) (hlife : ∀ hs, Life m hs → Life m' (hs ++ [hook]))
    (hhas : start.hasAt n hook = true) (hname : s.name = start.nameAt n) {held : Option Nat}
    {dt : Option α} (hblank : (Note.mk n hook held dt).SeesNothing start) :
    Follows start n m' (w.noting (.called s.name hook held dt)) := by
  have hoff := offDepot_noting (.called s.name hook held dt) w
  refine h.call hlife hhas (h.company.offDepot hoff) (hoff.ownWork n).toAges hblank ?_
  rw [calls_noting, hname]

theorem run_witness {n : Nat} {w : World α} {s : Scene α} (hs : w.scenes[n]? = some s)
    (hook : Hook) (counts : Bool) (dt : Option α) :
    (witness n hook counts dt).run w = (.ok (), w.noting (.called s.name hook
      (if counts && s.bound then some w.compositor.size else none) dt)) := by
  unfold witness
  rw [run_bind_of_ok (by rw [run_sceneAt, hs]), run_bind_of_ok (run_get w)]
  rfl

section Hooks

variable {start : World α} {n : Nat}

/-- A hook of a scene takes it from one phase to another if it does so where it is called, and
if it can be left out. -/
theorem spec_ifHas {P Q : World α → Prop} {hook : Hook} {x : Act (World α) Unit}
    (hn : n < start.scenes.size) (hages : ∀ w, P w → start.Ages w)
    (hcall : ∀ w s, P w → w.scenes[n]? = some s → s.name = start.nameAt n →
      start.hasAt n hook = true → ∃ v, x.run w = (.ok (), v) ∧ Q v)
    (hskip : ∀ w, P w → start.hasAt n hook = false → Q w) :
    Spec P (ifHas n hook x) (fun _ => Q) fun _ => False := by
  intro w hw
  obtain ⟨s, hs, hname, hhas⟩ := (hages w hw).member hn
  have hrun : (ifHas n hook x).run w = if start.hasAt n hook then x.run w else (.ok (), w) := by
    unfold ifHas
    rw [run_bind_of_ok (by rw [run_sceneAt, hs]), hhas]
    split <;> rfl
  rw [hrun]
  cases hb : start.hasAt n hook with
  | true =>
    obtain ⟨v, hv, hQ⟩ := hcall w s hw hs hname hb
    rw [if_pos rfl, hv]
    exact ⟨fun _ _ h => by cases h; exact hQ, fun _ _ h => by cases h⟩
  | false =>
    rw [if_neg Bool.false_ne_true]
    exact ⟨fun _ _ h => by cases h; exact hskip w hw hb, fun _ _ h => by cases h⟩

/-- A scene of a company is a witness. -/
theorem Company.role {w : World α} (h : w.Company) {s : Scene α} (hs : w.scenes[n]? = some s) :
    ∃ r, s.role = .witness r := by
  obtain ⟨r, hr, -⟩ := h.witnesses n s hs
  exact ⟨r, hr⟩

/-- The scene `n` is bound to the engine if it can be. -/
def Tied (start : World α) (n : Nat) (w : World α) : Prop :=
  start.hasAt n .bind = true → ∃ s, w.scenes[n]? = some s ∧ s.bound = true

/-- A scene that is away may be bound: the hook is noted if the scene has it, and the scene is
tied to the world from then on.

The flag is set before the hook is called, so the note is read in the world that has it already. -/
theorem spec_bind_hook (hn : n < start.scenes.size) :
    Spec (Follows start n .away) (ifHas n .bind (callBind n))
      (fun _ w => Follows start n .bound w ∧ Tied start n w) fun _ => False := by
  refine spec_ifHas hn (fun w hw => hw.ages) (fun w s hw hs hname hhas => ?_) fun w hw hhas => ?_
  · obtain ⟨r, hr⟩ := hw.company.role hs
    have hs' : ({ w with scenes := w.scenes.modify n fun s => { s with bound := true } } :
        World α).scenes[n]? = some { s with bound := true } := by
      rw [Array.getElem?_modify, if_pos rfl, hs, Option.map_some]
    have hrun : (callBind n).run w = (.ok (), noting (.called s.name .bind none none)
        { w with scenes := w.scenes.modify n fun s => { s with bound := true } }) := by
      unfold callBind bind modifyScene
      rw [run_bind_of_ok (run_modify _ w), run_bind_of_ok (by rw [run_sceneAt, hs'])]
      dsimp only
      rw [hr]
      exact run_witness hs' _ _ _
    have hblank : (Note.mk n .bind none (none : Option α)).SeesNothing start := by
      rintro (h | h) <;> cases h
    refine ⟨_, hrun, hw.call (fun _ => .bind) hhas ?_ ?_ hblank ?_, ?_⟩
    · refine Company.offDepot (hw.company.modifyScene n fun s r _ hr => ?_) (offDepot_noting _ _)
      exact ⟨r, hr, fun _ h => h⟩
    · exact (after_eq_of_run hrun ▸ moves_callBind n w : w.OwnWork n _).toAges
    · rw [calls_noting, hname]
    · exact fun _ => ⟨_, hs', rfl⟩
  · exact ⟨hw.skip (fun _ => .bind) hhas, fun h => by rw [hhas] at h; cases h⟩

/-- The layers are empty, and the scene `n` is the one to fill them. -/
structure Onset (start : World α) (n : Nat) (w : World α) : Prop where
  tied : Tied start n w
  blank : w.compositor = {}
  shown : w.current = some n

theorem Onset.offDepot {w v : World α} (h : Onset start n w) (hv : w.OffDepot v) :
    Onset start n v := by
  rw [hv]
  exact ⟨h.tied, h.blank, h.shown⟩

/-- What a scene sees of empty layers. -/
theorem Onset.seesNothing {w : World α} (h : Onset start n w) {s : Scene α}
    (hs : w.scenes[n]? = some s) (hook : Hook) :
    (Note.mk n hook (if true && s.bound then some w.compositor.size else none) none).SeesNothing
      start := by
  intro _
  rw [h.blank, Bool.true_and]
  cases hb : s.bound with
  | true => exact Or.inl rfl
  | false =>
    refine Or.inr ⟨rfl, Bool.eq_false_iff.2 fun hbind => ?_⟩
    obtain ⟨t, ht, htb⟩ := h.tied hbind
    obtain rfl : s = t := Option.some.inj (hs.symm.trans ht)
    exact Bool.false_ne_true (hb.symm.trans htb)

variable [Scalar α]

theorem spec_enter_hook [Host α] (hn : n < start.scenes.size) :
    Spec (fun w => Follows start n .bound w ∧ Onset start n w) (ifHas n .enter (callEnter n))
      (fun _ w => Follows start n .entered w ∧ Onset start n w) fun _ => False := by
  refine spec_ifHas hn (fun w hw => hw.1.ages) (fun w s hw hs hname hhas => ?_) fun w hw hhas => ?_
  · obtain ⟨r, hr⟩ := hw.1.company.role hs
    have hrun : (callEnter n).run w = (.ok (), w.noting (.called s.name .enter
        (if true && s.bound then some w.compositor.size else none) none)) := by
      unfold callEnter
      rw [run_bind_of_ok (by rw [run_sceneAt, hs]), hr]
      exact run_witness hs _ _ _
    exact ⟨_, hrun, hw.1.noting (fun _ => .enter) hhas hname (hw.2.seesNothing hs _),
      hw.2.offDepot (offDepot_noting _ w)⟩
  · exact ⟨hw.1.skip (fun _ => .enter) hhas, hw.2⟩

/-- A scene that was entered may be populated, and is on from then on.

What the hook adds to the layers is nothing that a note could see. -/
theorem spec_populate_hook (hn : n < start.scenes.size) :
    Spec (fun w => Follows start n .entered w ∧ Onset start n w)
      (ifHas n .populate (callPopulate n))
      (fun _ w => Follows start n .on w ∧ w.current = some n) fun _ => False := by
  refine spec_ifHas hn (fun w hw => hw.1.ages) (fun w s hw hs hname hhas => ?_) fun w hw hhas => ?_
  · obtain ⟨r, hr⟩ := hw.1.company.role hs
    have hoff := offDepot_noting (.called s.name .populate
      (if true && s.bound then some w.compositor.size else none) none) w
    have hnoted := hw.1.noting (fun _ => .populate) hhas hname (hw.2.seesNothing hs _)
    have hrun : (callPopulate n).run w = (do
        if s.bound then modifyCompositor (·.add (.scene n) .sprites)).run (w.noting (.called s.name
          .populate (if true && s.bound then some w.compositor.size else none) none)) := by
      unfold callPopulate
      rw [run_bind_of_ok (by rw [run_sceneAt, hs]), hr]
      dsimp only
      rw [run_bind_of_ok (run_witness hs _ _ _),
        run_bind_of_ok (by rw [run_sceneAt, hoff.outside.scenes, hs])]
    rw [hrun]
    split
    · exact ⟨_, rfl, hnoted.silent ⟨hnoted.company.canvas, hnoted.company.witnesses,
        hnoted.company.registered, hnoted.company.shown⟩ (.of_eq rfl rfl rfl) rfl, hw.2.shown⟩
    · exact ⟨_, rfl, hnoted, hw.2.shown⟩
  · exact ⟨hw.1.skip (fun _ => .populate) hhas, hw.2.shown⟩

theorem spec_leave_hook (hn : n < start.scenes.size) :
    Spec (Follows start n .on) (ifHas n .leave (callLeave n))
      (fun _ => Follows start n .away) fun _ => False := by
  refine spec_ifHas hn (fun w hw => hw.ages) (fun w s hw hs hname hhas => ?_) fun w hw hhas => ?_
  · obtain ⟨r, hr⟩ := hw.company.role hs
    have hrun : (callLeave n).run w = (.ok (), w.noting (.called s.name .leave
        (if true && s.bound then some w.compositor.size else none) none)) := by
      unfold callLeave
      rw [run_bind_of_ok (by rw [run_sceneAt, hs]), hr]
      exact run_witness hs _ _ _
    exact ⟨_, hrun, hw.noting (fun _ => .leave) hhas hname (by rintro (h | h) <;> cases h)⟩
  · exact hw.skip (fun _ => .leave) hhas

/-! ## 5. Changing scenes

A change of scenes calls four hooks: the old scene leaves, and the new one is bound, enters and
populates, with the hand-over between the second and the third.  What is known between them is a
condition on the phase of one scene, and the lemmas are put in sequence. -/

/-- The current scene is there, and all others are away. -/
structure InTurn (start w : World α) : Prop where
  on : ∀ n, w.current = some n → Follows start n .on w
  idle : w.current = none → Follows start 0 .away w

omit [Scalar α] in
theorem InTurn.follows {w : World α} (h : InTurn start w) : ∃ n m, Follows start n m w := by
  cases hn : w.current with
  | some n => exact ⟨n, .on, h.on n hn⟩
  | none => exact ⟨0, .away, h.idle hn⟩

omit [Scalar α] in
theorem InTurn.company {w : World α} (h : InTurn start w) : w.Company := by
  obtain ⟨_, _, h⟩ := h.follows
  exact h.company

omit [Scalar α] in
theorem InTurn.ages {w : World α} (h : InTurn start w) : start.Ages w := by
  obtain ⟨_, _, h⟩ := h.follows
  exact h.ages

omit [Scalar α] in
/-- Nothing is noted, and the same scene is the current one. -/
theorem InTurn.silent {w v : World α} (h : InTurn start w) (hcompany : v.Company)
    (hages : w.Ages v) (hcalls : v.depot.device.calls = w.depot.device.calls)
    (hcurrent : v.current = w.current) : InTurn start v where
  on n hn := (h.on n (hcurrent ▸ hn)).silent hcompany hages hcalls
  idle hn := (h.idle (hcurrent ▸ hn)).silent hcompany hages hcalls

theorem spec_dismiss_hook : Spec (InTurn start) (dismiss : Act (World α) Unit)
    (fun _ => Follows start 0 .away) fun _ => False := by
  intro w hw
  unfold dismiss
  rw [run_bind_of_ok (run_get w)]
  cases hn : w.current with
  | none => exact ⟨fun _ _ h => by cases h; exact hw.idle hn, fun _ _ h => by cases h⟩
  | some n =>
    have hlt := Nat.lt_of_lt_of_eq (hw.company.shown n hn) hw.ages.size
    exact ((spec_leave_hook hlt).mono (fun _ h => h) (fun _ _ h => h.away 0) fun _ h => h) w
      (hw.on n hn)

omit [Scalar α] in
theorem spec_handOver_to (n : Nat) (hn : n < start.scenes.size) :
    Spec (fun w => Follows start n .bound w ∧ Tied start n w) (handOver (some n) :
      Act (World α) Unit) (fun _ w => Follows start n .bound w ∧ Onset start n w)
      fun _ => False := by
  rintro w ⟨hw, htied⟩
  rw [run_handOver_of_hasPart hw.company.canvas]
  refine ⟨fun _ _ h => ?_, fun _ _ h => by cases h⟩
  cases h
  refine ⟨hw.silent ⟨hw.company.canvas, hw.company.witnesses, hw.company.registered, ?_⟩
    (.of_eq rfl rfl rfl) rfl, htied, rfl, rfl⟩
  rintro m ⟨⟩
  exact Nat.lt_of_lt_of_eq hn hw.ages.size.symm

omit [Scalar α] in
theorem spec_handOver_none : Spec (Follows start 0 .away) (handOver none : Act (World α) Unit)
    (fun _ => InTurn start) fun _ => False := by
  intro w hw
  rw [run_handOver_of_hasPart hw.company.canvas]
  refine ⟨fun _ _ h => ?_, fun _ _ h => by cases h⟩
  cases h
  refine ⟨nofun, fun _ => hw.silent ⟨hw.company.canvas, hw.company.witnesses,
    hw.company.registered, nofun⟩ (.of_eq rfl rfl rfl) rfl⟩

/-- The old scene has left and the next one is bound; it finds the layers empty. -/
theorem spec_takeOver {n : Nat} (hn : n < start.scenes.size) :
    Spec (InTurn start) (takeOver (some n) : Act (World α) Unit)
      (fun _ w => Follows start n .bound w ∧ Onset start n w) fun _ => False := by
  unfold takeOver
  refine spec_bind spec_dismiss_hook fun _ => spec_bind ?_ fun _ => spec_handOver_to n hn
  exact (spec_bind_hook hn).mono (fun _ h => h.away n) (fun _ _ h => h) fun _ h => h

/-- **In a company every change of scenes ends with the next scene there and all others away.**
The steps come one after the other, each with the specification of its hook; the life of the scene
that leaves ends with the first of them and that of the next begins with the last. -/
theorem spec_changeScene [Host α] {next : Option Nat}
    (hnext : ∀ n, next = some n → n < start.scenes.size) :
    Spec (InTurn start) (changeScene next : Act (World α) Unit) (fun _ => InTurn start)
      fun _ => False := by
  cases next with
  | none =>
    unfold changeScene
    refine spec_bind spec_dismiss_hook fun _ => ?_
    refine spec_bind (R := fun _ => Follows start 0 .away) (spec_pure fun _ h => h) fun _ => ?_
    exact spec_bind spec_handOver_none fun _ => spec_pure fun _ h => h
  | some n =>
    have hn := hnext n rfl
    rw [changeScene_eq]
    refine spec_bind (spec_takeOver hn) fun _ => spec_bind (spec_enter_hook hn) fun _ => ?_
    refine (spec_populate_hook hn).mono (fun _ h => h) (fun _ w h => ⟨fun m hm => ?_, fun hm => ?_⟩)
      fun _ h => h
    · obtain rfl : n = m := Option.some.inj (h.2.symm.trans hm)
      exact h.1
    · rw [h.2] at hm
      cases hm

/-- Asking for a scene by a text changes to it, or nothing is noted.  Three things can be wrong
with a name: it cannot be a key, nothing is registered under it, or its line cannot be
printed.  None of them changes a scene. -/
theorem spec_switchTo [Host α] (name : Value α) : Spec (InTurn start) (switchTo name)
    (fun _ => InTurn start) fun w => InTurn start w ∧ ∀ key, name ≠ .text key := by
  intro w hw
  have hreg := run_registered? w name
  unfold switchTo
  cases hkey : name.nameKey with
  | error e =>
    rw [run_bind_of_error (by rw [hreg, hkey])]
    refine ⟨fun _ _ h => (by cases h), fun _ _ h => ?_⟩
    cases h
    exact ⟨hw, fun key heq => by rw [heq] at hkey; cases hkey⟩
  | ok key =>
    rw [run_bind_of_ok (by rw [hreg, hkey])]
    cases hnext : key.bind fun key => w.registry.lookup key with
    | none =>
      dsimp only
      cases hname : name.written with
      | error e =>
        rw [run_bind_of_error (run_ofExcept _ _)]
        refine ⟨fun _ _ h => (by cases h), fun _ _ h => ?_⟩
        cases h
        refine ⟨hw, fun key heq => ?_⟩
        rw [heq, Value.written_text] at hname
        cases hname
      | ok text =>
        have hoff := moves_liftLog (say ("[SceneManager] Warning: scene '" ++ text ++
          "' not registered")) w
        rw [run_bind_of_ok (run_ofExcept _ _)]
        refine ⟨fun _ _ h => ?_, fun _ _ h => by cases h⟩
        cases h
        exact hw.silent (hw.company.offDepot hoff) (hoff.ownWork 0).toAges rfl rfl
    | some n =>
      obtain ⟨k, -, hk⟩ := Option.bind_eq_some_iff.1 hnext
      have hn := Nat.lt_of_lt_of_eq (hw.company.registered k n hk) hw.ages.size
      refine ((spec_changeScene fun m hm => ?_).mono (fun _ h => h) (fun _ _ h => h)
        fun _ h => h.elim) w hw
      cases hm
      exact hn

/-! ## 6. Updates

In an update the current scene is called, and may ask for a change.  That change is the one of the
section before, begun from inside a hook. -/

/-- A wish that a member of the company has is granted. -/
theorem spec_grant [Host α] {wish : Wish}
    (hwish : ∀ m, wish = .change (some m) → m < start.scenes.size) :
    Spec (InTurn start) (grant wish : Act (World α) Unit) (fun _ => InTurn start)
      fun _ => False := by
  cases wish with
  | stay => exact spec_pure fun _ h => h
  | switchTo name =>
    exact (spec_switchTo _).mono (fun _ h => h) (fun _ _ h => h) fun _ h => h.2 name rfl
  | change next => exact spec_changeScene fun n hn => hwish n (by rw [hn])

omit [Scalar α] in
/-- Taking a wish is not noted.  A wish is taken off the list of the witness, which is no part of
what is noted; what it names was a scene at the start, as all wishes of the company. -/
theorem run_nextWish {n : Nat} {w : World α} (hw : InTurn start w) {s : Scene α} {r : Witness}
    (hs : w.scenes[n]? = some s) (hr : s.role = .witness r) :
    ∃ wish v, (nextWish n r).run w = (.ok wish, v) ∧ InTurn start v ∧
      ∀ m, wish = .change (some m) → m < start.scenes.size := by
  obtain ⟨r', hr', hwishes⟩ := hw.company.witnesses n s hs
  obtain rfl : r = r' := by
    rw [hr] at hr'
    exact Role.witness.inj hr'
  have hages : w.Ages ((nextWish n r).after w) := (ownWork_nextWish hs hr).toAges
  unfold nextWish at hages ⊢
  cases hlist : r.wishes with
  | nil => exact ⟨.stay, w, rfl, hw, nofun⟩
  | cons wish wishes =>
    rw [hlist] at hages hwishes
    refine ⟨wish, _, rfl, hw.silent (hw.company.modifyScene n fun t r' ht hr' => ?_) hages rfl rfl,
      fun m hm => ?_⟩
    · rw [hs] at ht
      cases ht
      rw [hr] at hr'
      cases hr'
      refine ⟨_, rfl, fun wish hwish => ?_⟩
      rw [hlist]
      exact List.mem_cons_of_mem _ hwish
    · exact Nat.lt_of_lt_of_eq (hwishes m (hm ▸ List.mem_cons_self)) hw.ages.size

/-- **An update is noted by the current scene, which may ask for another in it.** The note of the
update comes before what the scene asks for in it, which is why the wish is read in the world that
has the note already. -/
theorem spec_update [Host α] (dt : α) : Spec (InTurn start) (update dt) (fun _ => InTurn start)
    fun _ => False := by
  intro w hw
  unfold update
  rw [run_bind_of_ok (run_get w)]
  cases hn : w.current with
  | none => exact spec_pure (fun _ h => h) w hw
  | some n =>
    have hlt := Nat.lt_of_lt_of_eq (hw.company.shown n hn) hw.ages.size
    refine spec_ifHas (P := fun w => InTurn start w ∧ w.current = some n) hlt (fun w hw => hw.1.ages)
      (fun w s hw hs hname hhas => ?_) (fun w hw hhas => ?_) w ⟨hw, hn⟩
    · obtain ⟨hw, hn⟩ := hw
      obtain ⟨r, hr⟩ := hw.company.role hs
      have hblank : (Note.mk n .update none (some dt)).SeesNothing start := by
        rintro (h | h) <;> cases h
      have hnoted := (hw.on n hn).noting (fun _ => .update) hhas hname hblank
      have hv : InTurn start (w.noting (.called s.name .update none (some dt))) := by
        refine ⟨fun m hm => ?_, fun hm => ?_⟩
        · obtain rfl : n = m := Option.some.inj (hn.symm.trans hm)
          exact hnoted
        · rw [show w.current = none from hm] at hn
          cases hn
      obtain ⟨wish, u, hwish, hu, hasked⟩ := run_nextWish (n := n) hv hs hr
      obtain ⟨_, v, hgrant, hturn⟩ := (spec_grant hasked).exists_ok hu
      refine ⟨v, ?_, hturn⟩
      unfold callUpdate updateWitness
      rw [run_bind_of_ok (by rw [run_sceneAt, hs]), hr]
      dsimp only
      rw [run_bind_of_ok (run_witness hs _ _ _)]
      exact (run_bind_of_ok hwish).trans hgrant
    · refine ⟨fun m hm => ?_, fun hm => ?_⟩
      · obtain rfl : n = m := Option.some.inj (hw.2.symm.trans hm)
        exact (hw.1.on n hw.2).skip (fun _ => .update) hhas
      · rw [hw.2] at hm
        cases hm

end Hooks

/-! ## 7. Runs

By induction on the cues.  A cue that ends with a fault has noted what it noted, and the next cue
goes on from there. -/

/-- What is asked of the director. -/
inductive Cue (α : Type) where
  | register (name : String) (scene : Nat)
  | switchTo (name : Value α)
  | change (next : Option Nat)
  | update (dt : α)

/-- The scene that is put in place, or registered, is one of as many. -/
inductive Cue.Within (size : Nat) : Cue α → Prop where
  | register (name : String) {n : Nat} (h : n < size) : Within size (.register name n)
  | switchTo (name : Value α) : Within size (.switchTo name)
  | change {next : Option Nat} (h : ∀ n, next = some n → n < size) : Within size (.change next)
  | update (dt : α) : Within size (.update dt)

variable [Scalar α]

def Cue.act [Host α] : Cue α → Act (World α) Unit
  | .register name n => World.register name n
  | .switchTo name => World.switchTo name
  | .change next => changeScene next
  | .update dt => World.update dt

/-- The world after some cues, whether or not they end with a fault. -/
def rehearse [Host α] : List (Cue α) → World α → World α
  | [], w => w
  | cue :: cues, w => rehearse cues (cue.act.after w)

theorem keeps_cue [Host α] {start : World α} {cue : Cue α} (h : cue.Within start.scenes.size) :
    cue.act.Keeps (InTurn start) := by
  cases h with
  | register name hn =>
    intro w hw
    refine hw.silent ⟨hw.company.canvas, hw.company.witnesses, fun other m hm => ?_,
      hw.company.shown⟩ (.of_eq rfl rfl rfl) rfl rfl
    change (w.registry.put name _).lookup other = _ at hm
    rw [Table.lookup_put] at hm
    split at hm
    · cases hm
      exact Nat.lt_of_lt_of_eq hn hw.ages.size.symm
    · exact hw.company.registered other m hm
  | switchTo name =>
    exact ((spec_switchTo name).mono (fun _ h => h) (fun _ _ h => h) fun _ h => h.1).keeps
  | change h =>
    exact ((spec_changeScene h).mono (fun _ h => h) (fun _ _ h => h) fun _ => False.elim).keeps
  | update dt =>
    exact ((spec_update dt).mono (fun _ h => h) (fun _ _ h => h) fun _ => False.elim).keeps

theorem inTurn_rehearse [Host α] {start : World α} : ∀ (cues : List (Cue α)) {w : World α},
    (∀ cue ∈ cues, cue.Within start.scenes.size) → InTurn start w →
      InTurn start (rehearse cues w)
  | [], _, _, hw => hw
  | cue :: cues, w, h, hw =>
    inTurn_rehearse cues (fun c hc => h c (List.mem_cons_of_mem _ hc))
      (keeps_cue (h cue List.mem_cons_self) w hw)

omit [Scalar α] in
theorem inTurn_start {start : World α} (h : start.Company) (hidle : start.current = none) :
    InTurn start start where
  on n hn := by
    rw [hidle] at hn
    cases hn
  idle _ := ⟨h, .refl _, [], [], .nil 0, rfl, by simp, by simp⟩

/-- Nothing is registered under the name, or it cannot be one.  What is printed goes to the log,
which is no call of the device. -/
theorem switchTo_of_unknown [Host α] {name : Value α} {w : World α}
    (h : ∀ n, (registered? name).run w ≠ (.ok (some n), w)) :
    w.OffDepot ((switchTo name).after w) ∧
      ((switchTo name).after w).depot.device.calls = w.depot.device.calls := by
  have hreg := run_registered? w name
  unfold switchTo
  cases hkey : name.nameKey with
  | error e =>
    rw [after_bind_of_error (by rw [hreg, hkey])]
    exact ⟨rfl, rfl⟩
  | ok key =>
    rw [hkey] at hreg
    dsimp only at hreg
    rw [after_bind_of_ok hreg]
    cases hnext : key.bind fun key => w.registry.lookup key with
    | none =>
      dsimp only
      cases hname : name.written with
      | error e =>
        rw [after_bind_of_error (run_ofExcept _ _)]
        exact ⟨rfl, rfl⟩
      | ok text =>
        rw [after_bind_of_ok (run_ofExcept _ _)]
        exact ⟨rfl, rfl⟩
    | some n => exact (h n (by rw [hreg, hnext])).elim

/-- **The hooks of every scene follow one another as its life has it, one scene at a time.**  What
the scenes note is what was called of the hooks that they have.  Between cues the current scene is
there and all others are away; whenever a hook is called, all other scenes are.  A scene enters into
empty layers, and what it places there is placed on what it has entered with.  Asking for a name
that is not registered calls nothing and changes nothing. -/
theorem hooks_in_turn [Host α] {start : World α} (hcompany : start.Company)
    (hidle : start.current = none)
    (cues : List (Cue α)) (hcues : ∀ cue ∈ cues, cue.Within start.scenes.size) :
    (∃ (t : List (Nat × Hook)) (notes : List (Note α)),
      (∀ n, Life (if (rehearse cues start).current = some n then .on else .away) (hooksOf n t)) ∧
      (∀ a n hook b, t = a ++ (n, hook) :: b → ∀ k, k ≠ n → Life .away (hooksOf k a)) ∧
      notes.map Note.key = t.filter (fun p => start.hasAt p.1 p.2) ∧
      (rehearse cues start).depot.device.calls =
        start.depot.device.calls ++ (notes.map (Note.call start)).toArray ∧
      ∀ c ∈ notes, c.SeesNothing start) ∧
    (∀ n, n < start.scenes.size →
      ∃ u, (takeOver (some n)).run (rehearse cues start) = (.ok (), u) ∧ u.compositor = {}) ∧
    (∀ (n : Nat) (w u : World α), (takeOver (some n)).run w = (.ok (), u) →
      u.compositor = {} ∧ u.current = some n ∧ (changeScene (some n)).run w =
        (do ifHas n .enter (callEnter n); ifHas n .populate (callPopulate n)).run u) ∧
    (∀ (name : Value α) (w : World α), (∀ n, (registered? name).run w ≠ (.ok (some n), w)) →
      w.OffDepot ((switchTo name).after w) ∧
        ((switchTo name).after w).depot.device.calls = w.depot.device.calls) := by
  have hturn : InTurn start (rehearse cues start) :=
    inTurn_rehearse cues hcues (inTurn_start hcompany hidle)
  refine ⟨?_, fun n hn => ?_, fun n w u hu => ?_, fun _ _ => switchTo_of_unknown⟩
  · cases hcurrent : (rehearse cues start).current with
    | some n =>
      obtain ⟨t, notes, horderly, hnotes⟩ := (hturn.on n hcurrent).noted
      refine ⟨t, notes, fun k => ?_, horderly.alone, hnotes⟩
      split
      · next hk => exact Option.some.inj hk ▸ horderly.own
      · next hk => exact horderly.others k fun h => hk (congrArg some h.symm)
    | none =>
      obtain ⟨t, notes, horderly, hnotes⟩ := (hturn.idle hcurrent).noted
      exact ⟨t, notes, fun k => (horderly.away k).own, horderly.alone, hnotes⟩
  · obtain ⟨_, u, hu, -, honset⟩ := (spec_takeOver hn).exists_ok hturn
    exact ⟨u, hu, honset.blank⟩
  · have hover := hu
    unfold takeOver at hover
    obtain ⟨_, v, -, hover⟩ := run_bind_eq_ok.1 hover
    obtain ⟨_, v, -, hover⟩ := run_bind_eq_ok.1 hover
    unfold handOver at hover
    obtain ⟨_, v, -, hover⟩ := run_bind_eq_ok.1 hover
    cases hover
    refine ⟨rfl, rfl, ?_⟩
    rw [changeScene_eq, run_bind_of_ok hu]
    rfl

/-! A troupe of three: the second asks for the third in its first update, and the third cannot
leave.  The first is not bound to the engine. -/

def troupe : World Rat :=
  { house with
    scenes := #[
      { name := "clown", role := .witness { hooks := [.enter, .update, .leave] } },
      { name := "juggler", role := .witness {
        hooks := [.bind, .enter, .populate, .update, .leave]
        wishes := [.switchTo "acrobat"] } },
      { name := "acrobat", role := .witness { hooks := [.populate, .update] } }]
    registry := [("clown", 0), ("juggler", 1), ("acrobat", 2)] }

theorem company_troupe : troupe.Company where
  canvas := rfl
  witnesses
    | 0, _, h => by cases h; exact ⟨_, rfl, by simp⟩
    | 1, _, h => by cases h; exact ⟨_, rfl, by simp⟩
    | 2, _, h => by cases h; exact ⟨_, rfl, by simp⟩
    | _ + 3, _, h => by simp [troupe] at h
  registered name n h := by
    change List.lookup name [("clown", 0), ("juggler", 1), ("acrobat", 2)] = some n at h
    simp only [List.lookup_cons, List.lookup_nil] at h
    split at h
    · cases h; decide
    · split at h
      · cases h; decide
      · split at h
        · cases h; decide
        · cases h
  shown n h := by cases h

/-- The clown comes and goes, nobody is called "ghost", and the juggler makes way. -/
def evening : List (Cue Rat) := [
  .switchTo (.text "clown"), .update 1, .change none, .switchTo (.text "ghost"),
  .register "star" 1, .switchTo (.text "star"), .update 2, .update 3]

/-- The troupe on its evening: a clown, a juggler and an acrobat come and go, with the hooks that
they have, each in its turn.

The list of calls is computed; that each scene has lived a life is the theorem. -/
theorem hooks_in_turn_troupe :
    (rehearse evening troupe).current = some 2 ∧
      (rehearse evening troupe).depot.device.calls = #[
        .called "clown" .enter none none, .called "clown" .update none (some 1),
        .called "clown" .leave none none,
        .called "juggler" .bind none none, .called "juggler" .enter (some 0) none,
        .called "juggler" .populate (some 0) none, .called "juggler" .update none (some 2),
        .called "juggler" .leave (some 1) none,
        .called "acrobat" .populate none none, .called "acrobat" .update none (some 3)] ∧
      ∃ t, Life .away (hooksOf 0 t) ∧ Life .away (hooksOf 1 t) ∧ Life .on (hooksOf 2 t) := by
  have hcues : ∀ cue ∈ evening, cue.Within troupe.scenes.size := by
    intro cue hcue
    simp only [evening, List.mem_cons, List.not_mem_nil, or_false] at hcue
    rcases hcue with rfl | rfl | rfl | rfl | rfl | rfl | rfl | rfl
    · exact .switchTo _
    · exact .update _
    · exact .change nofun
    · exact .switchTo _
    · exact .register _ (by decide)
    · exact .switchTo _
    · exact .update _
    · exact .update _
  have hcurrent : (rehearse evening troupe).current = some 2 := rfl
  obtain ⟨⟨t, -, hlife, -⟩, -⟩ := hooks_in_turn company_troupe rfl evening hcues
  rw [hcurrent] at hlife
  exact ⟨hcurrent, rfl, t, hlife 0, hlife 1, hlife 2⟩

end World

end Diorama
