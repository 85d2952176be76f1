/-
# Animations keep to themselves

One table holds the animations of many things, and they are attached, replaced, removed and stepped
in any order.  What becomes of a thing and of its animation is decided by the orders that regard it
alone: those for it, and those for all.

What an order makes of one thing is `Order.effect`, a function of what is to be seen of this thing
(`view`).  There is one way in which others get into it: an animation may have no pose, which ends
the step of time, and then those behind it in the table are not stepped.  `reaches` says whether an
order gets to a thing, and `heard` lists the orders that did.
-/
import Diorama.Proofs.Animating
import Diorama.Proofs.World.Mistakes
import Mathlib.Data.List.TakeWhile
import Mathlib.Data.Set.Card

namespace Diorama.Motions

open Act

variable {α ε : Type}

/-! ## 1. Orders

What can be asked of a table of animations, and a run of it. -/

/-- What is asked of a table of animations. -/
inductive Order (α : Type) where
  | attach (i : Nat) (spec : AnimationSpec α) (canvas : α × α)
  | remove (i : Nat)
  | clear
  | advance (dt : α)

/-- Whether an order is for the thing `i` or for all. -/
def Order.regards (i : Nat) : Order α → Bool
  | .attach k _ _ | .remove k => k == i
  | .clear | .advance _ => true

variable [Scalar α] [Posed ε α]

/-- What an order does to a table and the things; only a step of time can end with a fault. -/
def obey : Order α → Act (Motions α × Array ε) Unit
  | .attach i spec canvas => modify fun s => s.1.attach i spec canvas s.2
  | .remove i => modify fun s => (s.1.remove i, s.2)
  | .clear => modify fun s => ({}, s.2)
  | .advance dt => fun s => ((s.1.advance dt s.2).2.2, (s.1.advance dt s.2).1,
      (s.1.advance dt s.2).2.1)

/-- The table and the things after a list of orders, each whatever became of those before it. -/
def obeyAll (os : List (Order α)) (s : Motions α × Array ε) : Motions α × Array ε :=
  os.foldl (fun s o => (obey o).after s) s

/-- None of the orders ends with a fault. -/
def Calm : List (Order α) → Motions α × Array ε → Prop
  | [], _ => True
  | o :: os, s => ((obey o).run s).1 = .ok () ∧ Calm os ((obey o).after s)

/-- What is to be seen of one thing: its animation and itself. -/
def view (i : Nat) (s : Motions α × Array ε) : Option (Animation α) × Option ε :=
  (s.1.find? i, s.2[i]?)

/-- A thing after one step of its animation. -/
def stepped (dt : α) (m : Animation α) (e : ε) : ε :=
  match (m.step dt (Posed.pose e)).2 with
  | .ok p => Posed.withPose p e
  | .error _ => e

/-- What an order makes of the thing `i`. -/
def Order.effect (i : Nat) :
    Order α → Option (Animation α) × Option ε → Option (Animation α) × Option ε
  | .attach k spec canvas, (m, some e) =>
    if k = i then
      (some (.ofSpec spec (Posed.pose e)),
        some (Posed.withPose ((Animation.ofSpec spec (Posed.pose e)).start canvas (Posed.pose e)) e))
    else (m, some e)
  | .remove k, v => if k = i then (none, v.2) else v
  | .clear, v => (none, v.2)
  | .advance dt, (some m, some e) =>
    (some (m.step dt (Posed.pose e)).1, some (stepped dt m e))
  | _, v => v

/-- To attach starts an animation and moves the thing to its start. -/
theorem Order.effect_attach (i : Nat) (spec : AnimationSpec α) (canvas : α × α)
    (m : Option (Animation α)) (e : ε) :
    (Order.attach i spec canvas).effect i (m, some e) = (some (.ofSpec spec (Posed.pose e)),
      some (Posed.withPose ((Animation.ofSpec spec (Posed.pose e)).start canvas (Posed.pose e)) e)) :=
  if_pos rfl

/-- A step moves the animation and its thing on. -/
theorem Order.effect_advance (i : Nat) (dt : α) (m : Animation α) (e : ε) :
    (Order.advance dt).effect i (some m, some e) =
      (some (m.step dt (Posed.pose e)).1, some (stepped dt m e)) := rfl

/-- How an order ends for a thing. -/
def Order.outcome : Order α → Option (Animation α) × Option ε → Except Fault Unit
  | .advance dt, (some m, some e) => (m.step dt (Posed.pose e)).2.map fun _ => ()
  | _, _ => .ok ()

/-- It fails if the animation has no pose. -/
theorem Order.outcome_advance (dt : α) (m : Animation α) (e : ε) :
    (Order.advance dt).outcome (some m, some e) =
      (m.step dt (Posed.pose e)).2.map fun _ => () := rfl

/-- Whether an order gets to the thing `i`.  A step of time gets to it if no animation that stands
before its own in the table is without a pose. -/
def reaches (i : Nat) : Order α → Motions α × Array ε → Bool
  | .advance dt, s => (stepAll dt (s.1.entries.takeWhile (·.1 != i)) s.2).2.2.isOk
  | o, _ => o.regards i

/-- The orders that get to the thing `i`. -/
def heard (i : Nat) : List (Order α) → Motions α × Array ε → List (Order α)
  | [], _ => []
  | o :: os, s =>
    if reaches i o s then o :: heard i os ((obey o).after s) else heard i os ((obey o).after s)

/-! ## 2. One step of time

One step goes through the table in order and stops at an animation that has no pose, so those
before it are stepped and those behind it are not. -/

section Step

variable {dt : α} {things : Array ε}

omit [Scalar α] in
/-- What has no animation is not found in the table. -/
theorem lookup_of_new {i : Nat} {ms : List (Nat × Animation α)} (h : i ∉ ms.map (·.1)) :
    ms.lookup i = none := by
  rw [List.lookup_eq_none_iff]
  exact fun p hp => bne_iff_ne.2 fun hip => h (hip ▸ List.mem_map_of_mem hp)

/-- The first animation of the list moves its thing. -/
theorem view_stepAll_head {k : Nat} (m : Animation α) {ms : List (Nat × Animation α)}
    (things : Array ε) (hk : k ∉ ms.map (·.1)) :
    ((stepAll dt ((k, m) :: ms) things).1.lookup k, (stepAll dt ((k, m) :: ms) things).2.1[k]?) =
      (Order.advance dt).effect k (some m, things[k]?) := by
  cases he : things[k]? with
  | none =>
    rw [stepAll_cons_none he, List.lookup_cons, beq_self_eq_true, stepAll_other ms _ hk, he]
    rfl
  | some e =>
    cases hstep : m.step dt (Posed.pose e) with
    | mk m' r =>
      rw [Order.effect_advance, stepped, hstep]
      cases r with
      | error f => rw [stepAll_cons_error he hstep, List.lookup_cons, beq_self_eq_true, he]
      | ok p =>
        rw [stepAll_cons_some he hstep, List.lookup_cons, beq_self_eq_true,
          stepAll_other ms _ hk, Array.set!_eq_setIfInBounds,
          Array.getElem?_setIfInBounds_self_of_lt (Array.getElem?_eq_some_iff.1 he).1]

/-- **A step of time moves a thing by its own animation or not at all.**  It does not get to the
thing if an animation before its own has no pose. -/
theorem view_stepAll (i : Nat) : ∀ (ms : List (Nat × Animation α)) (things : Array ε),
    (ms.map (·.1)).Nodup →
    ((stepAll dt ms things).1.lookup i, (stepAll dt ms things).2.1[i]?) =
      if (stepAll dt (ms.takeWhile (·.1 != i)) things).2.2.isOk then
        (Order.advance dt).effect i (ms.lookup i, things[i]?)
      else (ms.lookup i, things[i]?)
  | [], things, _ => rfl
  | (k, m) :: ms, things, hkeys => by
    rw [List.map_cons, List.nodup_cons] at hkeys
    by_cases hki : k = i
    · subst hki
      rw [List.takeWhile_cons_of_neg (by simp), view_stepAll_head m things hkeys.1,
        List.lookup_cons, beq_self_eq_true]
      rfl
    · -- The first animation is another thing's: the question is put to the rest.
      have hne : (i == k) = false := beq_false_of_ne (Ne.symm hki)
      rw [List.takeWhile_cons_of_pos (by simp [hki]), List.lookup_cons, hne]
      dsimp only
      cases he : things[k]? with
      | none =>
        rw [stepAll_cons_none he, stepAll_cons_none he, List.lookup_cons, hne]
        exact view_stepAll i ms things hkeys.2
      | some e =>
        cases hstep : m.step dt (Posed.pose e) with
        | mk m' r =>
          cases r with
          | error f =>
            rw [stepAll_cons_error he hstep, stepAll_cons_error he hstep, List.lookup_cons, hne]
            rfl
          | ok p =>
            have hrest := view_stepAll i ms (things.set! k (Posed.withPose p e)) hkeys.2
            have hsame : (things.set! k (Posed.withPose p e))[i]? = things[i]? := by
              rw [Array.set!_eq_setIfInBounds, Array.getElem?_setIfInBounds_ne hki]
            rw [hsame] at hrest
            rw [stepAll_cons_some he hstep, stepAll_cons_some he hstep, List.lookup_cons, hne]
            exact hrest

/-- That all animations of a table have poses is said of the first and of the rest.  The first
entry is about its own thing only, so for every other one the table may be looked at as it is
after the first step. -/
theorem outcome_cons {k : Nat} {m : Animation α} {ms : List (Nat × Animation α)}
    (hk : k ∉ ms.map (·.1)) {others : Array ε} (hsame : ∀ i, i ≠ k → others[i]? = things[i]?) :
    (∀ i, (Order.advance dt).outcome (((k, m) :: ms).lookup i, things[i]?) = .ok ()) ↔
      (Order.advance dt).outcome (some m, things[k]?) = .ok () ∧
        ∀ i, (Order.advance dt).outcome (ms.lookup i, others[i]?) = .ok () := by
  constructor
  · intro h
    refine ⟨by simpa using h k, fun i => ?_⟩
    by_cases hik : i = k
    · rw [hik, lookup_of_new hk]
      rfl
    · have hi := h i
      rw [List.lookup_cons, beq_false_of_ne hik] at hi
      rw [hsame i hik]
      exact hi
  · rintro ⟨hm, hrest⟩ i
    rw [List.lookup_cons]
    by_cases hik : i = k
    · rw [hik, beq_self_eq_true]
      exact hm
    · rw [beq_false_of_ne hik, ← hsame i hik]
      exact hrest i

/-- The animations behind one without a pose are left as they are.  By induction on those in
front: the loop has ended among them, so it never comes to the others. -/
theorem stepAll_append_of_error {ns : List (Nat × Animation α)} {f : Fault} :
    ∀ {ms : List (Nat × Animation α)} {things : Array ε},
      (stepAll dt ms things).2.2 = .error f →
        (stepAll dt (ms ++ ns) things).1 = (stepAll dt ms things).1 ++ ns
  | [], _, h => nomatch h
  | (k, m) :: ms, things, h => by
    rw [List.cons_append]
    cases he : things[k]? with
    | none =>
      rw [stepAll_cons_none he] at h
      rw [stepAll_cons_none he, stepAll_cons_none he, stepAll_append_of_error h]
      rfl
    | some e =>
      cases hstep : m.step dt (Posed.pose e) with
      | mk m' r =>
        cases r with
        | error g =>
          rw [stepAll_cons_error he hstep, stepAll_cons_error he hstep]
          rfl
        | ok p =>
          rw [stepAll_cons_some he hstep] at h
          rw [stepAll_cons_some he hstep, stepAll_cons_some he hstep, stepAll_append_of_error h]
          rfl

/-- What ends well does so as far as any part of the table.  By induction as the loop goes: if it
comes to the end it has come through every part. -/
theorem stepAll_ok_of_append {ns : List (Nat × Animation α)} :
    ∀ {ms : List (Nat × Animation α)} {things : Array ε},
      (stepAll dt (ms ++ ns) things).2.2 = .ok () → (stepAll dt ms things).2.2 = .ok ()
  | [], _, _ => rfl
  | (k, m) :: ms, things, h => by
    rw [List.cons_append] at h
    cases he : things[k]? with
    | none =>
      rw [stepAll_cons_none he] at h ⊢
      exact stepAll_ok_of_append h
    | some e =>
      cases hstep : m.step dt (Posed.pose e) with
      | mk m' r =>
        cases r with
        | error f =>
          rw [stepAll_cons_error he hstep] at h
          cases h
        | ok p =>
          rw [stepAll_cons_some he hstep] at h ⊢
          exact stepAll_ok_of_append h

/-- A step of time ends well if it does so for every thing.  By induction on the animations.  The
one that comes first changes only its own thing, so the outcome for every other thing is as
before; if it has no pose the loop ends there. -/
theorem stepAll_eq_ok_iff : ∀ {ms : List (Nat × Animation α)} {things : Array ε},
    (ms.map (·.1)).Nodup → ((stepAll dt ms things).2.2 = .ok () ↔
      ∀ i, (Order.advance dt).outcome (ms.lookup i, things[i]?) = .ok ())
  | [], things, _ => by simp [stepAll, Order.outcome]
  | (k, m) :: ms, things, hkeys => by
    rw [List.map_cons, List.nodup_cons] at hkeys
    cases he : things[k]? with
    | none =>
      rw [stepAll_cons_none he, stepAll_eq_ok_iff hkeys.2, outcome_cons hkeys.1 fun _ _ => rfl, he]
      exact ⟨fun h => ⟨rfl, h⟩, fun h => h.2⟩
    | some e =>
      cases hstep : m.step dt (Posed.pose e) with
      | mk m' r =>
        have houtcome : (Order.advance dt).outcome (some m, some e) = r.map fun _ => () := by
          rw [Order.outcome_advance, hstep]
        cases r with
        | error f =>
          rw [stepAll_cons_error he hstep, outcome_cons hkeys.1 fun _ _ => rfl, he, houtcome]
          constructor
          · intro h
            cases h
          · rintro ⟨h, -⟩
            cases h
        | ok p =>
          have hsame (i : Nat) (hik : i ≠ k) :
              (things.set! k (Posed.withPose p e))[i]? = things[i]? := by
            rw [Array.set!_eq_setIfInBounds, Array.getElem?_setIfInBounds_ne (Ne.symm hik)]
          rw [stepAll_cons_some he hstep, stepAll_eq_ok_iff hkeys.2, outcome_cons hkeys.1 hsame, he,
            houtcome]
          exact ⟨fun h => ⟨rfl, h⟩, fun h => h.2⟩

end Step

/-! ## 3. What an order makes of one thing

For one thing an order is an order of its own, or a step, or nothing.  Looked at in this way a run
for many things is a run for each. -/

section View

variable {i : Nat}

omit [Scalar α] in
/-- To set one animation changes no other. -/
theorem find?_put_ne (a : Motions α) {k : Nat} (m : Animation α) (h : k ≠ i) :
    (a.put k m).find? i = a.find? i := by
  obtain ⟨entries⟩ := a
  unfold put find?
  split
  · clear * - h
    dsimp only
    induction entries with
    | nil => rfl
    | cons p entries ih =>
      obtain ⟨j, d⟩ := p
      rw [List.map_cons]
      by_cases hj : j = k
      · rw [if_pos (by simp [hj]), List.lookup_cons, List.lookup_cons, hj,
          beq_false_of_ne (Ne.symm h)]
        exact ih
      · rw [if_neg (by simp [hj]), List.lookup_cons, List.lookup_cons, ih]
  · rw [List.lookup_append, List.lookup_cons, beq_false_of_ne (Ne.symm h), List.lookup_nil,
      Option.or_none]

omit [Scalar α] in
/-- To forget one forgets only that. -/
theorem find?_remove (a : Motions α) (k : Nat) :
    (a.remove k).find? i = if k = i then none else a.find? i := by
  obtain ⟨entries⟩ := a
  unfold remove find?
  dsimp only
  induction entries with
  | nil => exact (ite_self _).symm
  | cons p entries ih =>
    obtain ⟨j, d⟩ := p
    by_cases hj : j = k
    · rw [List.filter_cons_of_neg (by simp [hj]), ih, List.lookup_cons]
      split
      · rfl
      · next hki => rw [hj, beq_false_of_ne (Ne.symm hki)]
    · rw [List.filter_cons_of_pos (by simp [hj]), List.lookup_cons, ih, List.lookup_cons]
      split
      · next hij => rw [if_neg fun hki => hj ((beq_iff_eq.1 hij).symm.trans hki.symm)]
      · rfl

variable {s : Motions α × Array ε}

/-- Every thing has at most one animation. -/
def Distinct (s : Motions α × Array ε) : Prop := (s.1.entries.map (·.1)).Nodup

/-- No order gives a thing a second animation. -/
theorem Distinct.obey (h : Distinct s) (o : Order α) : Distinct ((obey o).after s) := by
  cases o with
  | attach k spec canvas =>
    change ((s.1.attach k spec canvas s.2).1.entries.map (·.1)).Nodup
    unfold Motions.attach
    split
    · exact h
    · exact nodup_put h k _
  | remove k => exact h.sublist (List.filter_sublist.map _)
  | clear => exact List.nodup_nil
  | advance dt =>
    change ((stepAll dt s.1.entries s.2).1.map (·.1)).Nodup
    rw [keys_stepAll]
    exact h

/-- **An order that gets to a thing makes of it what can be told from the thing and its animation
alone; any other leaves both as they are.** -/
theorem view_obey (h : Distinct s) (o : Order α) :
    view i ((obey o).after s) = if reaches i o s then o.effect i (view i s) else view i s := by
  cases o with
  | attach k spec canvas =>
    change view i (s.1.attach k spec canvas s.2) =
      if (k == i) = true then (Order.attach k spec canvas).effect i (view i s) else view i s
    unfold Motions.attach view
    by_cases hki : k = i
    · subst hki
      rw [if_pos (beq_self_eq_true k)]
      cases he : s.2[k]? with
      | none =>
        unfold Order.effect
        rw [he]
      | some e =>
        rw [Order.effect_attach]
        dsimp only
        rw [find?_put]
        rw [Array.set!_eq_setIfInBounds,
          Array.getElem?_setIfInBounds_self_of_lt (Array.getElem?_eq_some_iff.1 he).1]
    · rw [if_neg (by simp [hki])]
      split
      · rfl
      · dsimp only
        rw [find?_put_ne _ _ hki, Array.set!_eq_setIfInBounds,
          Array.getElem?_setIfInBounds_ne hki]
  | remove k =>
    change ((s.1.remove k).find? i, s.2[i]?) =
      if (k == i) = true then (Order.remove k).effect i (view i s) else view i s
    rw [find?_remove]
    by_cases hki : k = i
    · rw [if_pos hki, if_pos (by simp [hki])]
      exact (if_pos hki).symm
    · rw [if_neg hki, if_neg (by simp [hki])]
      rfl
  | clear => rfl
  | advance dt => exact view_stepAll i s.1.entries s.2 h

/-- An order ends well if it does so for every thing. -/
theorem run_obey_eq_ok_iff (h : Distinct s) (o : Order α) :
    ((obey o).run s).1 = .ok () ↔ ∀ i, o.outcome (view i s) = .ok () := by
  cases o with
  | attach | remove | clear => exact ⟨fun _ _ => rfl, fun _ => rfl⟩
  | advance dt => exact stepAll_eq_ok_iff h

/-- An order that ends well gets to all that it regards. -/
theorem reaches_of_ok {o : Order α} (h : ((obey o).run s).1 = .ok ()) :
    reaches i o s = o.regards i := by
  cases o with
  | attach | remove | clear => rfl
  | advance dt =>
    have hall : (stepAll dt (s.1.entries.takeWhile (·.1 != i) ++
        s.1.entries.dropWhile (·.1 != i)) s.2).2.2 = .ok () := by
      rw [List.takeWhile_append_dropWhile]
      exact h
    change (stepAll dt _ s.2).2.2.isOk = true
    rw [stepAll_ok_of_append hall]
    rfl

/-- No order gets to a thing that it does not regard. -/
theorem regards_of_reaches {o : Order α} (h : reaches i o s = true) : o.regards i = true := by
  cases o with
  | attach | remove | clear => exact h
  | advance dt => rfl

/-- **Only a pulse at an angle without a sine keeps a step of time from another thing.** The loop
ended before it came to the thing, so one of those in front is lost, and it is still in the table
after the step. -/
theorem exists_lost_of_not_reaches {dt : α} (h : reaches i (.advance dt) s = false) :
    ∃ k m f, k ≠ i ∧ (k, m) ∈ ((obey (.advance dt)).after s).1.entries ∧ m.Lost f := by
  change (stepAll dt (s.1.entries.takeWhile (·.1 != i)) s.2).2.2.isOk = false at h
  cases hr : (stepAll dt (s.1.entries.takeWhile (·.1 != i)) s.2).2.2 with
  | ok =>
    rw [hr] at h
    cases h
  | error f =>
    obtain ⟨k, m, hm, hlost⟩ := exists_lost_of_stepAll _ _ hr
    refine ⟨k, m, f, ?_, ?_, hlost⟩
    · have hkey : k ∈ (stepAll dt (s.1.entries.takeWhile (·.1 != i)) s.2).1.map (·.1) :=
        List.mem_map.2 ⟨_, hm, rfl⟩
      rw [keys_stepAll] at hkey
      obtain ⟨q, hq, rfl⟩ := List.mem_map.1 hkey
      have hne : (q.1 != i) = true :=
        List.mem_takeWhile_imp (p := fun q : Nat × Animation α => q.1 != i) hq
      exact bne_iff_ne.1 hne
    · change _ ∈ (stepAll dt s.1.entries s.2).1
      rw [← List.takeWhile_append_dropWhile (p := (·.1 != i)) (l := s.1.entries),
        stepAll_append_of_error hr]
      exact List.mem_append_left _ hm

end View

/-! ## 4. Runs

By induction on the orders.  What is to be seen of one thing after all of them is what the orders
that got to it have made of it, one after the other. -/

section Runs

variable {i : Nat} {s : Motions α × Array ε}

/-- So there is never more than one animation for a thing. -/
theorem Distinct.obeyAll (h : Distinct s) (os : List (Order α)) : Distinct (obeyAll os s) := by
  induction os generalizing s with
  | nil => exact h
  | cons o os ih => exact ih (h.obey o)

/-- What is to be seen of a thing is decided by the orders that got to it. -/
theorem view_obeyAll (h : Distinct s) (os : List (Order α)) :
    view i (obeyAll os s) = (heard i os s).foldl (fun v o => o.effect i v) (view i s) := by
  induction os generalizing s with
  | nil => rfl
  | cons o os ih =>
    change view i (obeyAll os ((obey o).after s)) = _
    rw [ih (h.obey o), view_obey h, heard]
    split <;> rfl

/-- Only the thing `i` has an animation. -/
def Alone (i : Nat) (s : Motions α × Array ε) : Prop := ∀ p ∈ s.1.entries, p.1 = i

omit [Scalar α] [Posed ε α] in
/-- Where only one thing is looked after, no other has an animation. -/
theorem Alone.find?_ne {k : Nat} (h : Alone i s) (hk : k ≠ i) : s.1.find? k = none := by
  refine List.lookup_eq_none_iff.2 fun p hp => ?_
  rw [h p hp]
  exact bne_iff_ne.2 hk

/-- An order that regards this thing only, or all, brings in no other. -/
theorem Alone.obey (h : Alone i s) {o : Order α} (ho : o.regards i = true) :
    Alone i ((obey o).after s) := by
  cases o with
  | attach k spec canvas =>
    intro p hp
    have hp : p ∈ (s.1.attach k spec canvas s.2).1.entries := hp
    rcases mem_attach hp with hp | hp
    · exact h p hp
    · exact hp.trans (beq_iff_eq.1 ho)
  | remove k => exact fun p hp => h p (List.mem_of_mem_filter hp)
  | clear => exact fun p hp => nomatch hp
  | advance dt =>
    intro p hp
    have hkey : p.1 ∈ (stepAll dt s.1.entries s.2).1.map (·.1) := List.mem_map_of_mem hp
    rw [keys_stepAll] at hkey
    obtain ⟨q, hq, hqp⟩ := List.mem_map.1 hkey
    exact hqp ▸ h q hq

/-- Nothing stands before the only animation. -/
theorem Alone.reaches (h : Alone i s) {o : Order α} (ho : o.regards i = true) :
    reaches i o s = true := by
  cases o with
  | attach | remove | clear => exact ho
  | advance dt =>
    have hnone : s.1.entries.takeWhile (·.1 != i) = [] := by
      cases hms : s.1.entries with
      | nil => rfl
      | cons p ms =>
        have hp : p.1 = i := h p (hms ▸ List.mem_cons_self)
        rw [List.takeWhile_cons_of_neg (by simp [hp])]
    change (stepAll dt _ s.2).2.2.isOk = true
    rw [hnone]
    rfl

/-- Where there is no other, nothing gets in the way of an order. -/
theorem Alone.heard (h : Alone i s) {os : List (Order α)} (hos : ∀ o ∈ os, o.regards i = true) :
    heard i os s = os := by
  induction os generalizing s with
  | nil => rfl
  | cons o os ih =>
    have ho := hos o List.mem_cons_self
    rw [Motions.heard, if_pos (h.reaches ho),
      ih (h.obey ho) fun o ho => hos o (List.mem_cons_of_mem _ ho)]

theorem regards_of_mem_heard {os : List (Order α)} : ∀ o ∈ heard i os s, o.regards i = true := by
  induction os generalizing s with
  | nil => exact fun o ho => nomatch ho
  | cons o os ih =>
    rw [Motions.heard]
    split
    · next hreach => exact List.forall_mem_cons.2 ⟨regards_of_reaches hreach, ih⟩
    · exact ih

/-- Only some of the orders that regard the thing may get to it. -/
theorem heard_sublist {os : List (Order α)} :
    (heard i os s).Sublist (os.filter (·.regards i)) := by
  induction os generalizing s with
  | nil => exact List.Sublist.slnil
  | cons o os ih =>
    rw [Motions.heard, List.filter_cons]
    split
    · next hreach =>
      rw [if_pos (regards_of_reaches hreach)]
      exact ih.cons_cons o
    · split
      · exact ih.cons o
      · exact ih

/-- If none of the orders ends with a fault, all get to all that they regard. -/
theorem Calm.heard {os : List (Order α)} (h : Calm os s) :
    heard i os s = os.filter (·.regards i) := by
  induction os generalizing s with
  | nil => rfl
  | cons o os ih =>
    rw [Motions.heard, reaches_of_ok h.1, List.filter_cons, ih h.2]

/-- An order that does not regard a thing does not fail by it. -/
theorem outcome_of_not_regards {o : Order α} (ho : o.regards i = false)
    (v : Option (Animation α) × Option ε) : o.outcome v = .ok () := by
  cases o with
  | attach | remove | clear => rfl
  | advance dt => cases ho

/-- For a thing alone, an order fails exactly if it fails by this thing. -/
theorem Alone.run_obey_eq_ok_iff (h : Alone i s) (hd : Distinct s) (o : Order α) :
    ((Motions.obey o).run s).1 = .ok () ↔ o.outcome (view i s) = .ok () := by
  rw [Motions.run_obey_eq_ok_iff hd]
  refine ⟨fun hall => hall i, fun hi k => ?_⟩
  by_cases hk : k = i
  · exact hk ▸ hi
  · rw [view, h.find?_ne hk]
    cases o <;> rfl

/-- That no order fails is said of the first and of the rest. -/
theorem calm_filter_cons (o : Order α) (os : List (Order α)) :
    Calm ((o :: os).filter (·.regards i)) s ↔
      (o.regards i = true → ((Motions.obey o).run s).1 = .ok ()) ∧
        Calm (os.filter (·.regards i)) (if o.regards i then (Motions.obey o).after s else s) := by
  rw [List.filter_cons]
  split
  · next h => exact ⟨fun hc => ⟨fun _ => hc.1, hc.2⟩, fun hc => ⟨hc.1 h, hc.2⟩⟩
  · next h => exact ⟨fun hc => ⟨fun h' => (h h').elim, hc⟩, fun hc => hc.2⟩

/-- **Orders for many end with a fault only if they would for one of them alone.** By induction on
the orders.  What one order does to a thing depends on this thing alone, and orders that do not
regard it change nothing of it. -/
theorem calm_iff (os : List (Order α)) (hs : Distinct s) {alone : Nat → Motions α × Array ε}
    (hd : ∀ i, Distinct (alone i)) (ha : ∀ i, Alone i (alone i))
    (hview : ∀ i, view i (alone i) = view i s) :
    Calm os s ↔ ∀ i, Calm (os.filter (·.regards i)) (alone i) := by
  induction os generalizing s alone with
  | nil => exact ⟨fun _ _ => trivial, fun _ => trivial⟩
  | cons o os ih =>
    have hok : ((Motions.obey o).run s).1 = .ok () ↔
        ∀ i, o.regards i = true → ((Motions.obey o).run (alone i)).1 = .ok () := by
      rw [Motions.run_obey_eq_ok_iff hs]
      refine forall_congr' fun i => ?_
      rw [(ha i).run_obey_eq_ok_iff (hd i), hview i]
      cases ho : o.regards i with
      | true => exact ⟨fun h _ => h, fun h => h rfl⟩
      | false => exact ⟨fun _ => nofun, fun _ => outcome_of_not_regards ho _⟩
    -- After the order each thing is seen together as alone, if the order ends well.
    have hrest (h : ((Motions.obey o).run s).1 = .ok ()) :
        Calm os ((Motions.obey o).after s) ↔ ∀ i, Calm (os.filter (·.regards i))
          (if o.regards i then (Motions.obey o).after (alone i) else alone i) := by
      refine ih (hs.obey o) (fun i => ?_) (fun i => ?_) (fun i => ?_)
      · split
        · exact (hd i).obey o
        · exact hd i
      · split
        · next ho => exact (ha i).obey ho
        · exact ha i
      · rw [view_obey hs, reaches_of_ok h]
        split
        · next ho => rw [view_obey (hd i), if_pos ((ha i).reaches ho), hview i]
        · exact hview i
    simp only [calm_filter_cons, forall_and, ← hok]
    exact and_congr_right hrest

end Runs

/-! ## 5. Living animations

Which things have an animation is a matter of the orders alone, and not of time: a completed
animation stays in the table until it is removed. -/

/-- The thing `i` has an animation that was attached and not removed. -/
def Lives (i : Nat) (os : List (Order α)) : Prop :=
  ∃ before spec canvas after, os = before ++ .attach i spec canvas :: after ∧
    .remove i ∉ after ∧ .clear ∉ after

section Lives

variable {i : Nat} {s : Motions α × Array ε}

/-- No thing is lost or added by a step. -/
theorem size_stepAll (dt : α) : ∀ (ms : List (Nat × Animation α)) (things : Array ε),
    (stepAll dt ms things).2.1.size = things.size
  | [], _ => rfl
  | (k, m) :: ms, things => by
    unfold stepAll
    split
    · exact size_stepAll dt ms things
    · split
      · rfl
      · exact (size_stepAll dt ms _).trans (Array.size_set! ..)

theorem size_obey (o : Order α) : ((obey o).after s).2.size = s.2.size := by
  cases o with
  | attach k spec canvas =>
    change (s.1.attach k spec canvas s.2).2.size = s.2.size
    unfold attach
    split
    · rfl
    · exact Array.size_set! ..
  | remove | clear => rfl
  | advance dt => exact size_stepAll dt s.1.entries s.2

/-- Any number of orders leave as many things as there were. -/
theorem size_obeyAll (os : List (Order α)) : (obeyAll os s).2.size = s.2.size := by
  induction os generalizing s with
  | nil => rfl
  | cons o os ih => exact ih.trans (size_obey o)

theorem obeyAll_concat (os : List (Order α)) (o : Order α) :
    obeyAll (os ++ [o]) s = (obey o).after (obeyAll os s) := by
  unfold obeyAll
  rw [List.foldl_append]
  rfl

omit [Scalar α] in
/-- Attaching makes an animation live, removing its own or all ends its life, and nothing else
does either. -/
theorem lives_concat (os : List (Order α)) (o : Order α) :
    Lives i (os ++ [o]) ↔ (∃ spec canvas, o = .attach i spec canvas) ∨
      Lives i os ∧ o ≠ .remove i ∧ o ≠ .clear := by
  constructor
  · rintro ⟨before, spec, canvas, after, hos, hremove, hclear⟩
    rcases List.eq_nil_or_concat' after with rfl | ⟨after, last, rfl⟩
    · exact Or.inl ⟨spec, canvas, (List.append_inj' hos rfl).2 |> List.singleton_inj.1⟩
    · rw [← List.cons_append, ← List.append_assoc] at hos
      obtain ⟨hbefore, hlast⟩ := List.append_inj' hos rfl
      rw [List.mem_append, not_or] at hremove hclear
      cases List.singleton_inj.1 hlast
      exact Or.inr ⟨⟨before, spec, canvas, after, hbefore, hremove.1, hclear.1⟩,
        fun h => hremove.2 (h ▸ List.mem_singleton_self _),
        fun h => hclear.2 (h ▸ List.mem_singleton_self _)⟩
  · rintro (⟨spec, canvas, rfl⟩ | ⟨⟨before, spec, canvas, after, rfl, hremove, hclear⟩, hr, hc⟩)
    · exact ⟨os, spec, canvas, [], rfl, List.not_mem_nil, List.not_mem_nil⟩
    · refine ⟨before, spec, canvas, after ++ [o], by simp, ?_, ?_⟩
      · simpa using ⟨hremove, fun h => hr h.symm⟩
      · simpa using ⟨hclear, fun h => hc h.symm⟩

omit [Scalar α] in
theorem contains_iff (a : Motions α) : a.contains i = true ↔ i ∈ a.entries.map (·.1) := by
  unfold contains find?
  rw [List.lookup_isSome_iff, List.mem_map]
  exact exists_congr fun p => and_congr_right fun _ => beq_iff_eq.trans eq_comm

/-- A thing has an animation if it is given one now, or had one that is not taken away.  The cases
are the orders; only giving one and taking one away are about a single thing. -/
theorem contains_obey (o : Order α) :
    ((obey o).after s).1.contains i = true ↔
      ((∃ spec canvas, o = .attach i spec canvas) ∧ i < s.2.size) ∨
        s.1.contains i = true ∧ o ≠ .remove i ∧ o ≠ .clear := by
  cases o with
  | attach k spec canvas =>
    change (s.1.attach k spec canvas s.2).1.contains i = true ↔ _
    simp only [ne_eq, reduceCtorEq, not_false_eq_true, and_true]
    unfold attach
    cases he : s.2[k]? with
    | none =>
      refine ⟨Or.inr, ?_⟩
      rintro (⟨⟨_, _, h⟩, hi⟩ | h)
      · cases h
        exact absurd hi (Nat.not_lt.2 (Array.getElem?_eq_none_iff.1 he))
      · exact h
    | some e =>
      dsimp only [contains]
      -- the new one is under `k`, every other key finds what it found before
      by_cases hki : k = i
      · subst hki
        rw [find?_put]
        exact ⟨fun _ => Or.inl ⟨⟨spec, canvas, rfl⟩, (Array.getElem?_eq_some_iff.1 he).1⟩,
          fun _ => rfl⟩
      · rw [find?_put_ne _ _ hki]
        refine ⟨Or.inr, ?_⟩
        rintro (⟨⟨_, _, h⟩, -⟩ | h)
        · cases h
          exact (hki rfl).elim
        · exact h
  | remove k =>
    change ((s.1.remove k).find? i).isSome = true ↔ _
    rw [find?_remove]
    by_cases hki : k = i
    · simp [hki]
    · simp [hki, contains]
  | clear => simp [obey, after, contains, find?]
  | advance dt =>
    have hkeys : ((stepAll dt s.1.entries s.2).1.map (·.1)) = s.1.entries.map (·.1) :=
      keys_stepAll dt _ _
    rw [contains_iff, contains_iff]
    change i ∈ (stepAll dt s.1.entries s.2).1.map (·.1) ↔ _
    rw [hkeys]
    simp

/-- Put together: the last order that gives or takes decides. -/
theorem contains_obeyAll (things : Array ε) (os : List (Order α)) :
    (obeyAll os (({} : Motions α), things)).1.contains i = true ↔ i < things.size ∧ Lives i os := by
  induction os using List.reverseRecOn with
  | nil =>
    refine ⟨nofun, ?_⟩
    rintro ⟨-, before, spec, canvas, after, h, -⟩
    exact absurd h.symm (by simp)
  | append_singleton os o ih =>
    rw [obeyAll_concat, contains_obey, size_obeyAll, ih, lives_concat, and_or_left, and_assoc]
    exact or_congr_left and_comm

omit [Scalar α] [Posed ε α] in
/-- So the size of the table is the number of things with an animation. -/
theorem size_eq_ncard (h : Distinct s) : s.1.size = {i | s.1.contains i = true}.ncard := by
  have hset : {i | s.1.contains i = true} = ↑(s.1.entries.map (·.1)).toFinset := by
    ext i
    rw [Set.mem_ofPred_eq, contains_iff, List.coe_toFinset, Set.mem_ofPred_eq]
  rw [hset, Set.ncard_coe_finset, List.toFinset_card_of_nodup h, List.length_map]
  rfl

end Lives

/-! ## 6. Together and alone

Where every animation has a pose at all times, what becomes of one thing is what would become of
it alone. -/

/-- **Animations keep to themselves as long as all have a pose.**  Orders are given to an empty
table of animations.  After any of them:

* If none ended with a fault, each thing and its animation are as if only the orders that regard it
  had been given: those for it, and those for all.
* None ends with a fault exactly if none would for any of the things alone.
* In any case each thing and its animation are as if only the orders that got to it had been given,
  which are some of those that regard it.
* The table has as many animations as there are things to which one was attached that was not removed
  since.
* A further step of time steps the animation of each thing it gets to, once, and no other; it does
  not get to a thing only if there is a pulse at an angle without a sine. -/
theorem together_as_alone (things : Array ε) (os : List (Order α)) :
    (Calm os ({}, things) → ∀ i,
      view i (obeyAll os ({}, things)) =
        view i (obeyAll (os.filter (·.regards i)) ({}, things))) ∧
    (Calm os ({}, things) ↔ ∀ i, Calm (os.filter (·.regards i)) ({}, things)) ∧
    (∀ i, (heard i os ({}, things)).Sublist (os.filter (·.regards i)) ∧
      view i (obeyAll os ({}, things)) =
        view i (obeyAll (heard i os ({}, things)) ({}, things))) ∧
    (obeyAll os ({}, things)).1.size = {i | i < things.size ∧ Lives i os}.ncard ∧
    ∀ dt i m e, view i (obeyAll os ({}, things)) = (some m, some e) →
      view i (obeyAll (os ++ [.advance dt]) ({}, things)) =
        (if reaches i (.advance dt) (obeyAll os ({}, things)) then
          (some (m.step dt (Posed.pose e)).1, some (stepped dt m e))
        else (some m, some e)) ∧
      (reaches i (.advance dt) (obeyAll os ({}, things)) = false → ∃ k m' f, k ≠ i ∧
        (k, m') ∈ (obeyAll (os ++ [.advance dt]) ({}, things)).1.entries ∧ m'.Lost f) := by
  have hd : Distinct (({}, things) : Motions α × Array ε) := List.nodup_nil
  have ha (i : Nat) : Alone i (({}, things) : Motions α × Array ε) := fun _ hp => nomatch hp
  have hheard (i : Nat) : view i (obeyAll os ({}, things)) =
      view i (obeyAll (heard i os ({}, things)) ({}, things)) := by
    rw [view_obeyAll hd os, view_obeyAll hd (heard i os _), (ha i).heard regards_of_mem_heard]
  refine ⟨fun hcalm i => ?_, calm_iff os hd (fun _ => hd) ha fun _ => rfl,
    fun i => ⟨heard_sublist, hheard i⟩, ?_, fun dt i m e hview => ⟨?_, fun hr => ?_⟩⟩
  · rw [hheard i, hcalm.heard]
  · rw [size_eq_ncard (hd.obeyAll os)]
    simp only [contains_obeyAll]
  · rw [obeyAll_concat, view_obey (hd.obeyAll os), hview]
    rfl
  · rw [obeyAll_concat]
    exact exists_lost_of_not_reaches hr

/-! Two lamps, the first of which goes out while the second lights up.  If the first pulses instead,
at an angle that is too large, the second stays dark. -/

/-- Exact numbers, of which those beyond a thousand count as infinite. -/
@[reducible] def bounded : Scalar Rat :=
  { Scalar.exact (fun x => x) 57 with
    trunc? := fun x => if x ≤ 1000 then some (Decimal.truncDiv x.num x.den) else none }

def lighting : AnimationSpec Rat where
  kind := .fadeIn
  duration := 1
  delay := 0
  easing := .linear
  side := .top

def racing : AnimationSpec Rat where
  kind := .pulse
  duration := 1
  delay := -1000
  easing := .linear
  side := .top

/-- The orders for two lamps. -/
def orders (first : AnimationSpec Rat) : List (Order Rat) :=
  [.attach 0 first (1080, 1920), .attach 1 lighting (1080, 1920), .advance (1 / 2), .remove 0]

/-- Two lamps, dimmed together without a fault and seen as if alone; and two of which one pulses
at an angle without a sine, so that the other misses a step. -/
theorem together_as_alone_lamps : letI := bounded
    let lamps : Motions Rat × Array (Entity Rat) := ({}, #[lamp, lamp])
    Calm (orders dimming) lamps ∧
    view 1 (obeyAll (orders dimming) lamps) =
      view 1 (obeyAll [.attach 1 lighting (1080, 1920), .advance (1 / 2)] lamps) ∧
    ¬ Calm (orders racing) lamps ∧
    (∃ k m f, k ≠ 1 ∧
      (k, m) ∈ (obeyAll ((orders racing).take 2 ++ [.advance (1 / 2)]) lamps).1.entries ∧
      m.Lost f) ∧
    (obeyAll (orders racing) lamps).2[1]?.map (·.alpha) = some 0 ∧
    (obeyAll ((orders racing).filter (·.regards 1)) lamps).2[1]?.map (·.alpha) = some (2 / 5) := by
  let _ := bounded
  intro lamps
  have hcalm : Calm (orders dimming) lamps := ⟨rfl, rfl, by decide +kernel, rfl, trivial⟩
  obtain ⟨htogether, -⟩ := together_as_alone #[lamp, lamp] (orders dimming)
  obtain ⟨-, -, -, -, hstep⟩ := together_as_alone #[lamp, lamp] ((orders racing).take 2)
  refine ⟨hcalm, htogether hcalm 1, ?_, (hstep (1 / 2) 1 _ _ rfl).2 ?_, ?_, ?_⟩
  · rintro ⟨-, -, h, -⟩
    revert h
    decide +kernel
  · decide +kernel
  · decide +kernel
  · decide +kernel

end Diorama.Motions
