/-
# Ledgers

A `Ledger` says which images there are, which scene is current, and what each scene would load and
give back.  A scene that is entered loads the images of its manifest unless it has them, and a
scene that leaves gives back what its manifest lists; a change of scenes does the one and then the
other (`Ledger.change`).

A ledger is balanced if the images are those of the current scene and no other scene believes to
have any.  If every manifest lists the ids that its images are loaded under, then leaving clears a
balanced ledger, and who comes next finds it so.
-/
import Diorama.Proofs.Images

namespace Diorama

variable {α : Type}

/-! ## 1. Ledgers

The books of a depot and its scenes, without the world around them: which images there are, which
scene is current, and which assets each scene has.  A change of scenes is the same three steps
here as in the engine: one leaves, one is bound, one loads. -/

/-- What of a scene decides which images are kept for it. -/
structure Tenant (α : Type) where
  bound : Bool
  started : Bool
  assets : Manifest α

/-- The ids of the images in the depot, the current scene, and all scenes. -/
structure Ledger (α : Type) where
  has : String → Bool
  current : Option Nat
  tenant? : Nat → Option (Tenant α)

namespace Ledger

/-- Changes the tenant of a number. -/
def set (n : Nat) (f : Tenant α → Tenant α) (l : Ledger α) : Ledger α :=
  { l with tenant? := fun m => if n = m then (l.tenant? m).map f else l.tenant? m }

/-- Only a tenant that there is can change. -/
theorem set_eq_self {l : Ledger α} {n : Nat} {f : Tenant α → Tenant α}
    (h : ∀ t, l.tenant? n = some t → f t = t) : l.set n f = l := by
  have hsame : (fun m => if n = m then (l.tenant? m).map f else l.tenant? m) = l.tenant? := by
    funext m
    split
    · next hnm =>
      subst hnm
      cases ht : l.tenant? n with
      | none => rfl
      | some t => rw [Option.map_some, h t ht]
    · rfl
  rw [set, hsame]

variable [Scalar α]

/-- The images that a manifest lists are given back, and the tenant has to load them again. -/
def giveBack (n : Nat) (l : Ledger α) : Ledger α :=
  match l.tenant? n with
  | some t =>
    if t.bound && !t.assets.ids.isEmpty then
      { l.set n fun t => { t with started := false } with
        has := fun id => l.has id && !t.assets.ids.contains id }
    else l
  | none => l

/-- The current tenant leaves, if there is one. -/
def dismiss (l : Ledger α) : Ledger α :=
  match l.current with
  | some n => l.giveBack n
  | none => l

/-- The images of a tenant come in, unless it has them. -/
def setUp (n : Nat) (l : Ledger α) : Ledger α :=
  match l.tenant? n with
  | some t =>
    if t.started then l
    else
      { l.set n fun t => { t with started := true } with
        has := fun id => l.has id || t.assets.loadedIds.contains id }
  | none => l

/-- The next tenant takes over, if there is one. -/
def change (next : Option Nat) (l : Ledger α) : Ledger α :=
  match next with
  | some n => ({ l.dismiss.set n fun t => { t with bound := true } with current := next }).setUp n
  | none => { l.dismiss with current := next }

end Ledger

/-! ## 2. Balanced ledgers

The condition that every change of scenes keeps, whatever the manifests say: all images belong to
the current scene. -/

namespace Ledger

/-- To change one tenant changes no other. -/
theorem tenant?_set {l : Ledger α} {n m : Nat} {f : Tenant α → Tenant α} {t : Tenant α}
    (h : (l.set n f).tenant? m = some t) :
    ∃ t', l.tenant? m = some t' ∧ t = if n = m then f t' else t' := by
  change (if n = m then (l.tenant? m).map f else l.tenant? m) = some t at h
  split at h
  · next hnm =>
    obtain ⟨t', ht', rfl⟩ := Option.map_eq_some_iff.1 h
    exact ⟨t', ht', (if_pos hnm).symm⟩
  · next hnm => exact ⟨t, h, (if_neg hnm).symm⟩

/-- What holds of the changed tenant and of the others holds of all. -/
theorem forall_set {l : Ledger α} {n m : Nat} {f : Tenant α → Tenant α} {t : Tenant α}
    {P : Nat → Tenant α → Prop} (h : (l.set n f).tenant? m = some t)
    (hself : ∀ t, l.tenant? n = some t → P n (f t))
    (hother : ∀ m t, n ≠ m → l.tenant? m = some t → P m t) : P m t := by
  obtain ⟨t', ht', rfl⟩ := tenant?_set h
  split
  · next hnm =>
    subst hnm
    exact hself t' ht'
  · next hnm => exact hother m t' hnm ht'

variable [Scalar α]

/-- All images are the current tenant's, and it has all of its own once it was set up; no other
tenant keeps any. -/
structure Balanced (l : Ledger α) : Prop where
  listed : ∀ n t, l.tenant? n = some t → t.assets.Listed
  bound : ∀ n t, l.current = some n → l.tenant? n = some t → t.bound = true
  own : ∀ id, l.has id = true →
    ∃ n t, l.current = some n ∧ l.tenant? n = some t ∧ id ∈ t.assets.loadedIds
  full : ∀ n t, l.current = some n → l.tenant? n = some t → t.started = true →
    ∀ id ∈ t.assets.loadedIds, l.has id = true
  idle : ∀ n t, l.tenant? n = some t → t.started = true → l.current ≠ some n → t.assets.ids = []

/-- There are no images, and who would not load any has none to load. -/
structure Cleared (l : Ledger α) : Prop where
  listed : ∀ n t, l.tenant? n = some t → t.assets.Listed
  bound : ∀ n t, l.current = some n → l.tenant? n = some t → t.bound = true
  none : ∀ id, l.has id ≠ true
  idle : ∀ n t, l.tenant? n = some t → t.started = true → t.assets.ids = []

/-- A ledger without images is balanced: nothing has been loaded, so nothing is missing. -/
theorem Cleared.balanced {l : Ledger α} (h : l.Cleared) : l.Balanced where
  listed := h.listed
  bound := h.bound
  own id hid := (h.none id hid).elim
  full n t _ ht hstarted id hid := by
    have hmem := h.listed n t ht id hid
    rw [h.idle n t ht hstarted] at hmem
    cases hmem
  idle n t ht hstarted _ := h.idle n t ht hstarted

/-- A bound tenant gives back the images that it lists, also if these are none.  With an empty list
nothing is asked for at all; giving nothing back and keeping the mark is the same. -/
theorem giveBack_of_bound {l : Ledger α} {n : Nat} {t : Tenant α} (ht : l.tenant? n = some t)
    (hbound : t.bound = true) : l.giveBack n =
      { l.set n fun t => { t with started := t.started && t.assets.ids.isEmpty } with
        has := fun id => l.has id && !t.assets.ids.contains id } := by
  rw [giveBack, ht]
  dsimp only
  rw [hbound, Bool.true_and]
  cases hids : t.assets.ids.isEmpty with
  | true =>
    have hsame : l.set n (fun t => { t with started := t.started && t.assets.ids.isEmpty }) = l :=
      set_eq_self fun t' ht' => by
        obtain rfl : t = t' := Option.some.inj (ht.symm.trans ht')
        rw [hids, Bool.and_true]
    have hnil : t.assets.ids = [] := List.isEmpty_iff.1 hids
    rw [hsame, hnil]
    simp
  | false =>
    have hset : l.set n (fun t => { t with started := t.started && t.assets.ids.isEmpty }) =
        l.set n fun t => { t with started := false } := by
      unfold set
      congr 1
      funext m
      split
      · next hnm => rw [← hnm, ht, Option.map_some, Option.map_some, hids, Bool.and_false]
      · rfl
    rw [hset]
    rfl

/-- When the current tenant leaves, nothing is left.  Every image that was there was listed by the
current tenant, and all of its list goes. -/
theorem Balanced.dismiss {l : Ledger α} (h : l.Balanced) : l.dismiss.Cleared := by
  unfold Ledger.dismiss
  cases hcurrent : l.current with
  | none =>
    refine ⟨h.listed, h.bound, fun id hid => ?_, fun n t ht hs => h.idle n t ht hs ?_⟩
    · obtain ⟨n, -, hn, -⟩ := h.own id hid
      rw [hcurrent] at hn
      cases hn
    · rw [hcurrent]
      exact nofun
  | some n =>
    have hcurrent' {m : Nat} (hm : l.current = some m) : n = m :=
      Option.some.inj (hcurrent.symm.trans hm)
    dsimp only
    cases ht : l.tenant? n with
    | none =>
      rw [giveBack, ht]
      refine ⟨h.listed, h.bound, fun id hid => ?_, fun m t hm hs => h.idle m t hm hs fun hc => ?_⟩
      · obtain ⟨m, t, hm, htm, -⟩ := h.own id hid
        rw [← hcurrent' hm, ht] at htm
        cases htm
      · rw [← hcurrent' hc, ht] at hm
        cases hm
    | some t =>
      rw [giveBack_of_bound ht (h.bound n t hcurrent ht)]
      -- the four laws, each for the tenant that has left and for the others
      refine ⟨fun m u hu => ?_, fun m u hm hu => ?_, fun id hid => ?_, fun m u hu hs => ?_⟩
      · exact forall_set hu (h.listed n) fun m u _ => h.listed m u
      · exact forall_set (P := fun m u => l.current = some m → u.bound = true) hu
          (fun u hu hn => h.bound n u hn hu) (fun m u _ hu hm => h.bound m u hm hu) hm
      · rw [Bool.and_eq_true, Bool.not_eq_true', ← Bool.not_eq_true, List.contains_iff_mem] at hid
        obtain ⟨m, u, hm, hu, hload⟩ := h.own id hid.1
        rw [← hcurrent' hm, ht] at hu
        cases hu
        exact hid.2 (h.listed n t ht id hload)
      · refine forall_set (P := fun _ u => u.started = true → u.assets.ids = []) hu
          (fun u _ hs => ?_) (fun m u hnm hu hs => h.idle m u hu hs fun hm => hnm (hcurrent' hm)) hs
        exact List.isEmpty_iff.1 (Bool.and_eq_true_iff.1 hs).2

/-- Binding loads nothing. -/
theorem Cleared.bind {l : Ledger α} (h : l.Cleared) (n : Nat) :
    (l.set n fun t => { t with bound := true }).Cleared := by
  refine ⟨fun m u hu => ?_, fun m u hm hu => ?_, h.none, fun m u hu hs => ?_⟩
  · exact forall_set hu (h.listed n) fun m u _ => h.listed m u
  · exact forall_set (P := fun m u => l.current = some m → u.bound = true) hu (fun _ _ _ => rfl)
      (fun m u _ hu hm => h.bound m u hm hu) hm
  · exact forall_set (P := fun _ u => u.started = true → u.assets.ids = []) hu (h.idle n)
      (fun m u _ => h.idle m u) hs

/-- The new tenant is the current one. -/
theorem current_change (next : Option Nat) (l : Ledger α) : (l.change next).current = next := by
  cases next with
  | none => rfl
  | some n =>
    unfold change setUp
    dsimp only
    split
    · split <;> rfl
    · rfl

/-- A tenant that was not set up loads all that its manifest says. -/
theorem setUp_of_new {l : Ledger α} {n : Nat} {t : Tenant α} (ht : l.tenant? n = some t)
    (hnew : t.started = false) : l.setUp n =
      { l.set n fun t => { t with started := true } with
        has := fun id => l.has id || t.assets.loadedIds.contains id } := by
  rw [setUp, ht]
  dsimp only
  rw [hnew, if_neg (by decide)]

/-- A tenant that takes over was set up.  Either it had started before, or setting it up marks it. -/
theorem started_change {n : Nat} {l : Ledger α} {t : Tenant α}
    (ht : (l.change (some n)).tenant? n = some t) : t.started = true := by
  unfold change at ht
  dsimp only at ht
  generalize ({ l.dismiss.set n fun t => { t with bound := true } with current := some n } :
    Ledger α) = m at ht
  cases hm : m.tenant? n with
  | none =>
    rw [setUp, hm] at ht
    cases hm.symm.trans ht
  | some u =>
    cases hnew : u.started with
    | true =>
      rw [setUp, hm] at ht
      dsimp only at ht
      rw [if_pos hnew, hm] at ht
      cases ht
      exact hnew
    | false =>
      rw [setUp_of_new hm hnew] at ht
      obtain ⟨u', hu', rfl⟩ := tenant?_set ht
      rw [if_pos rfl]

/-- A new tenant comes and leaves again.  Its list comes in when it is set up and goes when it
leaves, and with nobody before it nothing else goes. -/
theorem has_change_change {l : Ledger α} {n : Nat} {t : Tenant α} (hn : l.current = none)
    (ht : l.tenant? n = some t) (hnew : t.started = false) (id : String) :
    ((l.change (some n)).change none).has id =
      ((l.has id || t.assets.loadedIds.contains id) && !t.assets.ids.contains id) := by
  have hdismiss : l.dismiss = l := by rw [dismiss, hn]
  let m : Ledger α := { l.set n fun t => { t with bound := true } with current := some n }
  have hm : m.tenant? n = some { t with bound := true } := by
    change (if n = n then (l.tenant? n).map _ else l.tenant? n) = _
    rw [if_pos rfl, ht, Option.map_some]
  have hchange : l.change (some n) = { m.set n fun t => { t with started := true } with
      has := fun id => l.has id || t.assets.loadedIds.contains id } := by
    unfold change
    dsimp only
    rw [hdismiss]
    exact (setUp_of_new hm hnew : m.setUp n = _)
  have hbound : (l.change (some n)).tenant? n = some { t with bound := true, started := true } := by
    rw [hchange]
    change (if n = n then (m.tenant? n).map _ else m.tenant? n) = _
    rw [if_pos rfl, hm, Option.map_some]
  have hleave : (l.change (some n)).dismiss = (l.change (some n)).giveBack n := by
    rw [dismiss, current_change]
  change (l.change (some n)).dismiss.has id = _
  rw [hleave, giveBack_of_bound hbound rfl, hchange]

/-- Some images of the current tenant come in. -/
theorem Balanced.receive {l : Ledger α} (h : l.Balanced) {n : Nat} {t : Tenant α}
    (hn : l.current = some n) (ht : l.tenant? n = some t) {has : String → Bool}
    (hkept : ∀ id, l.has id = true → has id = true)
    (hnew : ∀ id, has id = true → l.has id = true ∨ id ∈ t.assets.loadedIds) :
    ({ l with has } : Ledger α).Balanced where
  listed := h.listed
  bound := h.bound
  own id hid := by
    rcases hnew id hid with hid | hid
    · exact h.own id hid
    · exact ⟨n, t, hn, ht, hid⟩
  full m u hm hu hs id hid := hkept id (h.full m u hm hu hs id hid)
  idle := h.idle

/-- The current tenant has all of its images. -/
theorem Balanced.start {l : Ledger α} (h : l.Balanced) {n : Nat} (hn : l.current = some n)
    (hall : ∀ t, l.tenant? n = some t → ∀ id ∈ t.assets.loadedIds, l.has id = true) :
    (l.set n fun t => { t with started := true }).Balanced := by
  refine ⟨fun m u hu => ?_, fun m u hm hu => ?_, fun id hid => ?_, 
    fun m u hm hu hs id hid => ?_, fun m u hu hs hm => ?_⟩
  · exact forall_set hu (h.listed n) fun m u _ => h.listed m u
  · exact forall_set (P := fun m u => l.current = some m → u.bound = true) hu
      (fun u hu hn => h.bound n u hn hu) (fun m u _ hu hm => h.bound m u hm hu) hm
  · obtain ⟨m, u, hm, hu, hload⟩ := h.own id hid
    refine ⟨m, if n = m then { u with started := true } else u, hm, ?_, ?_⟩
    · change (if n = m then (l.tenant? m).map _ else l.tenant? m) = _
      rw [hu]
      split <;> rfl
    · split <;> exact hload
  · exact forall_set (P := fun m u => l.current = some m → ∀ id ∈ u.assets.loadedIds,
      l.has id = true) hu (fun u hu _ => hall u hu)
      (fun m u hnm _ hm => (hnm (Option.some.inj (hn.symm.trans hm))).elim) hm id hid
  · exact forall_set (P := fun m u => u.started = true → l.current ≠ some m → u.assets.ids = [])
      hu (fun _ _ _ hne => (hne hn).elim) (fun m u _ => h.idle m u) hs hm

end Ledger

end Diorama
