/-
# Rules for acts

An act ends with a result or a fault, and in both cases with a state.  So there are several kinds
of facts about it, and this module has the rules for each.

* What it does to the state however it ends: `x.Moves R` says that `R` holds between the state
  before and the state after.  For a relation that is reflexive and transitive this is passed
  down a sequence of acts without a look at any result.
* What holds at the end, when the rest of an act depends on a result: `Act.Spec P x Q E` has a
  condition for the start, one for an end with a result and one for an end with a fault.
  `x.Keeps I` is the case in which all three are the same.
* Which results and which faults there can be at all, from any state: `x.ResultsIn P` and
  `x.FaultsIn F`.
* Which faults there are from the states that matter, and what holds when one stops the act:
  `Act.FaultsFrom P F x`.
-/
import Diorama.Act
import Mathlib.Order.Defs.Unbundled

namespace Diorama.Act

variable {σ ρ β γ : Type}

/-! ## 1. The state after an act

`after` is the state that an act leaves, with a result or with a fault.  Most invariants are about
it, since what was done before a fault stays done. -/

/-- What is left behind, once a run is known. -/
theorem after_eq_of_run {x : Act σ β} {r : Except Fault β} {s t : σ} (h : x.run s = (r, t)) :
    x.after s = t := by
  rw [after, h]

theorem after_bind_of_ok {x : Act σ β} {f : β → Act σ γ} {s t : σ} {b : β}
    (h : x.run s = (.ok b, t)) : (x >>= f).after s = (f b).after t := by
  rw [after, run_bind_of_ok h, after]

/-- After a fault the rest is not run, so nothing more is left behind. -/
theorem after_bind_of_error {x : Act σ β} {f : β → Act σ γ} {s t : σ} {e : Fault}
    (h : x.run s = (.error e, t)) : (x >>= f).after s = t := by
  rw [after, run_bind_of_error h]

/-- A sequence ends where its first part does, or where its second part does from there. -/
theorem after_bind_cases {x : Act σ β} {f : β → Act σ γ} {s : σ} {P : σ → Prop}
    (hx : P (x.after s)) (hf : ∀ b t, x.run s = (.ok b, t) → P ((f b).after t)) :
    P ((x >>= f).after s) := by
  cases h : x.run s with
  | mk r t =>
    cases r with
    | ok b =>
      rw [after_bind_of_ok h]
      exact hf b t h
    | error e =>
      rw [after_bind_of_error h, ← after_eq_of_run h]
      exact hx

/-- A result can be computed where equality of whole runs cannot be decided: by asking for the
result only. -/
theorem eq_ok_of_toOption {ε : Type} {r : Except ε β} {b : β} (h : r.toOption = some b) :
    r = .ok b := by
  cases r with
  | ok c => exact congrArg Except.ok (Option.some.inj h)
  | error e => cases h

/-- So a run is known from its result alone, with whatever is left behind. -/
theorem run_of_toOption {x : Act σ β} {s : σ} {b : β} (h : (x.run s).1.toOption = some b) :
    x.run s = (.ok b, x.after s) := Prod.ext (eq_ok_of_toOption h) rfl

/-- An act on a part of the state has its results from there. -/
theorem run_zoom_eq_ok {view : σ → ρ} {put : ρ → σ → σ} {x : Act ρ β} {s t : σ} {b : β}
    (h : (zoom view put x).run s = (.ok b, t)) :
    ∃ r, x.run (view s) = (.ok b, r) ∧ t = put r s := by
  rw [run_zoom, Prod.mk.injEq] at h
  exact ⟨_, Prod.ext h.1 rfl, h.2.symm⟩

theorem run_map (f : β → γ) (x : Act σ β) (s : σ) :
    (f <$> x).run s = ((x.run s).1.map f, (x.run s).2) := by
  rw [map_eq_pure_bind, run_bind]
  split <;> simp_all [Except.map]

/-- Acts that begin in the same way are the same if what follows is. -/
theorem run_bind_congr {x : Act σ β} {f g : β → Act σ γ} {s : σ}
    (h : ∀ b t, x.run s = (.ok b, t) → (f b).run t = (g b).run t) :
    (x >>= f).run s = (x >>= g).run s := by
  cases hx : x.run s with
  | mk r t =>
    cases r with
    | ok b => rw [run_bind_of_ok hx, run_bind_of_ok hx, h b t hx]
    | error e => rw [run_bind_of_error hx, run_bind_of_error hx]

/-- An act that ends with a result has all its results. -/
theorem run_bind_eq_ok {x : Act σ β} {f : β → Act σ γ} {s t : σ} {c : γ} :
    (x >>= f).run s = (.ok c, t) ↔ ∃ b u, x.run s = (.ok b, u) ∧ (f b).run u = (.ok c, t) := by
  constructor
  · intro h
    cases hx : x.run s with
    | mk r u =>
      cases r with
      | ok b =>
        rw [run_bind_of_ok hx] at h
        exact ⟨b, u, rfl, h⟩
      | error e =>
        rw [run_bind_of_error hx] at h
        cases h
  · rintro ⟨b, u, hx, hf⟩
    rw [run_bind_of_ok hx, hf]

/-- An act that ends with a fault has it from one of its parts. -/
theorem run_bind_eq_error {x : Act σ β} {f : β → Act σ γ} {s t : σ} {e : Fault} :
    (x >>= f).run s = (.error e, t) ↔
      x.run s = (.error e, t) ∨ ∃ b u, x.run s = (.ok b, u) ∧ (f b).run u = (.error e, t) := by
  constructor
  · intro h
    cases hx : x.run s with
    | mk r u =>
      cases r with
      | ok b =>
        rw [run_bind_of_ok hx] at h
        exact .inr ⟨b, u, rfl, h⟩
      | error e' =>
        rw [run_bind_of_error hx] at h
        cases h
        exact .inl rfl
  · rintro (hx | ⟨b, u, hx, hf⟩)
    · exact run_bind_of_error hx
    · rw [run_bind_of_ok hx, hf]

/-! ## 2. What an act does to a state

`x.Moves R` says that every run of `x` takes a state to one that `R` relates to it, whether it
ends with a result or with a fault.  For a reflexive and transitive `R` the rules follow the text
of an act, and whatever can be said of the state before and after is an `R` of this kind: that a
part is the same, that something has only grown, that an invariant survives. -/

/-- However the act ends, `R` holds between the state before and the state after. -/
def Moves (R : σ → σ → Prop) (x : Act σ β) : Prop := ∀ s, R s (x.after s)

section Moves

variable {R S : σ → σ → Prop}

theorem Moves.mono {x : Act σ β} (hx : x.Moves R) (h : ∀ s t, R s t → S s t) : x.Moves S :=
  fun s => h _ _ (hx s)

/-- An act that changes nothing. -/
theorem Moves.of_eq [Std.Refl R] {x : Act σ β} (hx : x.Moves Eq) : x.Moves R := by
  intro s
  rw [← hx s]
  exact refl s

theorem moves_pure [Std.Refl R] (b : β) : (pure b : Act σ β).Moves R := fun s => refl s

theorem moves_throw [Std.Refl R] (e : Fault) : (throw e : Act σ β).Moves R := fun s => refl s

theorem moves_get [Std.Refl R] : (get : Act σ σ).Moves R := fun s => refl s

theorem moves_ofExcept [Std.Refl R] (r : Except Fault β) : (ofExcept r : Act σ β).Moves R :=
  fun s => refl s

/-- The only place where a state changes: here the relation has to be shown. -/
theorem moves_modify {f : σ → σ} (h : ∀ s, R s (f s)) : (modify f : Act σ PUnit).Moves R := h

/-- A sequence needs transitivity, since both of its parts move the state. -/
theorem moves_bind [IsTrans σ R] {x : Act σ β} {f : β → Act σ γ} (hx : x.Moves R)
    (hf : ∀ b, (f b).Moves R) : (x >>= f).Moves R := by
  intro s
  refine after_bind_cases (hx s) fun b t h => ?_
  have hst : R s t := after_eq_of_run h ▸ hx s
  exact Trans.trans hst (hf b t)

theorem moves_ite {c : Prop} [Decidable c] {x y : Act σ β} (hx : x.Moves R) (hy : y.Moves R) :
    (if c then x else y).Moves R := by
  split
  · exact hx
  · exact hy

/-- A fault that is caught leaves its changes, so it counts like a sequence. -/
theorem moves_tryCatch [IsTrans σ R] {x : Act σ β} {f : Fault → Act σ β} (hx : x.Moves R)
    (hf : ∀ e, (f e).Moves R) : (tryCatch x f).Moves R := by
  intro s
  have hs := hx s
  cases h : x.run s with
  | mk r t =>
    rw [after_eq_of_run h] at hs
    cases r with
    | ok b =>
      rw [after_eq_of_run (run_tryCatch_of_ok h)]
      exact hs
    | error e =>
      rw [after, run_tryCatch_of_error h]
      exact Trans.trans hs (hf e t)

/-- By induction on the list: every round moves the state on. -/
theorem moves_forM [Std.Refl R] [IsTrans σ R] {f : γ → Act σ PUnit} :
    ∀ l : List γ, (∀ c ∈ l, (f c).Moves R) → (l.forM f).Moves R
  | [], _ => moves_pure _
  | c :: l, h => by
    change (f c >>= fun _ => l.forM f).Moves R
    exact moves_bind (h c (by simp)) fun _ => moves_forM l fun d hd => h d (by simp [hd])

end Moves

/-! ## 3. What holds at the end of an act

`Spec P x Q E` is said where what holds depends on what the act returns, or on whether it ends
with a fault: from a state with `P`, a result comes with `Q` and a fault leaves a state with
`E`.  `x.Keeps I` is the case of one invariant throughout. -/

/-- From a state with `P` the act ends with a result and `Q`, or with a fault and `E`. -/
def Spec (P : σ → Prop) (x : Act σ β) (Q : β → σ → Prop) (E : σ → Prop) : Prop :=
  ∀ s, P s → (∀ b t, x.run s = (.ok b, t) → Q b t) ∧ (∀ e t, x.run s = (.error e, t) → E t)

/-- The act keeps a condition, also if it ends with a fault. -/
def Keeps (I : σ → Prop) (x : Act σ β) : Prop := ∀ s, I s → I (x.after s)

section Spec

variable {P P' I E E' : σ → Prop} {Q Q' : β → σ → Prop}

theorem spec_pure {b : β} (h : ∀ s, P s → Q b s) : Spec P (pure b) Q E := by
  intro s hs
  refine ⟨fun c t hr => ?_, fun e t hr => ?_⟩
  · rw [run_pure] at hr
    cases hr
    exact h s hs
  · rw [run_pure] at hr
    cases hr

theorem spec_ite {c : Prop} [Decidable c] {x y : Act σ β} (hx : c → Spec P x Q E)
    (hy : ¬ c → Spec P y Q E) : Spec P (if c then x else y) Q E := by
  split
  · next h => exact hx h
  · next h => exact hy h

theorem spec_modify {f : σ → σ} {Q : PUnit → σ → Prop} (h : ∀ s, P s → Q ⟨⟩ (f s)) :
    Spec P (modify f) Q E := by
  intro s hs
  refine ⟨fun b t hr => ?_, fun e t hr => ?_⟩
  · rw [run_modify] at hr
    cases hr
    exact h s hs
  · rw [run_modify] at hr
    cases hr

/-- The result of the first part tells what the second may start from; a fault of either leaves
`E`. -/
theorem spec_bind {x : Act σ γ} {f : γ → Act σ β} {R : γ → σ → Prop} (hx : Spec P x R E)
    (hf : ∀ c, Spec (R c) (f c) Q E) : Spec P (x >>= f) Q E := by
  intro s hs
  obtain ⟨hok, herr⟩ := hx s hs
  refine ⟨fun b t h => ?_, fun e t h => ?_⟩
  · obtain ⟨c, u, hc, h⟩ := run_bind_eq_ok.1 h
    exact (hf c u (hok c u hc)).1 b t h
  · rcases run_bind_eq_error.1 h with h | ⟨c, u, hc, h⟩
    · exact herr e t h
    · exact (hf c u (hok c u hc)).2 e t h

/-- What was read is the state itself, so the rest may start from exactly that state. -/
theorem spec_get_bind {f : σ → Act σ β} (hf : ∀ s, P s → Spec (· = s) (f s) Q E) :
    Spec P (get >>= f) Q E :=
  fun s hs => hf s hs s rfl

/-- Less may be asked before, and more promised after. -/
theorem Spec.mono {x : Act σ β} (h : Spec P x Q E) (hP : ∀ s, P' s → P s)
    (hQ : ∀ b s, Q b s → Q' b s) (hE : ∀ s, E s → E' s) : Spec P' x Q' E' := by
  intro s hs
  obtain ⟨hok, herr⟩ := h s (hP s hs)
  exact ⟨fun b t hr => hQ b t (hok b t hr), fun e t hr => hE t (herr e t hr)⟩

theorem Spec.after {x : Act σ β} (h : Spec P x (fun _ => E) E) {s : σ} (hs : P s) :
    E (x.after s) := by
  obtain ⟨hok, herr⟩ := h s hs
  cases hr : x.run s with
  | mk r t =>
    rw [after_eq_of_run hr]
    cases r with
    | ok b => exact hok b t hr
    | error e => exact herr e t hr

/-- An act that cannot end with a fault ends with a result. -/
theorem Spec.exists_ok {x : Act σ β} (h : Spec P x Q fun _ => False) {s : σ} (hs : P s) :
    ∃ b t, x.run s = (.ok b, t) ∧ Q b t := by
  obtain ⟨hok, herr⟩ := h s hs
  cases hr : x.run s with
  | mk r t =>
    cases r with
    | ok b => exact ⟨b, t, rfl, hok b t hr⟩
    | error e => exact (herr e t hr).elim

/-- What holds however the act ends. -/
theorem spec_of_after {x : Act σ β} (h : ∀ s, P s → E (x.after s)) : Spec P x (fun _ => E) E :=
  fun s hs => ⟨fun _ _ hr => after_eq_of_run hr ▸ h s hs, fun _ _ hr => after_eq_of_run hr ▸ h s hs⟩

theorem Keeps.spec {x : Act σ β} (h : x.Keeps I) : Spec I x (fun _ => I) I := spec_of_after h

/-- Nothing is asked of an end with a fault. -/
theorem Keeps.spec_ok {x : Act σ β} (h : x.Keeps I) : Spec I x (fun _ => I) fun _ => True :=
  h.spec.mono (fun _ h => h) (fun _ _ h => h) fun _ _ => trivial

theorem Spec.keeps {x : Act σ β} (h : Spec I x (fun _ => I) I) : x.Keeps I := fun _ hs => h.after hs

/-- An invariant that each part keeps is kept by the sequence, also when a fault ends it halfway. -/
theorem keeps_bind {x : Act σ γ} {f : γ → Act σ β} (hx : x.Keeps I) (hf : ∀ c, (f c).Keeps I) :
    (x >>= f).Keeps I :=
  (spec_bind hx.spec fun c => (hf c).spec).keeps

theorem keeps_pure (b : β) : (pure b : Act σ β).Keeps I := fun _ hs => hs

theorem keeps_throw (e : Fault) : (throw e : Act σ β).Keeps I := fun _ hs => hs

theorem keeps_get : (get : Act σ σ).Keeps I := fun _ hs => hs

theorem keeps_ofExcept (r : Except Fault β) : (ofExcept r : Act σ β).Keeps I := fun _ hs => hs

/-- The answer starts from where the fault was, which has the invariant already. -/
theorem keeps_tryCatch {x : Act σ β} {f : Fault → Act σ β} (hx : x.Keeps I)
    (hf : ∀ e, (f e).Keeps I) : (tryCatch x f).Keeps I := by
  intro s hs
  have ht := hx s hs
  cases h : x.run s with
  | mk r t =>
    rw [after_eq_of_run h] at ht
    cases r with
    | ok b =>
      rw [after_eq_of_run (run_tryCatch_of_ok h)]
      exact ht
    | error e =>
      rw [after, run_tryCatch_of_error h]
      exact hf e t ht

theorem keeps_ite {c : Prop} [Decidable c] {x y : Act σ β} (hx : c → x.Keeps I)
    (hy : ¬ c → y.Keeps I) : (if c then x else y).Keeps I := by
  split
  · next h => exact hx h
  · next h => exact hy h

/-- By induction on the list, like `moves_forM`. -/
theorem keeps_forM {f : γ → Act σ PUnit} :
    ∀ l : List γ, (∀ c ∈ l, (f c).Keeps I) → (l.forM f).Keeps I
  | [], _ => keeps_pure _
  | c :: l, h => by
    change (f c >>= fun _ => l.forM f).Keeps I
    exact keeps_bind (h c (by simp)) fun _ => keeps_forM l fun d hd => h d (by simp [hd])

/-- What an act does to a state keeps every condition that this does not touch. -/
theorem Moves.keeps {R : σ → σ → Prop} {x : Act σ β} (hx : x.Moves R)
    (h : ∀ s t, R s t → I s → I t) : x.Keeps I := fun s hs => h _ _ (hx s) hs

end Spec

/-! ## 4. What an act may end with

Two things can be said of how an act ends without a word about its state: which results it may
have (`ResultsIn`), and which faults (`FaultsIn`). -/

/-- Whenever the act ends with a result, it is one of `P`. -/
def ResultsIn (P : β → Prop) (x : Act σ β) : Prop := ∀ s b t, x.run s = (.ok b, t) → P b

theorem resultsIn_pure {P : β → Prop} {b : β} (h : P b) : (pure b : Act σ β).ResultsIn P := by
  intro s c t hr
  cases hr
  exact h

theorem resultsIn_ofExcept (r : Except Fault β) :
    (ofExcept r : Act σ β).ResultsIn fun b => r = .ok b := by
  intro s b t hr
  cases hr
  rfl

/-- Only the last part of a sequence decides its result. -/
theorem resultsIn_bind {P : γ → Prop} {x : Act σ β} {f : β → Act σ γ}
    (hf : ∀ b, (f b).ResultsIn P) : (x >>= f).ResultsIn P := by
  intro s c t hr
  obtain ⟨b, u, -, h⟩ := run_bind_eq_ok.1 hr
  exact hf b u c t h

/-- The results of the rest of an act may depend on what is known of its first part. -/
theorem ResultsIn.bind {P : β → Prop} {Q : γ → Prop} {x : Act σ β} {f : β → Act σ γ}
    (hx : x.ResultsIn P) (hf : ∀ b, P b → (f b).ResultsIn Q) : (x >>= f).ResultsIn Q := by
  intro s c t hr
  obtain ⟨b, u, hb, h⟩ := run_bind_eq_ok.1 hr
  exact hf b (hx s b u hb) u c t h

theorem ResultsIn.spec {P : β → Prop} {x : Act σ β} (hx : x.ResultsIn P) :
    Spec (fun _ => True) x (fun b _ => P b) fun _ => True :=
  fun s _ => ⟨fun b t hr => hx s b t hr, fun _ _ _ => trivial⟩

/-- What the rest of an act does has to be looked at for the results that there can be. -/
theorem ResultsIn.moves_bind {R : σ → σ → Prop} [IsTrans σ R] {P : β → Prop} {x : Act σ β}
    {f : β → Act σ γ} (hP : x.ResultsIn P) (hx : x.Moves R) (hf : ∀ b, P b → (f b).Moves R) :
    (x >>= f).Moves R := by
  intro s
  refine after_bind_cases (hx s) fun b t h => ?_
  have hst : R s t := after_eq_of_run h ▸ hx s
  exact Trans.trans hst (hf b (hP s b t h) t)

/-- Whenever the act ends with a fault, it is one of `F`. -/
def FaultsIn (F : Fault → Prop) (x : Act σ β) : Prop := ∀ s e t, x.run s = (.error e, t) → F e

section FaultsIn

variable {F G : Fault → Prop}

theorem faultsIn_pure (b : β) : (pure b : Act σ β).FaultsIn F := by
  intro s e t h
  cases h

theorem faultsIn_throw {e : Fault} (h : F e) : (throw e : Act σ β).FaultsIn F := by
  intro s e' t hr
  cases hr
  exact h

theorem faultsIn_get : (get : Act σ σ).FaultsIn F := by
  intro s e t h
  cases h

theorem faultsIn_ofExcept {r : Except Fault β} (h : ∀ e, r = .error e → F e) :
    (ofExcept r : Act σ β).FaultsIn F := by
  intro s e t hr
  cases hr
  exact h e rfl

theorem faultsIn_modify (f : σ → σ) : (modify f : Act σ PUnit).FaultsIn F := by
  intro s e t h
  cases h

/-- Every part of a sequence may be the one that ends it. -/
theorem faultsIn_bind {x : Act σ β} {f : β → Act σ γ} (hx : x.FaultsIn F)
    (hf : ∀ b, (f b).FaultsIn F) : (x >>= f).FaultsIn F := by
  intro s e t h
  rcases run_bind_eq_error.1 h with h | ⟨b, u, -, h⟩
  · exact hx s e t h
  · exact hf b u e t h

/-- What the rest of an act ends with has to be looked at for the results that there can be. -/
theorem faultsIn_bind_of {P : β → Prop} {x : Act σ β} {f : β → Act σ γ} (hx : x.FaultsIn F)
    (hP : x.ResultsIn P) (hf : ∀ b, P b → (f b).FaultsIn F) : (x >>= f).FaultsIn F := by
  intro s e t h
  rcases run_bind_eq_error.1 h with h | ⟨b, u, hb, h⟩
  · exact hx s e t h
  · exact hf b (hP s b u hb) u e t h

theorem faultsIn_ite {c : Prop} [Decidable c] {x y : Act σ β} (hx : x.FaultsIn F)
    (hy : y.FaultsIn F) : (if c then x else y).FaultsIn F := by
  split
  · exact hx
  · exact hy

/-- By induction on the list: the fault of a loop is that of one round. -/
theorem faultsIn_forM {f : γ → Act σ PUnit} :
    ∀ l : List γ, (∀ c ∈ l, (f c).FaultsIn F) → (l.forM f).FaultsIn F
  | [], _ => faultsIn_pure _
  | c :: l, h => by
    change (f c >>= fun _ => l.forM f).FaultsIn F
    exact faultsIn_bind (h c (by simp)) fun _ => faultsIn_forM l fun d hd => h d (by simp [hd])

/-- An act on a part has the faults that it has there. -/
theorem faultsIn_zoom {view : σ → ρ} {put : ρ → σ → σ} {x : Act ρ β} (hx : x.FaultsIn F) :
    (zoom view put x).FaultsIn F := by
  intro s e t h
  rw [run_zoom, Prod.mk.injEq] at h
  exact hx (view s) e _ (Prod.ext h.1 rfl)

/-- The faults of an act that answers some of its faults are those of its answers. -/
theorem faultsIn_tryCatch {x : Act σ β} {f : Fault → Act σ β} (hx : x.FaultsIn G)
    (hf : ∀ e, G e → (f e).FaultsIn F) : (tryCatch x f).FaultsIn F := by
  intro s e t h
  cases hr : x.run s with
  | mk r u =>
    cases r with
    | ok b =>
      rw [run_tryCatch_of_ok hr] at h
      cases h
    | error e' =>
      rw [run_tryCatch_of_error hr] at h
      exact hf e' (hx s e' u hr) u e t h

/-- An act that has no fault to end with ends with a result. -/
theorem FaultsIn.exists_run {x : Act σ β} (hx : x.FaultsIn fun _ => False) (s : σ) :
    ∃ b t, x.run s = (.ok b, t) := by
  cases hr : x.run s with
  | mk r t =>
    cases r with
    | ok b => exact ⟨b, t, rfl⟩
    | error e => exact (hx s e t hr).elim

theorem FaultsIn.mono {x : Act σ β} (hx : x.FaultsIn F) (h : ∀ e, F e → G e) : x.FaultsIn G :=
  fun s e t hr => h e (hx s e t hr)

end FaultsIn

/-! ## 5. What a fault comes from

Where a fault is blamed on what stands in the state, for example in the document of a scene, it
has to be known in which state the act that failed began.  `FaultsFrom P F x` says that from every
state with `P` a fault of `x` comes with `F`, a statement about that first state. -/

/-- From a state with `P`, whenever the act ends with a fault, `F` holds of the fault and of the
state then. -/
def FaultsFrom (P : σ → Prop) (F : Fault → σ → Prop) (x : Act σ β) : Prop :=
  ∀ s e t, P s → x.run s = (.error e, t) → F e t

section FaultsFrom

variable {P Q : σ → Prop} {F : Fault → σ → Prop}

theorem FaultsFrom.mono {x : Act σ β} (hx : FaultsFrom P F x) (h : ∀ s, Q s → P s) :
    FaultsFrom Q F x := fun s e t hs => hx s e t (h s hs)

/-- The act always ends with a result. -/
theorem faultsFrom_of_ok {x : Act σ β} (h : ∀ s, P s → ∃ b t, x.run s = (.ok b, t)) :
    FaultsFrom P F x := by
  intro s e t hs hr
  obtain ⟨b, u, hok⟩ := h s hs
  cases hok.symm.trans hr

/-- Which faults there can be at all is known, and the condition still holds then. -/
theorem FaultsIn.faultsFrom {G : Fault → Prop} {x : Act σ β} (hx : x.FaultsIn G) (hk : x.Keeps P)
    (h : ∀ e t, P t → G e → F e t) : FaultsFrom P F x := by
  intro s e t hs hr
  exact h e t (after_eq_of_run hr ▸ hk s hs) (hx s e t hr)

/-- An act without faults needs no reason for them. -/
theorem faultsFrom_never {x : Act σ β} (hx : x.FaultsIn fun _ => False) : FaultsFrom P F x :=
  fun s e t _ hr => (hx s e t hr).elim

theorem faultsFrom_pure (b : β) : FaultsFrom P F (pure b) := faultsFrom_never (faultsIn_pure b)

theorem faultsFrom_get : FaultsFrom P F (get : Act σ σ) := faultsFrom_never faultsIn_get

theorem faultsFrom_modify (f : σ → σ) : FaultsFrom P F (modify f : Act σ PUnit) :=
  faultsFrom_never (faultsIn_modify f)

theorem faultsFrom_ite {c : Prop} [Decidable c] {x y : Act σ β} (hx : c → FaultsFrom P F x)
    (hy : ¬ c → FaultsFrom P F y) : FaultsFrom P F (if c then x else y) := by
  split
  · next h => exact hx h
  · next h => exact hy h

/-- A sequence stops in its first part, or in its second part after a result of the first. -/
theorem faultsFrom_bind_of {R : β → σ → Prop} {x : Act σ β} {f : β → Act σ γ}
    (hx : FaultsFrom P F x) (hR : Spec P x R fun _ => True) (hf : ∀ b, FaultsFrom (R b) F (f b)) :
    FaultsFrom P F (x >>= f) := by
  intro s e t hs hr
  rcases run_bind_eq_error.1 hr with hr | ⟨b, u, hb, hr⟩
  · exact hx s e t hs hr
  · exact hf b u e t ((hR s hs).1 b u hb) hr

/-- The rest is blamed on the state that the beginning left, so the beginning has to keep `P`. -/
theorem faultsFrom_bind {x : Act σ β} {f : β → Act σ γ} (hx : FaultsFrom P F x) (hk : x.Keeps P)
    (hf : ∀ b, FaultsFrom P F (f b)) : FaultsFrom P F (x >>= f) :=
  faultsFrom_bind_of hx hk.spec_ok hf

/-- Each round starts from what the rounds before it left, which still has `P`. -/
theorem faultsFrom_forM {f : γ → Act σ PUnit} : ∀ l : List γ, (∀ c ∈ l, FaultsFrom P F (f c)) →
    (∀ c ∈ l, (f c).Keeps P) → FaultsFrom P F (l.forM f)
  | [], _, _ => faultsFrom_pure _
  | c :: l, h, hk => by
    change FaultsFrom P F (f c >>= fun _ => l.forM f)
    exact faultsFrom_bind (h c (by simp)) (hk c (by simp)) fun _ =>
      faultsFrom_forM l (fun d hd => h d (by simp [hd])) fun d hd => hk d (by simp [hd])

end FaultsFrom

end Diorama.Act
