/-
# Steps that keep what they did

An `Act σ β` reads and changes a state `σ` and ends with a result or a fault.  A fault keeps
every change made before it: a scene that stops halfway leaves behind what it had already
placed, logged and drawn.  So the state is returned in both cases, and `Act.run` is the whole
meaning of an act.

An act on a part of a state is an act on the state (`Act.zoom`), and every state that has a log
as a part can be written to with `say`.
-/
import Diorama.Fault

namespace Diorama

/-- A step on `σ` that ends with a result or a fault, and in both cases with a state. -/
def Act (σ β : Type) : Type := σ → Except Fault β × σ

namespace Act

variable {σ ρ β γ : Type}

/-- Runs an act from a state. -/
def run (x : Act σ β) (s : σ) : Except Fault β × σ := x s

/-- The state that an act leaves behind. -/
def after (x : Act σ β) (s : σ) : σ := (x.run s).2

instance : Monad (Act σ) where
  pure b := fun s => (.ok b, s)
  bind x f := fun s => match x s with
    | (.ok b, t) => f b t
    | (.error e, t) => (.error e, t)

instance : MonadStateOf σ (Act σ) where
  get := fun s => (.ok s, s)
  set s := fun _ => (.ok (), s)
  modifyGet f := fun s => let (b, t) := f s; (.ok b, t)

instance : MonadExceptOf Fault (Act σ) where
  throw e := fun s => (.error e, s)
  tryCatch x handle := fun s => match x s with
    | (.ok b, t) => (.ok b, t)
    | (.error e, t) => handle e t

/-! ## 1. Running -/

@[simp] theorem run_pure (b : β) (s : σ) : (pure b : Act σ β).run s = (.ok b, s) := rfl

@[simp] theorem run_throw (e : Fault) (s : σ) : (throw e : Act σ β).run s = (.error e, s) := rfl

@[simp] theorem run_get (s : σ) : (get : Act σ σ).run s = (.ok s, s) := rfl

@[simp] theorem run_modify (f : σ → σ) (s : σ) :
    (modify f : Act σ PUnit).run s = (.ok ⟨⟩, f s) := rfl

/-- What comes second starts where the first left off, if the first ended with a result. -/
theorem run_bind (x : Act σ β) (f : β → Act σ γ) (s : σ) :
    (x >>= f).run s = match x.run s with
      | (.ok b, t) => (f b).run t
      | (.error e, t) => (.error e, t) := rfl

/-- A sequence whose first part has been run goes on from there. -/
theorem run_bind_of_ok {x : Act σ β} {f : β → Act σ γ} {s t : σ} {b : β}
    (h : x.run s = (.ok b, t)) : (x >>= f).run s = (f b).run t := by
  rw [run_bind, h]

/-- A fault ends the sequence, and what was done before it stays done. -/
theorem run_bind_of_error {x : Act σ β} {f : β → Act σ γ} {s t : σ} {e : Fault}
    (h : x.run s = (.error e, t)) : (x >>= f).run s = (.error e, t) := by
  rw [run_bind, h]

/-- The answer to a fault starts from what was done before the fault: nothing is undone. -/
theorem run_tryCatch (x : Act σ β) (f : Fault → Act σ β) (s : σ) :
    (tryCatch x f).run s = match x.run s with
      | (.ok b, t) => (.ok b, t)
      | (.error e, t) => (f e).run t := rfl

theorem run_tryCatch_of_ok {x : Act σ β} {f : Fault → Act σ β} {s t : σ} {b : β}
    (h : x.run s = (.ok b, t)) : (tryCatch x f).run s = (.ok b, t) := by
  rw [run_tryCatch, h]

theorem run_tryCatch_of_error {x : Act σ β} {f : Fault → Act σ β} {s t : σ} {e : Fault}
    (h : x.run s = (.error e, t)) : (tryCatch x f).run s = (f e).run t := by
  rw [run_tryCatch, h]

/-- Running an act and keeping its result is the act itself. -/
private theorem act_id_map (x : Act σ β) : id <$> x = x := by
  funext s
  show (match x s with | (.ok b, t) => (.ok b, t) | (.error e, t) => (.error e, t)) = x s
  split <;> simp_all

/-- Acts one after the other may be grouped at will. -/
private theorem act_bind_assoc (x : Act σ β) (f : β → Act σ γ) {δ : Type} (g : γ → Act σ δ) :
    x >>= f >>= g = x >>= fun b => f b >>= g := by
  funext s
  show (match (match x s with | (.ok b, t) => f b t | (.error e, t) => (.error e, t)) with
      | (.ok c, t) => g c t | (.error e, t) => (.error e, t)) =
    (match x s with
      | (.ok b, t) => (match f b t with | (.ok c, t) => g c t | (.error e, t) => (.error e, t))
      | (.error e, t) => (.error e, t))
  rcases x s with ⟨r, t⟩
  cases r <;> rfl

instance : LawfulMonad (Act σ) :=
  LawfulMonad.mk' (Act σ) act_id_map (fun _ _ => rfl) (fun x f g => act_bind_assoc x f g)

/-! ## 2. Parts of a state -/

/-- Runs an act on a part of the state. -/
def zoom (view : σ → ρ) (put : ρ → σ → σ) (x : Act ρ β) : Act σ β :=
  fun s => let (r, t) := x (view s); (r, put t s)

/-- An act on a part reads that part, and only that part is put back. -/
theorem run_zoom (view : σ → ρ) (put : ρ → σ → σ) (x : Act ρ β) (s : σ) :
    (zoom view put x).run s = ((x.run (view s)).1, put (x.run (view s)).2 s) := rfl

/-- Turns a computed result or fault into an act that changes nothing. -/
def ofExcept (r : Except Fault β) : Act σ β := fun s => (r, s)

@[simp] theorem run_ofExcept (r : Except Fault β) (s : σ) :
    (ofExcept r : Act σ β).run s = (r, s) := rfl

end Act

/-! ## 3. The log -/

/-- The lines printed so far; a line may itself hold line breaks. -/
abbrev Log := Array String

/-- Prints a line. -/
def say (line : String) : Act Log Unit := modify (·.push line)

end Diorama
