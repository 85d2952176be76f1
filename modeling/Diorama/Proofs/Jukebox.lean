/-
# A run of sounds

Sounds are loaded, forgotten, stopped and played by orders, while the host may change its files and
its hardware at any time (`Order.host`).  Whatever the orders and the host:

* a sound is there exactly if the last successful loading under its id was not followed by an order
  that drops it;
* a loading that does not succeed leaves what is loaded, and what was reported, as they were;
* the hardware is started once at most, and that it did not start is noted once at most;
* as long as it does not run, nothing but its start is asked of it;
* from one successful loading to the next a sound is reported as not loaded once at most.

Every order tries the hardware at most once (`Tried`), then goes on only if it runs, and notes down
what came of it at the end.  So a condition on depots is followed through all orders by what these
few steps do to it (`Attends`), and each law is the step of one such condition, summed over the run.
-/
import Diorama.Proofs.Shelves
import Mathlib.Data.List.Induction

namespace Diorama

open Act

variable {α : Type}

/-- The call starts the sound hardware. -/
def Call.isStart : Call α → Bool
  | .startMixer => true
  | _ => false

namespace Depot

/-! ## 1. Trying the hardware

`_mixer_ready` looks at the hardware once, when it is first needed, and keeps what came of
it.  Everything that this look may do to a depot is in `Tried`, so that nothing below opens it
again: the hardware was not tried before, it may be started, it is not turned off, and one line
may say that it cannot be used. -/

/-- The line says that the hardware cannot be used. -/
def isNote (line : String) : Bool :=
  "[AudioManager] Mixer unavailable".toList.isPrefixOf line.toList

/-- What the first look at the hardware makes of a depot. -/
structure Tried (d e : Depot α) : Prop where
  first : d.sounds.ready = none
  outcome : ∃ came, e.sounds = { d.sounds with ready := some came }
  stays : d.device.mixerOn = true → e.device.mixerOn = true
  calls : e.device.calls = d.device.calls ∨ e.device.calls = d.device.calls.push .startMixer
  log : e.device.log = d.device.log ∨ ∃ why, e.device.log =
    d.device.log.push ("[AudioManager] Mixer unavailable, sound disabled: " ++ why)

/-- How the start of the hardware ends: it runs, or it refuses, or neither. -/
theorem run_startMixer (d : Device α) : Device.startMixer.run d =
    match d.mixer with
    | .working => (.ok (), { d with calls := d.calls.push .startMixer, mixerOn := true })
    | .failing => (.error (.device .noAudioDevice), { d with calls := d.calls.push .startMixer })
    | .dead => (.ok (), { d with calls := d.calls.push .startMixer }) := by
  unfold Device.startMixer Device.call
  rw [run_bind_of_ok (run_modify _ d), run_bind_of_ok (run_get _)]
  cases d.mixer <;> rfl

/-- The first look at the hardware, before it is noted what came of it.  Either the mixer is on
already, or it is started, and then the host decides: it works, it fails with an error, or it
stays off without one.  Only the error is printed here. -/
theorem run_tryMixer (d : Depot α) : ∃ came e, tryMixer.run d = (.ok came, e) ∧
    e.sounds = d.sounds ∧ (d.device.mixerOn = true → e.device.mixerOn = true) ∧
    (e.device.calls = d.device.calls ∨ e.device.calls = d.device.calls.push .startMixer) ∧
    (e.device.log = d.device.log ∨ ∃ why, e.device.log =
      d.device.log.push ("[AudioManager] Mixer unavailable, sound disabled: " ++ why)) := by
  unfold tryMixer
  cases hon : d.device.mixerOn with
  | true =>
    refine ⟨true, d, run_tryCatch_of_ok ?_, rfl, fun _ => hon, .inl rfl, .inl rfl⟩
    rw [run_bind_of_ok (run_get d), hon]
    exact congrArg (fun b => (Except.ok b, d)) hon
  | false =>
    have hstart : (onDevice Device.startMixer).run d =
        ((Device.startMixer.run d.device).1,
          { d with device := (Device.startMixer.run d.device).2 }) := rfl
    rw [run_startMixer] at hstart
    have hoff {r : Except Fault Unit} {e : Depot α}
        (h : (onDevice Device.startMixer).run d = (r, e)) :
        (do
          if !(← get).device.mixerOn then onDevice Device.startMixer
          return (← get).device.mixerOn : Act (Depot α) Bool).run d =
            (r.map fun _ => e.device.mixerOn, e) := by
      rw [run_bind_of_ok (run_get d), hon]
      cases r with
      | ok => exact run_bind_of_ok h
      | error => exact run_bind_of_error h
    cases hkind : d.device.mixer with
    | working =>
      rw [hkind] at hstart
      exact ⟨_, _, run_tryCatch_of_ok (hoff hstart), rfl, nofun, .inr rfl, .inl rfl⟩
    | failing =>
      rw [hkind] at hstart
      exact ⟨_, _, run_tryCatch_of_error (hoff hstart), rfl, nofun, .inr rfl, .inr ⟨_, rfl⟩⟩
    | dead =>
      rw [hkind] at hstart
      exact ⟨_, _, run_tryCatch_of_ok (hoff hstart), rfl, nofun, .inr rfl, .inl rfl⟩

/-- Whether sounds can be played is told without a fault.  Only the first time anything is done for
it, and if they can be played the hardware runs. -/
theorem run_mixerReady_cases (d : Depot α) : ∃ b e, mixerReady.run d = (.ok b, e) ∧
    (e = d ∨ Tried d e) ∧ (b = true → e.device.mixerOn = true) := by
  have hcases : ∃ b e, mixerReady.run d = (.ok b, e) ∧ (e = d ∨ Tried d e) := by
    unfold mixerReady
    rw [run_bind_of_ok (run_get d)]
    cases hready : d.sounds.ready with
    | some came => exact ⟨_, d, rfl, .inl rfl⟩
    | none =>
      obtain ⟨came, t, htry, hsounds, hstays, hcalls, hlog⟩ := run_tryMixer d
      let e : Depot α := { t with sounds := { t.sounds with ready := some came } }
      have hnoted : Tried d e := ⟨hready, ⟨came, by rw [← hsounds]⟩, hstays, hcalls, hlog⟩
      exact ⟨_, e, run_bind_of_ok htry, .inr hnoted⟩
  obtain ⟨b, e, hrun, he⟩ := hcases
  exact ⟨b, e, hrun, he, fun hb => (sounding_of_mixerReady (hb ▸ hrun)).2⟩

/-! ## 2. What the orders have in common

All orders have one shape: a look whether sounds can be played, requests to the hardware if they
can, and at the end a note of what came of it in the registry.  A condition that attends an order
therefore comes in two strengths, `I` at all times and `J` from where the hardware was found to
run on; `Attends` lists the steps that it has to survive.  What is noted at the end is left open
here, since some conditions last through it and others are exactly what changes. -/

/-- What is said when a sound cannot be loaded. -/
def IsRefusal (line : String) : Prop :=
  ∃ rest, line = "[AudioManager] Skipping missing sound '" ++ rest ∨
    line = "[AudioManager] Could not decode '" ++ rest

/-- What is said of a sound that is not loaded. -/
def notLoaded (name : String) : String :=
  "[AudioManager] Warning: sound '" ++ name ++ "' not loaded"

/-- A condition on depots lasts while an order is carried out.  From where the hardware was found to
run on, more may be known. -/
structure Attends (I J : Depot α → Prop) : Prop where
  tried : ∀ {d e}, Tried d e → I d → I e
  runs : ∀ {d}, d.device.mixerOn = true → I d → J d
  back : ∀ {d}, J d → I d
  say : ∀ {d} line, IsRefusal line → I d →
    I { d with device := { d.device with log := d.device.log.push line } }
  sayRunning : ∀ {d} line, IsRefusal line → J d →
    J { d with device := { d.device with log := d.device.log.push line } }
  call : ∀ {d c}, c.isStart = false → J d →
    J { d with device := { d.device with calls := d.device.calls.push c } }

/-- The sound in a file is there from now on, and is not missed any more. -/
def registered [Scalar α] (id path : String) (d : Depot α) : Depot α :=
  { d with
    sounds := { d.sounds with
      effects := d.sounds.effects.put id path
      warned := d.sounds.warned.filter fun v => !v.sameKey (.text id) } }

/-- The sound is no longer there. -/
def forgotten (id : String) (d : Depot α) : Depot α :=
  { d with sounds := { d.sounds with effects := d.sounds.effects.erase id } }

/-- The sound is reported as missing. -/
def reported [Scalar α] (key : Value α) (d : Depot α) : Depot α :=
  { d with
    device := { d.device with log := d.device.log.push (notLoaded key.plain) }
    sounds := { d.sounds with warned := key :: d.sounds.warned } }

/-- How loading a sound ends: it is registered last of all, or nothing came of it. -/
def LoadEnds [Scalar α] (I J : Depot α → Prop) (id path : String) (loaded : Bool) (d : Depot α) :
    Prop :=
  if loaded then ∃ e, J e ∧ d = registered id path e else I d

/-- How playing a sound ends: it may have been reported, for the first time. -/
def PlayEnds [Scalar α] (I J : Depot α → Prop) (key : Value α) (d : Depot α) : Prop :=
  I d ∨ ∃ e, J e ∧ e.sounds.warned.any (key.sameKey ·) = false ∧ d = reported key e

namespace Attends

variable {I J : Depot α → Prop}

/-- After the question whether sounds can be played, the stronger condition may be used where the
answer was yes, and the weaker one holds in any case. -/
theorem mixerReady (h : Attends I J) : Spec I (Depot.mixerReady : Act (Depot α) Bool)
    (fun b d => if b then J d else I d) I := by
  intro d hd
  obtain ⟨b, e, hrun, he, hon⟩ := run_mixerReady_cases d
  have hI : I e := he.elim (fun heq => heq ▸ hd) fun htried => h.tried htried hd
  refine ⟨fun b' t hr => ?_, fun f t hr => ?_⟩ <;> cases hrun.symm.trans hr
  split
  · next hb => exact h.runs (hon hb) hI
  · exact hI

/-- While the hardware runs, a part of an order that keeps what is known then may also stop it. -/
theorem running (h : Attends I J) {β : Type} {x : Act (Depot α) β} (hx : x.Keeps J) :
    Spec J x (fun _ => J) I :=
  hx.spec.mono (fun _ h => h) (fun _ _ h => h) fun _ => h.back

/-- A request that is not the start of the hardware is recorded, and by assumption the condition
survives such a record. -/
theorem keeps_call (h : Attends I J) {c : Call α} (hc : c.isStart = false) :
    (onDevice (Device.call c)).Keeps J := fun _ hd => h.call hc hd

/-- A sound is decoded by one request, or its file is refused without any. -/
theorem keeps_decode (h : Attends I J) (path : String) :
    (onDevice (Device.loadSound path)).Keeps J := by
  intro d hd
  have hcases : (Device.loadSound path).after d.device = d.device ∨
      (Device.loadSound path).after d.device =
        { d.device with calls := d.device.calls.push (.loadSound path) } := by
    unfold Device.loadSound
    rw [after_bind_of_ok (run_get d.device)]
    split
    · exact .inr rfl
    · exact .inl rfl
  have hafter : (onDevice (Device.loadSound path)).after d =
      { d with device := (Device.loadSound path).after d.device } := rfl
  rw [hafter]
  rcases hcases with heq | heq <;> rw [heq]
  · exact hd
  · exact h.call rfl hd

/-- To look for a free channel is a request, whatever the answer. -/
theorem keeps_channel (h : Attends I J) :
    (onDevice (Device.findChannel : Act (Device α) Bool)).Keeps J := fun _ hd =>
  h.call (c := .findChannel) rfl hd

/-- The sound of a file is stopped only if sounds can be played. -/
theorem keeps_stopPath (h : Attends I J) (path : String) :
    (do if ← Depot.mixerReady then onDevice (Device.call (.stopSound path)) :
      Act (Depot α) Unit).Keeps I := by
  refine (spec_bind h.mixerReady fun b => ?_).keeps
  cases b with
  | true =>
    have hstop := h.running (h.keeps_call (c := .stopSound path) rfl)
    exact hstop.mono (fun _ h => h) (fun _ _ => h.back) fun _ h => h
  | false => exact spec_pure fun _ h => h

/-- To stop a sound changes nothing in the registry, so the condition lasts to the end of the
order. -/
theorem keeps_stopSound (h : Attends I J) (id : String) : (stopSound id).Keeps I := by
  unfold stopSound
  refine keeps_bind keeps_get fun d => ?_
  split
  · exact h.keeps_stopPath _
  · exact keeps_pure _

/-- What is forgotten is stopped after that. -/
theorem after_unloadSound (h : Attends I J) {id : String} {d : Depot α} (hd : I d)
    (hforgotten : I (forgotten id d)) : I ((unloadSound id).after d) := by
  unfold unloadSound
  rw [after_bind_of_ok (run_get d)]
  split
  · exact h.keeps_stopPath _ _ hforgotten
  · exact hd

variable [Scalar α]

/-- A sound is registered last of all, once the hardware runs.  The steps are those of `load`: the
file, the hardware, the decoding, the volume, and at the end the table.  Whatever ends it before
the last of these leaves the table alone. -/
theorem spec_loadSound (h : Attends I J) (id path : String) (volume : Value α) :
    Spec I (Depot.loadSound id path volume) (LoadEnds I J id path) I := by
  have hnot {P : Depot α → Prop} (hP : ∀ d, P d → I d) :
      Spec P (pure false) (LoadEnds I J id path) I := spec_pure hP
  have hregister : Spec J (do registerSound id path; return true) (LoadEnds I J id path) I := by
    refine spec_bind (spec_modify (Q := fun _ d => ∃ e, J e ∧ d = registered id path e)
      fun d hd => ⟨d, hd, rfl⟩) fun _ => spec_pure fun _ hd => hd
  unfold Depot.loadSound
  refine spec_bind keeps_get.spec fun d => spec_ite (fun _ => ?_) fun _ => ?_
  · have hsay : (liftM (Diorama.say
        ("[AudioManager] Skipping missing sound '" ++ id ++ "': " ++ path)) :
          Act (Depot α) Unit).Keeps I := fun _ hd =>
      h.say _ ⟨id ++ "': " ++ path, .inl (by simp only [String.append_assoc])⟩ hd
    exact spec_bind hsay.spec fun _ => hnot fun _ hd => hd
  refine spec_bind h.mixerReady fun ready => ?_
  cases ready with
  | false => exact hnot fun _ hd => hd
  | true =>
    refine spec_bind (h.running (keeps_tryCatch ?_ fun f => ?_)) fun decoded => ?_
    · exact keeps_bind (h.keeps_decode path) fun _ => keeps_pure _
    · split
      · next f =>
        have hsay : (liftM (Diorama.say
            ("[AudioManager] Could not decode '" ++ id ++ "' (" ++ path ++ "): " ++ f.message)) :
              Act (Depot α) Unit).Keeps J := fun _ hd =>
          h.sayRunning _ ⟨id ++ "' (" ++ path ++ "): " ++ f.message,
            .inr (by simp only [String.append_assoc])⟩ hd
        exact keeps_bind hsay fun _ => keeps_pure _
      · exact keeps_throw _
    · refine spec_ite (fun _ => hnot fun _ => h.back) fun _ =>
        spec_ite (fun _ => ?_) fun _ => hregister
      exact spec_bind (h.running (keeps_ofExcept _)) fun v =>
        spec_bind (h.running (h.keeps_call rfl)) fun _ => hregister

/-- Nothing is reported unless the hardware runs and the sound is not there, nor twice.  The line
about a sound that is missing is printed at most once for a key, which the set of reported keys
sees to. -/
theorem spec_playSound (h : Attends I J) (key volume : Value α) :
    Spec I (Depot.playSound key volume) (fun _ => PlayEnds I J key) I := by
  have hnot {P : Depot α → Prop} (b : Bool) (hP : ∀ d, P d → I d) :
      Spec P (pure b) (fun _ => PlayEnds I J key) I := spec_pure fun d hd => .inl (hP d hd)
  -- the key is not in the set: it is printed, and it is added only if it can be
  have hreport : Spec J (do reportSound key; return false) (fun _ => PlayEnds I J key) I := by
    refine spec_bind (R := fun _ => PlayEnds I J key) ?_ fun _ => spec_pure fun _ hd => hd
    refine spec_get_bind fun d hd => spec_ite (fun hnew => ?_) fun _ => ?_
    · rintro e rfl
      cases hkey : key.written with
      | error f =>
        rw [run_bind_of_error (run_ofExcept _ _)]
        refine ⟨fun _ t hr => (by cases hr), fun g t hr => ?_⟩
        cases hr
        exact h.back hd
      | ok text =>
        obtain rfl : text = key.plain := (Value.told_eq_ok.1 hkey).2
        rw [run_bind_of_ok (run_ofExcept _ _)]
        refine ⟨fun _ t hr => .inr ⟨_, hd, by simpa using hnew, ?_⟩, fun g t hr => by cases hr⟩
        cases hr
        rfl
    · exact spec_pure fun e he => .inl (he ▸ h.back hd)
  have hplay (path : String) (v : α) : Spec J (do
      onDevice (Device.call (.channelVolume v))
      onDevice (Device.call (.playSound path))
      return true) (fun _ => PlayEnds I J key) I :=
    spec_bind (h.running (h.keeps_call rfl)) fun _ =>
      spec_bind (h.running (h.keeps_call rfl)) fun _ => hnot true fun _ => h.back
  unfold Depot.playSound
  refine spec_bind keeps_get.spec fun d => spec_ite (fun _ => hnot _ fun _ hd => hd) fun _ => ?_
  refine spec_bind h.mixerReady fun ready => ?_
  cases ready with
  | false => exact hnot _ fun _ hd => hd
  | true =>
    refine spec_bind (h.running (keeps_ofExcept _)) fun id =>
      spec_bind (h.running keeps_get) fun d => ?_
    dsimp only
    split
    · exact hreport
    · refine spec_bind (h.running h.keeps_channel) fun found =>
        spec_ite (fun _ => hnot _ fun _ => h.back) fun _ => ?_
      split
      · exact spec_bind (h.running (keeps_pure _)) (hplay _)
      · exact spec_bind (h.running (keeps_ofExcept _)) (hplay _)

end Attends

/-! ## 3. Runs

An order in a run is kept together with the depot that it meets, since whether a loading succeeds
depends on that depot.  A run does not end at a fault: the depot that a failed order leaves is the
one that the next order meets. -/

/-- What can be asked of the sounds, and what the host can do meanwhile. -/
inductive Order (α : Type) where
  | load (id path : String) (volume : Value α)
  | unload (id : String)
  | clear
  | stop (id : String)
  | play (key volume : Value α)
  /-- The files, the hardware and its channels are other ones, and sounds may be muted. -/
  | host (files : Files) (mixer : MixerKind) (mixerOn : Bool) (channels : Int) (muted : Bool)

section Runs

variable [Scalar α]

/-- What an order does. -/
def Order.act : Order α → Act (Depot α) Unit
  | .load id path volume => do
    let _ ← loadSound id path volume
  | .unload id => unloadSound id
  | .clear => clearSounds
  | .stop id => stopSound id
  | .play key volume => do
    let _ ← playSound key volume
  | .host files mixer mixerOn channels muted =>
    modify fun d =>
      { d with
        device := { d.device with files, mixer, mixerOn, channels }
        sounds := { d.sounds with muted } }

/-- The order takes the sound under an id away. -/
def Order.Drops (id : String) : Order α → Prop
  | .unload other => other = id
  | .clear => True
  | _ => False

/-- An order in a run, and the depot that it is given to. -/
structure Step (α : Type) where
  order : Order α
  before : Depot α

/-- The depot that an order leaves behind, whether or not it ends with a fault. -/
def Step.after (s : Step α) : Depot α := s.order.act.after s.before

/-- The order loads the sound in a file under an id, and succeeds. -/
def Step.Loads (s : Step α) (id path : String) : Prop :=
  ∃ volume, s.order = .load id path volume ∧
    ((loadSound id path volume).run s.before).1 = .ok true

/-- The steps of a run. -/
def steps : List (Order α) → Depot α → List (Step α)
  | [], _ => []
  | o :: os, d => ⟨o, d⟩ :: steps os (o.act.after d)

/-- The depot after a run. -/
def obey : List (Order α) → Depot α → Depot α
  | [], d => d
  | o :: os, d => obey os (o.act.after d)

omit [Scalar α] in
/-- To drop a result changes nothing about the depot that is left, with a fault or without one. -/
theorem after_discard {β : Type} (x : Act (Depot α) β) (d : Depot α) :
    (do let _ ← x : Act (Depot α) Unit).after d = x.after d := by
  refine after_bind_cases (P := (· = x.after d)) rfl fun b t h => ?_
  exact (after_eq_of_run h).symm

/-- Orders given in two lots are given one after the other, and so are their steps below. -/
theorem obey_append (os os' : List (Order α)) (d : Depot α) :
    obey (os ++ os') d = obey os' (obey os d) := by
  induction os generalizing d with
  | nil => rfl
  | cons o os ih => exact ih _

/-- The steps of the second lot are taken from where the first lot ended. -/
theorem steps_append (os os' : List (Order α)) (d : Depot α) :
    steps (os ++ os') d = steps os d ++ steps os' (obey os d) := by
  induction os generalizing d with
  | nil => rfl
  | cons o os ih => exact congrArg _ (ih _)

/-- A run that is cut somewhere is two runs, one after the other. -/
theorem steps_eq_append {os : List (Order α)} {d : Depot α} {first rest : List (Step α)}
    (h : steps os d = first ++ rest) : ∃ before after, os = before ++ after ∧
      first = steps before d ∧ rest = steps after (obey before d) := by
  induction first generalizing os d with
  | nil => exact ⟨[], os, rfl, rfl, h.symm⟩
  | cons s first ih =>
    cases os with
    | nil => cases h
    | cons o os =>
      obtain ⟨hs, hrest⟩ := List.cons_eq_cons.1 h
      obtain ⟨before, after, rfl, rfl, rfl⟩ := ih hrest
      exact ⟨o :: before, after, rfl, hs ▸ rfl, rfl⟩

/-- What every step keeps is kept by the run. -/
theorem obey_induction {I : Depot α → Prop} {os : List (Order α)} {d : Depot α} (hd : I d)
    (h : ∀ s ∈ steps os d, I s.before → I s.after) : I (obey os d) := by
  induction os generalizing d with
  | nil => exact hd
  | cons o os ih =>
    obtain ⟨hfirst, hrest⟩ := List.forall_mem_cons.1 h
    exact ih (hfirst hd) hrest

/-! ## 4. What is loaded

The registry of sounds has two parts, what is loaded (`effects`) and what was reported as missing
(`warned`).  One equation for each order says what becomes of both; the theorem at the end is an
induction from the last order backwards, in which the last order either loads the sound, or drops
it, or leaves it alone. -/

/-- The same sounds are loaded, and the same are known to be missing. -/
def SameRegistry (d e : Depot α) : Prop :=
  e.sounds.effects = d.sounds.effects ∧ e.sounds.warned = d.sounds.warned

omit [Scalar α] in
/-- Up to its final note no order touches the registry: hardware, requests and lines are other
parts of a depot. -/
theorem attends_sameRegistry (d : Depot α) : Attends (SameRegistry d) (SameRegistry d) where
  tried htried h := by
    obtain ⟨came, hsounds⟩ := htried.outcome
    unfold SameRegistry
    rw [hsounds]
    exact h
  runs _ h := h
  back h := h
  say _ _ h := h
  sayRunning _ _ h := h
  call _ h := h

/-- A loading that succeeds adds its sound, and makes it known. -/
theorem registry_of_loaded {id path : String} {volume : Value α} {d : Depot α}
    (h : ((loadSound id path volume).run d).1 = .ok true) :
    SameRegistry (registered id path d) ((loadSound id path volume).after d) := by
  obtain ⟨hok, -⟩ := (attends_sameRegistry d).spec_loadSound id path volume d ⟨rfl, rfl⟩
  obtain ⟨e, he, hafter⟩ := hok true _ (Prod.ext h rfl)
  have hafter : (loadSound id path volume).after d = registered id path e := hafter
  simp [hafter, SameRegistry, registered, he.1, he.2]

/-- A loading that does not succeed changes nothing. -/
theorem registry_of_not_loaded {id path : String} {volume : Value α} {d : Depot α}
    (h : ((loadSound id path volume).run d).1 ≠ .ok true) :
    SameRegistry d ((loadSound id path volume).after d) := by
  obtain ⟨hok, herr⟩ := (attends_sameRegistry d).spec_loadSound id path volume d ⟨rfl, rfl⟩
  cases hrun : (loadSound id path volume).run d with
  | mk r t =>
    rw [hrun] at h
    rw [after_eq_of_run hrun]
    match r with
    | .error e => exact herr e t hrun
    | .ok false => exact hok false t hrun
    | .ok true => exact absurd rfl h

omit [Scalar α] in
/-- Nothing can go wrong in forgetting a sound, so a list of sounds is forgotten to its end. -/
theorem faultsIn_unloadSound (id : String) :
    (unloadSound id : Act (Depot α) Unit).FaultsIn fun _ => False := by
  unfold unloadSound
  refine faultsIn_bind faultsIn_get fun d => ?_
  split
  · exact faultsIn_bind (faultsIn_modify _) fun _ => faultsIn_bind faultsIn_mixerReady fun _ =>
      faultsIn_ite (faultsIn_zoom (faultsIn_modify _)) (faultsIn_pure _)
  · exact faultsIn_pure _

omit [Scalar α] in
/-- The sound under the id is gone and every other one is there as before.  Stopping it, if it was
there, does not touch the registry. -/
theorem after_unloadSound (id other : String) (d : Depot α) :
    ((unloadSound id).after d).sounds.effects.lookup other =
        (if other = id then none else d.sounds.effects.lookup other) ∧
      ((unloadSound id).after d).sounds.warned = d.sounds.warned := by
  cases hid : d.sounds.effects.lookup id with
  | none =>
    have hsame : (unloadSound id).after d = d := by
      unfold unloadSound
      rw [after_bind_of_ok (run_get d), hid]
      rfl
    rw [hsame]
    refine ⟨?_, rfl⟩
    split
    · next heq => rw [heq, hid]
    · rfl
  | some path =>
    obtain ⟨heffects, hwarned⟩ : SameRegistry (forgotten id d) ((unloadSound id).after d) := by
      unfold unloadSound
      rw [after_bind_of_ok (run_get d), hid]
      exact (attends_sameRegistry (forgotten id d)).keeps_stopPath path _ ⟨rfl, rfl⟩
    rw [heffects, hwarned]
    exact ⟨Table.lookup_erase .., rfl⟩

omit [Scalar α] in
/-- The sounds under a list of ids are gone.  By induction on the list, where each sound is
forgotten without a fault. -/
theorem after_unloadSounds (other : String) : ∀ (ids : List String) (d : Depot α),
    ((ids.forM unloadSound).after d).sounds.effects.lookup other =
        (if other ∈ ids then none else d.sounds.effects.lookup other) ∧
      ((ids.forM unloadSound).after d).sounds.warned = d.sounds.warned
  | [], d => ⟨rfl, rfl⟩
  | id :: ids, d => by
    obtain ⟨_, t, ht⟩ := (faultsIn_unloadSound id).exists_run d
    have hafter : ((id :: ids).forM unloadSound).after d = (ids.forM unloadSound).after t :=
      after_bind_of_ok (f := fun _ => ids.forM unloadSound) ht
    obtain ⟨hlookup, hwarned⟩ := after_unloadSound id other d
    obtain ⟨hrest, hrest'⟩ := after_unloadSounds other ids t
    rw [after_eq_of_run ht] at hlookup hwarned
    rw [hafter, hrest, hrest', hlookup, hwarned]
    refine ⟨?_, rfl⟩
    by_cases hid : other = id <;> by_cases hids : other ∈ ids <;> simp [hid, hids]

omit [Scalar α] in
/-- Clearing takes all sounds away, one after the other. -/
theorem after_clearSounds (other : String) (d : Depot α) :
    (clearSounds.after d).sounds.effects.lookup other = none ∧
      (clearSounds.after d).sounds.warned = d.sounds.warned := by
  obtain ⟨hlookup, hwarned⟩ := after_unloadSounds other d.sounds.effects.names d
  have hafter : clearSounds.after d = (d.sounds.effects.names.forM unloadSound).after d := rfl
  rw [hafter, hlookup, hwarned]
  refine ⟨?_, rfl⟩
  split
  · rfl
  · next hno =>
    refine List.lookup_eq_none_iff.2 fun p hp => ?_
    have hne : other ≠ p.1 := fun heq => hno (heq ▸ List.mem_map_of_mem hp)
    simpa using hne

omit [Scalar α] in
/-- A stopped sound is still loaded. -/
theorem after_stopSound (id : String) (d : Depot α) :
    SameRegistry d ((stopSound id).after d) :=
  (attends_sameRegistry d).keeps_stopSound id d ⟨rfl, rfl⟩

/-- Playing a sound may add it to what is known to be missing. -/
theorem registry_playSound (key volume : Value α) (d : Depot α) :
    SameRegistry d ((playSound key volume).after d) ∨
      SameRegistry (reported key d) ((playSound key volume).after d) := by
  have hend {e : Depot α} (h : PlayEnds (SameRegistry d) (SameRegistry d) key e) :
      SameRegistry d e ∨ SameRegistry (reported key d) e := by
    rcases h with h | ⟨e, h, -, rfl⟩
    · exact .inl h
    · exact .inr ⟨h.1, congrArg (key :: ·) h.2⟩
  exact ((attends_sameRegistry d).spec_playSound key volume |>.mono (fun _ h => h)
    (fun _ _ => hend) fun _ h => .inl h).after (s := d) ⟨rfl, rfl⟩

section Step

variable {s : Step α} {id path : String}

/-- An order loads one file. -/
theorem Step.Loads.unique {path' : String} (h : s.Loads id path) (h' : s.Loads id path') :
    path = path' := by
  obtain ⟨_, horder, -⟩ := h
  obtain ⟨_, horder', -⟩ := h'
  cases horder.symm.trans horder'
  rfl

/-- What a loading leaves behind does not depend on whether its result is used. -/
theorem Step.Loads.after_eq {volume : Value α} (h : s.order = .load id path volume) :
    s.after = (loadSound id path volume).after s.before := by
  rw [Step.after, h]
  exact after_discard _ _

/-- First case of the induction: after an order that loads the sound, the file of that order is
there. -/
theorem lookup_of_loads (h : s.Loads id path) : s.after.sounds.effects.lookup id = some path := by
  obtain ⟨volume, horder, hok⟩ := h
  rw [Step.Loads.after_eq horder, (registry_of_loaded hok).1]
  exact (Table.lookup_put ..).trans (if_pos rfl)

/-- Second case: after an order that drops the sound, by its id or together with all others,
nothing is there. -/
theorem lookup_of_drops (h : s.order.Drops id) : s.after.sounds.effects.lookup id = none := by
  obtain ⟨order, d⟩ := s
  cases order with
  | unload other =>
    cases h
    exact (after_unloadSound id id d).1.trans (if_pos rfl)
  | clear => exact (after_clearSounds id d).1
  | _ => cases h

/-- Third case: any other order leaves what is there.  Among these are the loading of another
sound, and a loading of this one that was refused. -/
theorem lookup_of_neither (h : ∀ path, ¬ s.Loads id path) (h' : ¬ s.order.Drops id) :
    s.after.sounds.effects.lookup id = s.before.sounds.effects.lookup id := by
  obtain ⟨order, d⟩ := s
  cases order with
  | load other path volume =>
    rw [Step.Loads.after_eq rfl]
    by_cases hok : ((loadSound other path volume).run d).1 = .ok true
    · have hne : id ≠ other := by
        rintro rfl
        exact h path ⟨volume, rfl, hok⟩
      rw [(registry_of_loaded hok).1]
      exact (Table.lookup_put ..).trans (if_neg hne)
    · rw [(registry_of_not_loaded hok).1]
  | unload other => exact (after_unloadSound other id d).1.trans (if_neg fun heq => h' heq.symm)
  | clear => exact absurd trivial h'
  | stop other => exact congrArg _ (after_stopSound other d).1
  | play key volume =>
    rw [show Step.after ⟨.play key volume, d⟩ = _ from after_discard _ d]
    rcases registry_playSound key volume d with h | h <;> exact congrArg _ h.1
  | host => rfl

end Step

/-- The last element of which something holds is the last of all, or one after which another thing
holds of all. -/
theorem exists_last_append {β : Type} {P N : β → Prop} (l : List β) (b : β) :
    (∃ first c rest, l ++ [b] = first ++ c :: rest ∧ P c ∧ ∀ t ∈ rest, N t) ↔
      P b ∨ N b ∧ ∃ first c rest, l = first ++ c :: rest ∧ P c ∧ ∀ t ∈ rest, N t := by
  constructor
  · rintro ⟨first, c, rest, heq, hc, hrest⟩
    rcases List.eq_nil_or_concat rest with rfl | ⟨rest, t, rfl⟩
    · obtain ⟨-, hb⟩ := List.append_inj' heq rfl
      exact .inl (List.singleton_inj.1 hb ▸ hc)
    · rw [List.concat_eq_append] at heq hrest
      rw [← List.cons_append, ← List.append_assoc] at heq
      obtain ⟨rfl, hb⟩ := List.append_inj' heq rfl
      obtain rfl := List.singleton_inj.1 hb
      exact .inr ⟨hrest b (by simp), first, c, rest, rfl, hc, fun t ht => hrest t (by simp [ht])⟩
  · rintro (hb | ⟨hb, first, c, rest, rfl, hc, hrest⟩)
    · exact ⟨l, b, [], rfl, hb, nofun⟩
    · refine ⟨first, c, rest ++ [b], by simp, hc, fun t ht => ?_⟩
      rcases List.mem_append.1 ht with ht | ht
      · exact hrest t ht
      · rwa [List.mem_singleton.1 ht]

/-- **A sound is there exactly if its last loading was not followed by an order that drops it.**
By induction from the end: the last order loads the sound, drops it, or has nothing to do with it,
and then the orders before it decide. -/
theorem lookup_obey_iff {os : List (Order α)} {d : Depot α} (hd : d.sounds.effects = [])
    (id path : String) : (obey os d).sounds.effects.lookup id = some path ↔
      ∃ first s rest, steps os d = first ++ s :: rest ∧ s.Loads id path ∧
        ∀ t ∈ rest, ¬ t.order.Drops id ∧ ∀ other, ¬ t.Loads id other := by
  induction os using List.reverseRecOn with
  | nil => simp [obey, steps, hd]
  | append_singleton os o ih =>
    let s : Step α := ⟨o, obey os d⟩
    have hobey : obey (os ++ [o]) d = s.after := obey_append os [o] d
    have hsteps : steps (os ++ [o]) d = steps os d ++ [s] := steps_append os [o] d
    rw [hobey, hsteps, exists_last_append]
    by_cases hloads : ∃ other, s.Loads id other
    · obtain ⟨other, hother⟩ := hloads
      rw [lookup_of_loads hother, Option.some_inj]
      refine ⟨fun heq => .inl (heq ▸ hother), ?_⟩
      rintro (hpath | ⟨⟨-, hnone⟩, -⟩)
      · exact hother.unique hpath
      · exact absurd hother (hnone other)
    · have hloads : ∀ other, ¬ s.Loads id other := fun other h => hloads ⟨other, h⟩
      by_cases hdrops : s.order.Drops id
      · rw [lookup_of_drops hdrops]
        simp [hloads, hdrops]
      · rw [lookup_of_neither hloads hdrops, ← ih]
        simp [hloads, hdrops, s]

/-! ## 5. What lasts through all orders

A condition that also survives the final notes is one that every order keeps, and by
`obey_induction` every run.  The turns of the host are set apart, because they may change hardware
and files at will. -/

/-- The condition also lasts when an order notes down what came of it. -/
structure Settles (I J : Depot α → Prop) : Prop extends Attends I J where
  register : ∀ {d} (id path : String), J d → I (registered id path d)
  forget : ∀ {d} (id : String), I d → I (forgotten id d)
  report : ∀ {d} (key : Value α), J d → I (reported key d)

/-- The host has its turn, and nobody gives an order. -/
def Order.isHost : Order α → Bool
  | .host .. => true
  | _ => false

/-- One case for each kind of order: what the order does up to its note is known from `Attends`,
and the note is one of the three that `Settles` adds. -/
theorem Settles.keeps_act {I J : Depot α → Prop} (h : Settles I J) {o : Order α}
    (ho : o.isHost = false) : o.act.Keeps I := by
  have hunload (id : String) : (unloadSound id).Keeps I := fun _ hd =>
    h.toAttends.after_unloadSound hd (h.forget id hd)
  cases o with
  | load id path volume =>
    refine keeps_bind ((h.spec_loadSound id path volume).mono (fun _ hd => hd) (fun b d hd => ?_)
      fun _ hd => hd).keeps fun _ => keeps_pure _
    cases b with
    | true =>
      obtain ⟨e, he, rfl⟩ := hd
      exact h.register id path he
    | false => exact hd
  | unload id => exact hunload id
  | clear => exact keeps_bind keeps_get fun d => keeps_forM _ fun id _ => hunload id
  | stop id => exact h.keeps_stopSound id
  | play key volume =>
    refine keeps_bind ((h.spec_playSound key volume).mono (fun _ hd => hd) (fun _ d hd => ?_)
      fun _ hd => hd).keeps fun _ => keeps_pure _
    rcases hd with hd | ⟨e, he, -, rfl⟩
    · exact hd
    · exact h.report key he
  | host => cases ho

/-! ## 6. The hardware is started once

A depot in which the hardware was not yet tried has one try left.  Starts and notes are counted
against it: the sum of what was done and what is left never grows (`Within`).  Lines are told
apart by their sixteenth character, the first after the sign that all of them begin with. -/

/-- How often the hardware was started. -/
def starts (d : Depot α) : Nat := d.device.calls.countP Call.isStart

/-- How often it was noted that the hardware cannot be used. -/
def notes (d : Depot α) : Nat := d.device.log.countP isNote

/-- How often the hardware may still be tried. -/
def untried (d : Depot α) : Nat := if d.sounds.ready.isNone then 1 else 0

/-- Since the first depot, the hardware was tried only as often as it could be. -/
def Within (d e : Depot α) : Prop :=
  starts e + untried e ≤ starts d + untried d ∧ notes e + untried e ≤ notes d + untried d

/-- The lines that tell of sounds are told apart by the first letter after their sign. -/
theorem initial_append (sign : String) {c : Char} (hsign : sign.toList[15]? = some c)
    (rest : String) : (sign ++ rest).toList[15]? = some c := by
  rw [String.toList_append, List.getElem?_append_left (List.getElem?_eq_some_iff.1 hsign).1, hsign]

/-- A loading is refused by a line that says `Skipping` or `Could not decode`. -/
theorem initial_refusal {line : String} (h : IsRefusal line) :
    line.toList[15]? = some 'S' ∨ line.toList[15]? = some 'C' := by
  obtain ⟨rest, rfl | rfl⟩ := h
  · exact .inl (initial_append _ (by decide +kernel) rest)
  · exact .inr (initial_append _ (by decide +kernel) rest)

/-- A missing sound is reported by a line that begins with `Warning`. -/
theorem initial_notLoaded (name : String) : (notLoaded name).toList[15]? = some 'W' := by
  unfold notLoaded
  rw [String.append_assoc]
  exact initial_append _ (by decide +kernel) _

/-- A line with another letter than the `M` of `Mixer unavailable` in this place is not a note. -/
theorem isNote_of_initial {line : String} {c : Char} (h : line.toList[15]? = some c)
    (hc : c ≠ 'M') : isNote line = false := by
  refine Bool.eq_false_iff.2 fun hnote => hc ?_
  obtain ⟨rest, hrest⟩ := List.isPrefixOf_iff_prefix.1 hnote
  have hsign : "[AudioManager] Mixer unavailable".toList[15]? = some 'M' := by decide +kernel
  rw [← hrest, List.getElem?_append_left (List.getElem?_eq_some_iff.1 hsign).1, hsign] at h
  exact (Option.some.inj h).symm

/-- So a refused loading is not noted as a failure of the hardware. -/
theorem isNote_refusal {line : String} (h : IsRefusal line) : isNote line = false :=
  (initial_refusal h).elim (isNote_of_initial · (by decide)) (isNote_of_initial · (by decide))

/-- A line that is not a note does not count as one. -/
theorem notes_push {line : String} (h : isNote line = false) (log : Log) :
    (log.push line).countP isNote = log.countP isNote := by
  rw [Array.countP_push, h]
  rfl

omit [Scalar α] in
/-- Only three numbers matter: how often the hardware was started, how often it was noted, and
whether it can still be tried. -/
theorem Within.congr {d e e' : Depot α} (h : Within d e) (hstarts : starts e' = starts e)
    (hnotes : notes e' = notes e) (huntried : untried e' = untried e) : Within d e' := by
  unfold Within
  rwa [hstarts, hnotes, huntried]

/-- The one step in which a start or a note may come is the first try, and it uses up the try that
was left.  Everything else leaves the three numbers alone. -/
theorem settles_within (d : Depot α) : Settles (Within d) (Within d) where
  tried {e e'} htried h := by
    obtain ⟨came, hsounds⟩ := htried.outcome
    have hfirst : untried e = 1 := by simp [untried, htried.first]
    have hlast : untried e' = 0 := by simp [untried, hsounds]
    have hstarts : starts e' ≤ starts e + 1 := by
      unfold starts
      rcases htried.calls with heq | heq <;> rw [heq]
      · exact Nat.le_succ _
      · rw [Array.countP_push]
        split <;> omega
    have hnotes : notes e' ≤ notes e + 1 := by
      unfold notes
      rcases htried.log with heq | ⟨why, heq⟩ <;> rw [heq]
      · exact Nat.le_succ _
      · rw [Array.countP_push]
        split <;> omega
    obtain ⟨hs, hn⟩ := h
    exact ⟨by omega, by omega⟩
  runs _ h := h
  back h := h
  say _ hline h := h.congr rfl (notes_push (isNote_refusal hline) _) rfl
  sayRunning _ hline h := h.congr rfl (notes_push (isNote_refusal hline) _) rfl
  call hc h := h.congr (by simp [starts, hc]) rfl rfl
  register _ _ h := h
  forget _ h := h
  report key h :=
    h.congr rfl (notes_push (isNote_of_initial (initial_notLoaded key.plain) (by decide)) _) rfl

/-- By induction on the orders; the host has no part in starts and notes. -/
theorem within_obey (os : List (Order α)) (d : Depot α) : Within d (obey os d) := by
  refine obey_induction ⟨Nat.le_refl _, Nat.le_refl _⟩ fun s _ h => ?_
  cases hhost : s.order.isHost with
  | false => exact (settles_within d).keeps_act hhost s.before h
  | true =>
    obtain ⟨order, before⟩ := s
    cases order with
    | host => exact h
    | _ => cases hhost

/-! ## 7. Hardware that does not run

The two strengths of a condition are needed here.  What is to be shown holds only as long as the
hardware does not run; once it was found running, that alone is enough to know. -/

/-- Since the first depot, nothing but the start of the hardware was asked of it. -/
def OnlyStarts (d e : Depot α) : Prop :=
  ∃ new, e.device.calls.toList = d.device.calls.toList ++ new ∧ ∀ c ∈ new, c.isStart = true

/-- As long as the hardware is off, only its start was asked of it.  Every other request comes
after it was found running, where the second half holds. -/
theorem settles_onlyStarts (d : Depot α) : Settles
    (fun e => OnlyStarts d e ∨ e.device.mixerOn = true) fun e => e.device.mixerOn = true where
  tried {e e'} htried h := by
    rcases h with ⟨new, hnew, hall⟩ | hon
    · left
      rcases htried.calls with heq | heq
      · exact ⟨new, by rw [heq, hnew], hall⟩
      · refine ⟨new ++ [.startMixer], by rw [heq, Array.toList_push, hnew, List.append_assoc], ?_⟩
        exact List.forall_mem_append.2 ⟨hall, by simp [Call.isStart]⟩
    · exact .inr (htried.stays hon)
  runs hon _ := hon
  back hon := .inr hon
  say _ _ h := h
  sayRunning _ _ h := h
  call _ h := h
  register _ _ h := .inr h
  forget _ h := h
  report _ h := .inr h

/-- The hardware runs neither before nor after any step. -/
def NeverRuns (os : List (Order α)) (d : Depot α) : Prop :=
  ∀ s ∈ steps os d, s.before.device.mixerOn = false ∧ s.after.device.mixerOn = false

/-- If the hardware runs at no point, the second half never holds, so the first does. -/
theorem onlyStarts_obey {os : List (Order α)} {d : Depot α} (h : NeverRuns os d) :
    OnlyStarts d (obey os d) := by
  refine obey_induction ⟨[], by simp, by simp⟩ fun s hs hbefore => ?_
  cases hhost : s.order.isHost with
  | false =>
    rcases (settles_onlyStarts d).keeps_act hhost s.before (.inl hbefore) with hafter | hon
    · exact hafter
    · exact absurd hon (Bool.eq_false_iff.1 (h s hs).2)
  | true =>
    obtain ⟨order, before⟩ := s
    cases order with
    | host => exact hbefore
    | _ => cases hhost

/-! ## 8. Reports

A sound that is not loaded may be reported once, until it is loaded again (`_warned`).  The
reports are counted as the notes were, for one id at a time: what was reported and what may still
be never grows, except in a step that loads the sound. -/

/-- How often a sound may still be reported, before it is loaded again. -/
def unreported (id : String) (d : Depot α) : Nat :=
  if d.sounds.warned.any ((Value.text id).sameKey ·) then 0 else 1

/-- The lines that a step prints. -/
def Step.printed (s : Step α) : List String :=
  s.after.device.log.toList.drop s.before.device.log.size

/-- The order plays the sound under an id. -/
def Order.asksFor (id : String) : Order α → Bool
  | .play (.text other) _ => other == id
  | _ => false

/-- The lines by which a step that plays a sound reports it as not loaded. -/
def Step.reports (s : Step α) (id : String) : List String :=
  if s.order.asksFor id then s.printed.filter (· == notLoaded id) else []

/-- The lines printed since the first depot report the sound only as often as it may be. -/
def Reports (id : String) (d e : Depot α) : Prop :=
  ∃ lines, e.device.log.toList = d.device.log.toList ++ lines ∧
    lines.count (notLoaded id) + unreported id e ≤ unreported id d

/-- Another line does not count. -/
theorem Reports.push {id : String} {d e e' : Depot α} (h : Reports id d e) {line : String}
    (hline : line ≠ notLoaded id) (hlog : e'.device.log = e.device.log.push line)
    (hwarned : e'.sounds.warned = e.sounds.warned) : Reports id d e' := by
  obtain ⟨lines, hlines, hcount⟩ := h
  refine ⟨lines ++ [line], by rw [hlog, Array.toList_push, hlines, List.append_assoc], ?_⟩
  rw [List.count_append, List.count_singleton, if_neg (by simpa using hline), Nat.add_zero]
  simpa only [unreported, hwarned] using hcount

/-- A line with another letter in the place of the `W` reports nothing. -/
theorem ne_notLoaded {line : String} {c : Char} (h : line.toList[15]? = some c) (hc : c ≠ 'W')
    (name : String) : line ≠ notLoaded name := by
  rintro rfl
  exact hc (Option.some.inj (h.symm.trans (initial_notLoaded name)))

/-- A refused loading is a line of its own and no report. -/
theorem refusal_ne_notLoaded {line : String} (h : IsRefusal line) (name : String) :
    line ≠ notLoaded name :=
  (initial_refusal h).elim (ne_notLoaded · (by decide) name) (ne_notLoaded · (by decide) name)

/-- Up to its final note an order prints nothing that reports a sound, and does not touch what was
reported. -/
theorem attends_reports (id : String) (d : Depot α) : Attends (Reports id d) (Reports id d) where
  tried {e e'} htried h := by
    obtain ⟨came, hsounds⟩ := htried.outcome
    have hwarned : e'.sounds.warned = e.sounds.warned := by rw [hsounds]
    rcases htried.log with heq | ⟨why, heq⟩
    · obtain ⟨lines, hlines, hcount⟩ := h
      exact ⟨lines, heq ▸ hlines, by simpa only [unreported, hwarned] using hcount⟩
    · have hnote := initial_append "[AudioManager] Mixer unavailable, sound disabled: " (c := 'M')
        (by decide +kernel) why
      exact h.push (ne_notLoaded hnote (by decide) id) heq hwarned
  runs _ h := h
  back h := h
  say line hline h := h.push (refusal_ne_notLoaded hline id) rfl rfl
  sayRunning line hline h := h.push (refusal_ne_notLoaded hline id) rfl rfl
  call _ h := h

/-- Playing a sound prints no more reports of it than there may be. -/
theorem reports_playSound (id : String) (volume : Value α) (d : Depot α) :
    Reports id d ((playSound (.text id) volume).after d) := by
  have hstart : Reports id d d := ⟨[], by simp, by simp⟩
  refine ((attends_reports id d).spec_playSound (.text id) volume |>.mono (fun _ h => h)
    (fun _ e he => ?_) fun _ h => h).after hstart
  rcases he with he | ⟨e, ⟨lines, hlines, hcount⟩, hnew, rfl⟩
  · exact he
  · refine ⟨lines ++ [notLoaded id], ?_, ?_⟩
    · show (e.device.log.push (notLoaded id)).toList = _
      rw [Array.toList_push, hlines, List.append_assoc]
    · have hbefore : unreported id e = 1 := by simp [unreported, hnew]
      have hafter : unreported id (reported (.text id) e) = 0 := by
        simp [unreported, reported, Value.sameKey]
      rw [List.count_append, List.count_singleton_self]
      omega

/-- What may still be reported is told from the list of what was reported. -/
theorem unreported_le {id : String} {d e : Depot α} (h : e.sounds.warned = d.sounds.warned) :
    unreported id e ≤ unreported id d :=
  Nat.le_of_eq (by simp only [unreported, h])

/-- To report any sound leaves no more to be reported. -/
theorem unreported_reported_le (id : String) (key : Value α) (d : Depot α) :
    unreported id (reported key d) ≤ unreported id d := by
  simp only [unreported, reported, List.any_cons, Bool.or_eq_true]
  split_ifs with hkey hold hold <;> simp_all

/-- To load a sound makes no other one be reported again. -/
theorem unreported_registered_le {id other : String} (hne : id ≠ other) (path : String)
    (d : Depot α) : unreported id (registered other path d) ≤ unreported id d := by
  have hkept {v : Value α} (h : (Value.text id).sameKey v = true) :
      (!v.sameKey (.text other)) = true := by
    cases v with
    | text s =>
      obtain rfl : id = s := by simpa [Value.sameKey] using h
      simpa [Value.sameKey] using hne
    | _ => simp [Value.sameKey] at h
  unfold unreported
  split_ifs with hnew hold hold
  · exact Nat.le_refl _
  · exact Nat.zero_le _
  · obtain ⟨v, hv, hsame⟩ := List.any_eq_true.1 hold
    exact absurd (List.any_eq_true.2 ⟨v, List.mem_filter.2 ⟨hv, hkept hsame⟩, hsame⟩) hnew
  · exact Nat.le_refl _

/-- No more may be reported after an order than before, unless it loads the sound.  Of all orders
only a loading takes a key off the list of those that were reported, and it takes off its own. -/
theorem unreported_after {s : Step α} {id : String} (h : ∀ path, ¬ s.Loads id path) :
    unreported id s.after ≤ unreported id s.before := by
  obtain ⟨order, d⟩ := s
  cases order with
  | load other path volume =>
    rw [Step.Loads.after_eq rfl]
    by_cases hok : ((loadSound other path volume).run d).1 = .ok true
    · have hne : id ≠ other := by
        rintro rfl
        exact h path ⟨volume, rfl, hok⟩
      exact Nat.le_trans (unreported_le (registry_of_loaded hok).2)
        (unreported_registered_le hne path d)
    · exact unreported_le (registry_of_not_loaded hok).2
  | unload other => exact unreported_le (after_unloadSound other id d).2
  | clear => exact unreported_le (after_clearSounds id d).2
  | stop other => exact unreported_le (after_stopSound other d).2
  | play key volume =>
    rw [show Step.after ⟨.play key volume, d⟩ = _ from after_discard _ d]
    rcases registry_playSound key volume d with h | h
    · exact unreported_le h.2
    · exact Nat.le_trans (unreported_le h.2) (unreported_reported_le id key d)
  | host => exact Nat.le_refl _

/-- One step: if it plays the sound, its report uses up what may be reported; any other step
reports nothing of this sound and leaves no more to be reported, unless it loads the sound. -/
theorem reports_step {s : Step α} {id : String} (h : ∀ path, ¬ s.Loads id path) :
    (s.reports id).length + unreported id s.after ≤ unreported id s.before := by
  unfold Step.reports
  split
  · next hasks =>
    obtain ⟨order, d⟩ := s
    cases order with
    | play key volume =>
      cases key with
      | text other =>
        obtain rfl : other = id := eq_of_beq hasks
        have hafter : Step.after ⟨.play (.text other) volume, d⟩ = _ := after_discard _ d
        obtain ⟨lines, hlines, hcount⟩ := reports_playSound other volume d
        rw [List.count_eq_length_filter] at hcount
        rw [Step.printed, hafter, hlines, ← Array.length_toList, List.drop_left]
        exact hcount
      | _ => cases hasks
    | _ => cases hasks
  · rw [List.length_nil, Nat.zero_add]
    exact unreported_after h

/-- The whole run, by induction on the orders: the sum over the steps telescopes. -/
theorem reports_le {id : String} : ∀ {os : List (Order α)} {d : Depot α},
    (∀ s ∈ steps os d, ∀ path, ¬ s.Loads id path) →
    ((steps os d).flatMap (·.reports id)).length + unreported id (obey os d) ≤ unreported id d
  | [], _, _ => by simp [steps, obey]
  | o :: os, d, h => by
    obtain ⟨hfirst, hrest⟩ := List.forall_mem_cons.1 h
    have hstep := reports_step hfirst
    have hsum := reports_le hrest
    simp only [steps, List.flatMap_cons, List.length_append, obey]
    simp only [Step.after] at hstep
    omega

/-! ## 9. The laws -/

/-- The laws of a run of orders from a depot. -/
structure Orderly (os : List (Order α)) (d : Depot α) : Prop where
  /-- A sound is there exactly if its last loading was not followed by an order that drops it. -/
  loaded : ∀ id path, (obey os d).sounds.effects.lookup id = some path ↔
    ∃ first s rest, steps os d = first ++ s :: rest ∧ s.Loads id path ∧
      ∀ t ∈ rest, ¬ t.order.Drops id ∧ ∀ other, ¬ t.Loads id other
  /-- A loading that does not succeed changes nothing. -/
  refused : ∀ s ∈ steps os d, ∀ id path volume, s.order = .load id path volume →
    ((loadSound id path volume).run s.before).1 ≠ .ok true → SameRegistry s.before s.after
  startedOnce : starts (obey os d) ≤ starts d + 1
  notedOnce : notes (obey os d) ≤ notes d + 1
  /-- Hardware that never runs is asked for nothing but its start. -/
  silent : NeverRuns os d → OnlyStarts d (obey os d)
  /-- In a stretch of the run in which a sound is not loaded it is reported at most once. -/
  reportedOnce : ∀ id first stretch rest, steps os d = first ++ stretch ++ rest →
    (∀ s ∈ stretch, ∀ path, ¬ s.Loads id path) → (stretch.flatMap (·.reports id)).length ≤ 1

/-- **Every run of orders keeps the laws**, if it begins with nothing loaded.  The laws about the
hardware and its note are bounds on what may still be tried; the one about reports is a bound on
what may still be reported, for a stretch without a loading. -/
theorem orderly_of_empty {d : Depot α} (hd : d.sounds.effects = []) (os : List (Order α)) :
    Orderly os d where
  loaded := lookup_obey_iff hd
  refused s _ id path volume horder hno := by
    rw [Step.Loads.after_eq horder]
    exact registry_of_not_loaded hno
  startedOnce := by
    have h := (within_obey os d).1
    have hone : untried d ≤ 1 := by unfold untried; split <;> decide
    omega
  notedOnce := by
    have h := (within_obey os d).2
    have hone : untried d ≤ 1 := by unfold untried; split <;> decide
    omega
  silent := onlyStarts_obey
  reportedOnce id first stretch rest hsteps hno := by
    rw [List.append_assoc] at hsteps
    obtain ⟨before, others, -, -, hothers⟩ := steps_eq_append hsteps
    obtain ⟨within, after, -, rfl, -⟩ := steps_eq_append hothers.symm
    have hsum := reports_le hno
    have hone : unreported id (obey before d) ≤ 1 := by unfold unreported; split <;> decide
    omega

end Runs

/-- A depot with one sound among its files. -/
def oneSound : Depot Rat where
  device := { frameRate := 60, chances := fun _ => 0, files := Files.add {} "a.ogg" .audio }

/-- A sound is played before it is loaded, loaded from a file that is missing and then from its own,
and asked for twice when it is gone. -/
def visit : List (Order Rat) :=
  [.play (.text "a") .null, .load "a" "b.ogg" .null, .load "a" "a.ogg" .null,
    .play (.text "a") .null, .clear, .play (.text "a") .null, .play (.text "a") .null]

/-- The visit starts with nothing loaded. -/
theorem orderly_of_empty_visit :
    letI := Scalar.exact (fun x => x) 57
    oneSound.sounds.effects = [] ∧ Orderly visit oneSound :=
  letI := Scalar.exact (fun x => x) 57
  ⟨rfl, orderly_of_empty rfl visit⟩

/-- The sound is reported once before it is loaded, and once again when it is gone. -/
example : letI := Scalar.exact (fun x => x) 57
    (obey visit oneSound).device.log = #[notLoaded "a",
      "[AudioManager] Skipping missing sound 'a': b.ogg", notLoaded "a"] := by
  decide +kernel

end Depot

end Diorama
