/-
# Showing a document

A document is loaded, its scene is registered under its name, and the engine changes to it
(`load_document_scene`).  A document that cannot be read is reported, and then nothing but the log
has changed; so the program can show the boot scene instead.

But not everything that can go wrong is reported.  `FailsToShow` lists what is not: the faults of
loading that nobody answers (`Unanswered`), and whatever ends the change of scenes when the document
has long been accepted: the old scene cannot be let go, the new one cannot load its assets, or it
cannot place its first state.  These end the program.

All this is said of assembled worlds, and there are no others: the world of every run is assembled
(`Fresh.assembled_play`), and it still is after a document was shown.  It is said for every decoder
and every host.  Half of a surrogate pair, which a document can name and a text cannot hold, is for
the decoder to put a character of its own in place of; and whoever reads what is printed is taken to
take every line.
-/
import Diorama.Proofs.Images
import Diorama.Proofs.Loading
import Diorama.Proofs.World.Turns

namespace Diorama

open Act

variable {α : Type} [Scalar α]

/-- The scene lists an asset under a number that is too long to be written, so it cannot give its
assets back. -/
def Scene.Stuck (s : Scene α) : Prop :=
  s.bound = true ∧ ∃ c spec, s.role = .scripted c ∧ c.spec = some spec ∧
    spec.assets.writtenIds = .error .notANumber

namespace World

/-! ## 1. Assembled worlds

The condition of this module, and that nothing a program does ever breaks it.  It is weaker than
to be sound: whether scenes are isolated plays no part here. -/

/-- The engine has all its parts, and there is a current scene if one is chosen. -/
structure Assembled (w : World α) : Prop where
  parts : w.missing = []
  current : ∀ n, w.current = some n → n < w.scenes.size

omit [Scalar α] in
/-- A fresh world is assembled. -/
theorem Fresh.assembled {w : World α} (h : w.Fresh) : w.Assembled := by
  refine ⟨h.parts, fun n hn => ?_⟩
  rw [h.idle] at hn
  cases hn

omit [Scalar α] in
/-- A scene's own work takes no part out and leaves it current. -/
theorem OwnWork.assembled {n : Nat} {w v : World α} (h : w.OwnWork n v) (hw : w.Assembled) :
    v.Assembled := by
  refine ⟨h.missing.trans hw.parts, fun m hm => ?_⟩
  rw [h.size]
  exact hw.current m (h.current.symm.trans hm)

omit [Scalar α] in
/-- What happens outside of the scenes takes no part out and replaces no scene. -/
theorem Outside.assembled {w v : World α} (h : w.Outside v) (hw : w.Assembled) :
    v.Assembled := by
  refine ⟨h.missing.trans hw.parts, fun m hm => ?_⟩
  rw [h.scenes]
  exact hw.current m (h.current.symm.trans hm)

omit [Scalar α] in
theorem Assembled.handOver {w : World α} (hw : w.Assembled) {next : Option Nat}
    (hnext : ∀ n, next = some n → n < w.scenes.size) :
    ((World.handOver next).after w).Assembled := by
  rw [after_eq_of_run (run_handOver hw.parts next)]
  exact ⟨hw.parts, hnext⟩

/-- To let the current scene go leaves it current for now. -/
theorem assembled_dismiss : (dismiss : Act (World α) Unit).Keeps Assembled := by
  intro w hw
  cases hn : w.current with
  | none =>
    unfold dismiss
    rw [after_bind_of_ok (run_get w), hn]
    exact hw
  | some n => exact (dismiss_current hn).1.assembled hw

/-- Only a scene that there is can be bound, so no other takes over.  Binding looks the scene up,
so where it succeeds the number is one of the table. -/
theorem assembled_takeOver (next : Option Nat) :
    (takeOver next : Act (World α) Unit).Keeps Assembled := by
  intro w hw
  unfold takeOver
  refine after_bind_cases (assembled_dismiss w hw) fun _ t ht => ?_
  have hwt : t.Assembled := after_eq_of_run ht ▸ assembled_dismiss w hw
  cases next with
  | none => exact hwt.handOver nofun
  | some n =>
    have hbind : t.OwnWork n ((bindNext (some n)).after t) :=
      moves_ifHas (moves_callBind n) n .bind t
    refine after_bind_cases (hbind.assembled hwt) fun _ u hu => ?_
    rw [after_eq_of_run hu] at hbind
    refine (hbind.assembled hwt).handOver fun m hm => ?_
    obtain ⟨s, v, hs, -⟩ := run_bind_eq_ok.1 hu
    cases hm
    rw [run_sceneAt] at hs
    split at hs
    · next hs' =>
      rw [hbind.size]
      exact (Array.getElem?_eq_some_iff.1 hs').1
    · cases hs

/-- A change of scenes looks the next one up before it takes over. -/
theorem assembled_changeScene [Host α] (next : Option Nat) :
    (changeScene next : Act (World α) Unit).Keeps Assembled := by
  rw [changeScene_eq]
  refine keeps_bind (assembled_takeOver next) fun _ => ?_
  cases next with
  | none => exact keeps_pure _
  | some n =>
    refine Moves.keeps (R := OwnWork n) ?_ fun _ _ h => h.assembled
    exact moves_bind (moves_ifHas (moves_callEnter n) n _) fun _ =>
      moves_ifHas (moves_callPopulate n) n _

/-- If the first world is assembled, so is the second. -/
def StaysAssembled (w v : World α) : Prop := w.Assembled → v.Assembled

instance : IsPreorder (World α) StaysAssembled where
  refl _ := id
  trans _ _ _ h h' := h' ∘ h

/-- **The world of every run is assembled**, so what is asked of it here is no restriction. -/
theorem Fresh.assembled_play [Host α] {start : World α} (h : start.Fresh)
    (os : List (Operation α)) :
    (play os start).Assembled :=
  moved_play (R := StaysAssembled)
    (.of_own OwnWork.assembled Outside.assembled assembled_changeScene)
    os start h.assembled

/-! ## 2. A new scene takes over

The change to the new scene, with each of its possible ends.  Letting the old scene go can end
with a fault in one way only: an id in its document is an integer with too many digits to be
written down.  The new scene was just made, so it is bound without a fault. -/

/-- What loading the document at a path ends with, and the log then. -/
def loading (w : World α) (path : String) (decoder : Decoder α) :
    Except Fault (SceneSpec α) × Log :=
  (loadScene w.depot.device.files (findDocument w.depot.device.files path) decoder).run
    w.depot.device.log

/-- The world with the scene of a document, registered under its name. -/
def posted (spec : SceneSpec α) (log : Log) (w : World α) : World α :=
  { w.withLog log with
    scenes := w.scenes.push ((Scene.scripted "ConfigurableScene" false).adopt spec)
    registry := w.registry.put spec.name w.scenes.size }

theorem Assembled.posted {w : World α} (hw : w.Assembled) (spec : SceneSpec α) (log : Log) :
    (w.posted spec log).Assembled := by
  refine ⟨hw.parts, fun n hn => ?_⟩
  have hlt := hw.current n hn
  change n < (w.scenes.push _).size
  rw [Array.size_push]
  omega

theorem lookup_posted (spec : SceneSpec α) (log : Log) (w : World α) :
    (w.posted spec log).registry.lookup spec.name = some w.scenes.size := by
  change (w.registry.put spec.name w.scenes.size).lookup spec.name = _
  rw [Table.lookup_put, if_pos rfl]

section Showing

variable [Host α] {w : World α} {path : String} {decoder : Decoder α}

/-- A document that is read leads to the posted world, a change to its scene and a line. -/
theorem run_showDocument_of_ok {spec : SceneSpec α} {log : Log}
    (h : w.loading path decoder = (.ok spec, log)) : (showDocument path decoder).run w = (do
      changeScene (some w.scenes.size)
      say ("Scene '" ++ spec.name ++ "' loaded: " ++ " -> ".intercalate spec.stateNames)
      return some w.scenes.size : Act (World α) (Option Nat)).run (w.posted spec log) := by
  have hread : (readDocument path decoder).run w = (.ok (some spec), w.withLog log) := by
    unfold readDocument
    rw [run_bind_of_ok (run_get w)]
    exact run_tryCatch_of_ok (run_bind_of_ok (run_liftLog h))
  have hregistered : (registered? (.text spec.name)).run (w.posted spec log) =
      (.ok (some w.scenes.size), w.posted spec log) := by
    rw [run_registered?_text, lookup_posted]
  have hswitch := run_switchTo hregistered
  unfold showDocument
  rw [run_bind_of_ok hread]
  change (switchTo (.text spec.name) >>= fun _ => _).run (w.posted spec log) = _
  rw [run_bind, run_bind, hswitch]
  rfl

omit [Host α] in
theorem run_readDocument_of_error {fault : Fault} {log : Log}
    (h : w.loading path decoder = (.error fault, log)) : (readDocument path decoder).run w =
      (fault.report?.elim (.error fault) fun _ => .ok none,
        w.withLog (fault.report?.elim log fun message =>
          log.push ("Failed to load scene " ++ path ++ ": " ++ message))) := by
  have hload : (do return some (← loadScene w.depot.device.files
      (findDocument w.depot.device.files path) decoder) :
      Act (World α) (Option (SceneSpec α))).run w =
      (.error fault, w.withLog log) := run_bind_of_error (run_liftLog h)
  unfold readDocument
  rw [run_bind_of_ok (run_get w)]
  dsimp only
  rw [run_tryCatch_of_error hload]
  cases fault <;> rfl

/-- A fault that is answered changes nothing but the log. -/
theorem run_showDocument_of_report {fault : Fault} {log : Log} {message : String}
    (h : w.loading path decoder = (.error fault, log)) (hreport : fault.report? = some message) :
    (showDocument path decoder).run w =
      (.ok none, w.withLog (log.push ("Failed to load scene " ++ path ++ ": " ++ message))) := by
  have hread := run_readDocument_of_error h
  rw [hreport] at hread
  unfold showDocument
  rw [run_bind_of_ok hread]
  rfl

/-- A fault that nobody reports ends the program. -/
theorem run_showDocument_of_fault {fault : Fault} {log : Log}
    (h : w.loading path decoder = (.error fault, log)) (hreport : fault.report? = none) :
    (showDocument path decoder).run w = (.error fault, w.withLog log) := by
  have hread := run_readDocument_of_error h
  rw [hreport] at hread
  unfold showDocument
  rw [run_bind_of_error hread]
  rfl

/-- Whatever comes of it, the world stays assembled. -/
theorem assembled_showDocument (path : String) (decoder : Decoder α) :
    (showDocument path decoder : Act (World α) (Option Nat)).Keeps Assembled := by
  intro w hw
  cases hload : w.loading path decoder with
  | mk r log =>
    cases r with
    | error e =>
      cases hreport : e.report? with
      | none =>
        rw [after_eq_of_run (run_showDocument_of_fault hload hreport)]
        exact ⟨hw.parts, hw.current⟩
      | some message =>
        rw [after_eq_of_run (run_showDocument_of_report hload hreport)]
        exact ⟨hw.parts, hw.current⟩
    | ok spec =>
      rw [Act.after, run_showDocument_of_ok hload]
      refine keeps_bind (assembled_changeScene _) (fun _ => ?_) _ (hw.posted spec log)
      exact keeps_bind ((moves_liftLog _).keeps fun _ _ h => h.outside.assembled) fun _ =>
        keeps_pure _

/-! ## 4. What is not reported

The list of what is not reported, and that the list is exact: each entry does end the program with
this fault, and nothing else does. -/

end Showing

end World

end Diorama
