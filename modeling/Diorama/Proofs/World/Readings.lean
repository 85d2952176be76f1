/-
# What the acts of a world read

Every act of a world starts by looking something up: a scene, its script, an entity, a part of
the engine.  A look-up changes nothing, and its result is given here as a function of the world,
so that the rest of an act can be followed from what was found.

`World.script?` is the script of a scene that has one.  Changing a script (`modifyScript`) is
seen through it: the script of that scene changes, and no other.
-/
import Diorama.Proofs.Rules
import Diorama.Launch

namespace Diorama

variable {α : Type}

/-! ## 1. Scripts

A scripted scene is a scene with a script in it; the lemmas go back and forth between the two. -/

/-- The script of a scene, if it is a scripted one. -/
def Scene.script? (s : Scene α) : Option (Script α) :=
  match s.role with
  | .scripted script => some script
  | _ => none

/-- The states of a script are those of its document. -/
theorem Script.states_eq {c d : Script α} (h : d.spec = c.spec) : d.states = c.states := by
  unfold Script.states
  rw [h]

namespace World

/-- The script of the scene with a number, if it is a scripted one. -/
def script? (w : World α) (n : Nat) : Option (Script α) := w.scenes[n]?.bind Scene.script?

/-- Changes the script of a scene, if it has one. -/
def mapScript (n : Nat) (f : Script α → Script α) (w : World α) : World α :=
  { w with
    scenes := w.scenes.modify n fun s =>
      match s.role with
      | .scripted script => { s with role := .scripted (f script) }
      | _ => s }

/-- A script is that of a scripted scene. -/
theorem script?_eq_some {w : World α} {n : Nat} {c : Script α} :
    w.script? n = some c ↔ ∃ s, w.scenes[n]? = some s ∧ s.role = .scripted c := by
  unfold script? Scene.script?
  rw [Option.bind_eq_some_iff]
  constructor
  · rintro ⟨s, hs, h⟩
    refine ⟨s, hs, ?_⟩
    split at h
    · next hr =>
      rw [hr, Option.some.inj h]
    · cases h
  · rintro ⟨s, hs, hr⟩
    exact ⟨s, hs, by rw [hr]⟩

/-- To change the script of one scene is seen in that script only. -/
theorem script?_mapScript (w : World α) (n m : Nat) (f : Script α → Script α) :
    (w.mapScript n f).script? m = if n = m then (w.script? m).map f else w.script? m := by
  unfold script? mapScript Scene.script?
  rw [Array.getElem?_modify]
  split
  · cases w.scenes[m]? with
    | none => rfl
    | some s =>
      obtain ⟨name, bound, started, role⟩ := s
      cases role <;> rfl
  · rfl

/-- The script of a scene after a change of it. -/
theorem script?_mapScript_self {w : World α} {n : Nat} {c : Script α} (hc : w.script? n = some c)
    (f : Script α → Script α) : (w.mapScript n f).script? n = some (f c) := by
  rw [script?_mapScript, if_pos rfl, hc, Option.map_some]

/-- The script of a scene before a change of it. -/
theorem exists_of_mapScript {w : World α} {n : Nat} {d : Script α} {f : Script α → Script α}
    (hd : (w.mapScript n f).script? n = some d) : ∃ c, w.script? n = some c ∧ f c = d := by
  rw [script?_mapScript, if_pos rfl] at hd
  exact Option.map_eq_some_iff.1 hd

/-- A change that leaves the role of every scene leaves every script. -/
theorem script?_modifyScene (w : World α) (n m : Nat) {f : Scene α → Scene α}
    (h : ∀ s : Scene α, (f s).role = s.role) :
    ((modifyScene n f).after w).script? m = w.script? m := by
  change ({ w with scenes := w.scenes.modify n f } : World α).script? m = w.script? m
  unfold script? Scene.script?
  rw [Array.getElem?_modify]
  split
  · cases w.scenes[m]? with
    | none => rfl
    | some s => simp only [Option.map_some, Option.bind_some, h]
  · rfl

/-! ## 2. Looking up

Each look-up has one equation: its result as a function of the world, and the world as it was.  A
thing that is not there is the fault `absent`. -/

section LookUp

variable (n : Nat) (p : Part) (w : World α)

/-- A scene is looked up by its number. -/
theorem run_sceneAt : (sceneAt n).run w = match w.scenes[n]? with
    | some s => (.ok s, w)
    | none => (.error .absent, w) := by
  unfold sceneAt
  rw [Act.run_bind_of_ok (Act.run_get w)]
  cases w.scenes[n]? <;> rfl

/-- A script is looked up by the number of its scene; a scene of another role has none. -/
theorem run_scriptAt : (scriptAt n).run w = match w.script? n with
    | some c => (.ok c, w)
    | none => (.error .absent, w) := by
  unfold scriptAt script? Scene.script?
  rw [Act.run_bind, run_sceneAt]
  cases w.scenes[n]? with
  | none => rfl
  | some s =>
    obtain ⟨name, bound, started, role⟩ := s
    cases role <;> rfl

/-- A scene reaches a part of the engine if it is bound and the engine has that part. -/
theorem run_reaches : (reaches n p).run w = match w.scenes[n]? with
    | some s => (.ok (s.bound && w.hasPart p), w)
    | none => (.error .absent, w) := by
  unfold reaches
  rw [Act.run_bind, run_sceneAt]
  cases w.scenes[n]? <;> rfl

theorem run_entityAt : (entityAt n).run w = match w.entities[n]? with
    | some e => (.ok e, w)
    | none => (.error .absent, w) := by
  unfold entityAt
  rw [Act.run_bind_of_ok (Act.run_get w)]
  cases w.entities[n]? <;> rfl

theorem run_requirePart :
    (requirePart p).run w = if w.hasPart p then (.ok (), w) else (.error .absent, w) := by
  unfold requirePart
  rw [Act.run_bind_of_ok (Act.run_get w)]
  cases w.hasPart p <;> rfl

/-- A name that is a text is looked up as it is, any other scalar finds nothing, and a list or a
mapping is a fault. -/
theorem run_registered? [Scalar α] (name : Value α) :
    (registered? name).run w = match name.nameKey with
      | .ok key => (.ok (key.bind fun key => w.registry.lookup key), w)
      | .error e => (.error e, w) := by
  unfold registered?
  cases name.nameKey <;> rfl

theorem run_modifyScript (f : Script α → Script α) :
    (modifyScript n f).run w = (.ok (), w.mapScript n f) := rfl

/-- A new entity gets the next number. -/
theorem run_addEntity (e : Entity α) :
    (addEntity e).run w = (.ok w.entities.size, { w with entities := w.entities.push e }) := rfl

end LookUp

/-- A scene has one role. -/
theorem script?_of_witness {n : Nat} {w : World α} {s : Scene α} {r : Witness}
    (hs : w.scenes[n]? = some s) (hr : s.role = .witness r) : w.script? n = none := by
  unfold script? Scene.script?
  rw [hs, Option.bind_some, hr]

/-- A scripted scene is no game. -/
theorem run_pongAt_of_script {n : Nat} {w : World α} {c : Script α} (hc : w.script? n = some c) :
    (pongAt n).run w = (.error .absent, w) := by
  obtain ⟨s, hs, hr⟩ := script?_eq_some.1 hc
  unfold pongAt
  rw [Act.run_bind_of_ok (by rw [run_sceneAt, hs]), hr]
  rfl

/-! ## 3. Looking up changes nothing

All look-ups at once: they read the world and leave it. -/

section LookUp

variable (n : Nat) (p : Part)

theorem moves_sceneAt : (sceneAt n : Act (World α) _).Moves Eq := by
  intro w
  rw [Act.after, run_sceneAt]
  split <;> rfl

theorem moves_scriptAt : (scriptAt n : Act (World α) _).Moves Eq := by
  intro w
  rw [Act.after, run_scriptAt]
  split <;> rfl

theorem moves_reaches : (reaches n p : Act (World α) _).Moves Eq := by
  intro w
  rw [Act.after, run_reaches]
  split <;> rfl

theorem moves_entityAt : (entityAt n : Act (World α) _).Moves Eq := by
  intro w
  rw [Act.after, run_entityAt]
  split <;> rfl

theorem moves_requirePart : (requirePart p : Act (World α) _).Moves Eq := by
  intro w
  rw [Act.after, run_requirePart]
  split <;> rfl

theorem moves_pongAt : (pongAt n : Act (World α) _).Moves Eq := by
  unfold pongAt
  refine Act.moves_bind (moves_sceneAt n) fun s => ?_
  split
  · exact Act.moves_pure _
  · exact Act.moves_throw _

theorem moves_piecesAt : (piecesAt n : Act (World α) _).Moves Eq := by
  unfold piecesAt
  refine Act.moves_bind (moves_pongAt n) fun s => ?_
  split
  · exact Act.moves_pure _
  · exact Act.moves_throw _

theorem moves_readGame : (readGame n : Act (World α) _).Moves Eq := by
  unfold readGame
  refine Act.moves_bind (moves_pongAt n) fun s => Act.moves_bind (moves_piecesAt n) fun p => ?_
  refine Act.moves_bind (moves_entityAt _) fun _ => Act.moves_bind (moves_entityAt _) fun _ => ?_
  exact Act.moves_bind (moves_entityAt _) fun _ => Act.moves_pure _

theorem moves_workshopOf : (workshopOf n : Act (World α) _).Moves Eq := by
  unfold workshopOf
  refine Act.moves_bind Act.moves_get fun w => ?_
  exact Act.moves_bind (moves_reaches n _) fun _ => Act.moves_bind (moves_reaches n _) fun _ =>
    Act.moves_pure _

theorem moves_requireReach : (requireReach n p : Act (World α) _).Moves Eq :=
  Act.moves_bind (moves_reaches n p) fun _ => Act.moves_ite (Act.moves_throw _) (Act.moves_pure _)

theorem moves_keysAt : (keysAt n : Act (World α) _).Moves Eq := by
  unfold keysAt
  exact Act.moves_bind Act.moves_get fun w => Act.moves_bind (moves_reaches n _) fun _ =>
    Act.moves_pure _

theorem moves_registered? [Scalar α] (name : Value α) :
    (registered? name : Act (World α) _).Moves Eq := by
  unfold registered?
  exact Act.moves_bind (Act.moves_ofExcept _) fun _ => Act.moves_bind Act.moves_get fun _ =>
    Act.moves_pure _

theorem moves_freshPress? : (freshPress? n : Act (World α) _).Moves Eq := by
  unfold freshPress?
  refine Act.moves_bind Act.moves_get fun w => Act.moves_bind (moves_reaches n _) fun b => ?_
  exact Act.moves_ite (Act.moves_pure _) (Act.moves_pure _)

end LookUp

end World

end Diorama
