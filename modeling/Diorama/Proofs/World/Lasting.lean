/-
# What lasts in a world

No scene loses its name, its document, its hooks or its binding, no entity disappears, and a
button stays the button it was made as: what moves is where things are, how far a scene has got,
and what is in the layers.  `World.Ages` says this of two worlds.

`World.OwnWork n` says more: only the scene `n` has worked.  Every other scene, the registry, the
choice of the current scene and the input are as before.  Everything that a scene does by itself is
its own work -- building and placing, moving, coming and going -- and only the director's acts are
not.

`World.OffDepot` is the least of changes: at most the depot differs, so the log, the device, the
images and the sounds.
-/
import Diorama.Proofs.World.Readings

namespace Diorama

variable {α : Type}

/-! ## 1. Entities, scenes, worlds

The relations are all reflexive and transitive, which is what the rules for acts ask of a
relation. -/

/-- The second entity is the same button as the first, in whatever pose, or both are none. -/
structure Entity.SameButton (e f : Entity α) : Prop where
  isButton : f.isButton = e.isButton
  form : e.isButton = true → f.form = e.form

theorem Entity.SameButton.refl (e : Entity α) : e.SameButton e := ⟨rfl, fun _ => rfl⟩

theorem Entity.SameButton.of_form {e f : Entity α} (h : f.form = e.form) : e.SameButton f :=
  ⟨by unfold Entity.isButton; rw [h], fun _ => h⟩

/-- The form of a button never changes, and a thing that is no button never becomes one. -/
theorem Entity.SameButton.trans {e f g : Entity α} (h : e.SameButton f) (h' : f.SameButton g) :
    e.SameButton g := by
  refine ⟨h'.isButton.trans h.isButton, fun he => ?_⟩
  exact (h'.form (h.isButton.trans he)).trans (h.form he)

/-- Every entity is still there, and the buttons are the same buttons. -/
def SameButtons (es fs : Array (Entity α)) : Prop :=
  ∀ (k : Nat) (e : Entity α), es[k]? = some e → ∃ f, fs[k]? = some f ∧ e.SameButton f

theorem SameButtons.refl (es : Array (Entity α)) : SameButtons es es :=
  fun _ e h => ⟨e, h, .refl e⟩

/-- New entities may come to the end of the array; none is lost. -/
theorem SameButtons.trans {es fs gs : Array (Entity α)} (h : SameButtons es fs)
    (h' : SameButtons fs gs) : SameButtons es gs := by
  intro k e he
  obtain ⟨f, hf, hef⟩ := h k e he
  obtain ⟨g, hg, hfg⟩ := h' k f hf
  exact ⟨g, hg, hef.trans hfg⟩

/-- What a scene is does not change; a script may get on. -/
inductive Role.Lasts : Role α → Role α → Prop where
  | plain : Lasts .plain .plain
  | scripted {c d : Script α} (spec : d.spec = c.spec) (handles : d.handlesCustom = c.handlesCustom)
      (activations : c.activations ≤ d.activations) : Lasts (.scripted c) (.scripted d)
  | pong (p q : PongScene α) : Lasts (.pong p) (.pong q)
  | witness {v w : Witness} (hooks : w.hooks = v.hooks) : Lasts (.witness v) (.witness w)

/-- A scene keeps its name, its hooks, its document, and its binding once it has it. -/
structure Scene.Lasts (s t : Scene α) : Prop where
  name : t.name = s.name
  bound : s.bound = true → t.bound = true
  role : s.role.Lasts t.role

theorem Role.Lasts.refl (r : Role α) : r.Lasts r := by
  cases r with
  | plain => exact .plain
  | scripted c => exact .scripted rfl rfl (Nat.le_refl _)
  | pong p => exact .pong p p
  | witness w => exact .witness rfl

/-- The role of a scene is for life, and of a script the document and the handlers are too. -/
theorem Role.Lasts.trans {a b c : Role α} (h : a.Lasts b) (h' : b.Lasts c) : a.Lasts c := by
  cases h with
  | plain => exact h'
  | scripted hs hh ha =>
    cases h' with
    | scripted hs' hh' ha' =>
      exact .scripted (hs'.trans hs) (hh'.trans hh) (Nat.le_trans ha ha')
  | pong p q =>
    cases h' with
    | pong _ r => exact .pong p r
  | witness hw =>
    cases h' with
    | witness hw' => exact .witness (hw'.trans hw)

theorem Scene.Lasts.refl (s : Scene α) : s.Lasts s := ⟨rfl, id, .refl _⟩

/-- A scene keeps its name, its hooks and its binding, and its role lasts. -/
theorem Scene.Lasts.trans {s t u : Scene α} (h : s.Lasts t) (h' : t.Lasts u) : s.Lasts u :=
  ⟨h'.name.trans h.name, fun hb => h'.bound (h.bound hb), h.role.trans h'.role⟩

namespace World

/-- What is in every world that comes later. -/
structure Ages (w v : World α) : Prop where
  missing : v.missing = w.missing
  size : v.scenes.size = w.scenes.size
  scenes : ∀ (n : Nat) (s : Scene α), w.scenes[n]? = some s → ∃ t, v.scenes[n]? = some t ∧ s.Lasts t
  entities : SameButtons w.entities v.entities

/-- Only the scene `n` has worked, and it is not the director's work. -/
structure OwnWork (n : Nat) (w v : World α) : Prop extends Ages w v where
  current : v.current = w.current
  registry : v.registry = w.registry
  input : v.input = w.input
  others : ∀ m : Nat, m ≠ n → v.scenes[m]? = w.scenes[m]?

/-- At most the depot differs. -/
def OffDepot (w v : World α) : Prop := v = { w with depot := v.depot }

theorem Ages.refl (w : World α) : w.Ages w :=
  ⟨rfl, rfl, fun _ s h => ⟨s, h, .refl s⟩, .refl _⟩

/-- What touches neither scenes nor entities lets a world age. -/
theorem Ages.of_eq {w v : World α} (hm : v.missing = w.missing) (hs : v.scenes = w.scenes)
    (he : v.entities = w.entities) : w.Ages v := by
  refine ⟨hm, by rw [hs], fun n s h => ⟨s, by rw [hs, h], .refl s⟩, ?_⟩
  rw [he]
  exact .refl _

/-- Worlds age step by step. -/
theorem Ages.trans {u v w : World α} (h : u.Ages v) (h' : v.Ages w) : u.Ages w := by
  refine ⟨h'.missing.trans h.missing, h'.size.trans h.size, fun n s hs => ?_,
    h.entities.trans h'.entities⟩
  obtain ⟨t, ht, hst⟩ := h.scenes n s hs
  obtain ⟨t', ht', htt⟩ := h'.scenes n t ht
  exact ⟨t', ht', hst.trans htt⟩

/-- The work of one scene after its work is still its work, and nobody else's. -/
theorem OwnWork.trans {n : Nat} {u v w : World α} (h : u.OwnWork n v) (h' : v.OwnWork n w) :
    u.OwnWork n w where
  toAges := h.toAges.trans h'.toAges
  current := h'.current.trans h.current
  registry := h'.registry.trans h.registry
  input := h'.input.trans h.input
  others m hm := (h'.others m hm).trans (h.others m hm)

instance : IsPreorder (World α) Ages where
  refl := .refl
  trans _ _ _ := .trans

instance (n : Nat) : IsPreorder (World α) (OwnWork n) where
  refl w :=
    { Ages.refl w with current := rfl, registry := rfl, input := rfl, others := fun _ _ => rfl }
  trans _ _ _ := .trans

/-- Changes of the depot add up to a change of the depot. -/
theorem OffDepot.trans {u v w : World α} (h : u.OffDepot v) (h' : v.OffDepot w) :
    u.OffDepot w := by
  unfold OffDepot at *
  rw [h', h]

instance : IsPreorder (World α) OffDepot where
  refl _ := rfl
  trans _ _ _ := .trans

/-- The depot belongs to no scene, so whatever only changes the depot may be the work of any of
them. -/
theorem OffDepot.ownWork {w v : World α} (h : w.OffDepot v) (n : Nat) : w.OwnWork n v := by
  rw [h]
  exact { Ages.refl w with current := rfl, registry := rfl, input := rfl, others := fun _ _ => rfl }

/-- A script stays with its scene: the same document, the same handlers, and the activations only
go up. -/
theorem Ages.script? {w v : World α} (h : w.Ages v) {n : Nat} {c : Script α}
    (hc : w.script? n = some c) : ∃ d, v.script? n = some d ∧ d.spec = c.spec ∧
      d.handlesCustom = c.handlesCustom ∧ c.activations ≤ d.activations := by
  obtain ⟨s, hs, hr⟩ := script?_eq_some.1 hc
  obtain ⟨t, ht, hst⟩ := h.scenes n s hs
  have hrole : (Role.scripted c).Lasts t.role := hr ▸ hst.role
  generalize htr : t.role = r at hrole
  cases hrole with
  | scripted hspec hhandles hact =>
    exact ⟨_, script?_eq_some.2 ⟨t, ht, htr⟩, hspec, hhandles, hact⟩

/-- A scene keeps the name it was made with. -/
theorem Ages.name {w v : World α} (h : w.Ages v) {n : Nat} {s : Scene α}
    (hs : w.scenes[n]? = some s) : ∀ t, v.scenes[n]? = some t → t.name = s.name := by
  intro t ht
  obtain ⟨t', ht', hst⟩ := h.scenes n s hs
  obtain rfl : t = t' := Option.some.inj (ht.symm.trans ht')
  exact hst.name

/-- A scene that works leaves the scripts of all others alone. -/
theorem OwnWork.script? {n m : Nat} {w v : World α} (h : w.OwnWork n v) (hm : m ≠ n) :
    v.script? m = w.script? m := by
  unfold World.script?
  rw [h.others m hm]

end World

end Diorama
