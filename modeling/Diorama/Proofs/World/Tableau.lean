/-
# What an activation makes

An activation builds entities, puts them into layers, and records them.  Entities are known by
numbers, and which numbers are free depends on all that was built before.  So a world is looked
at with its entities counted from a base: a `Tableau` is what a scene shows and keeps track of,
with the first new entity as number zero, and `t.Seen n b w` says that the scene `n` has it in the
world `w`, counted from `b`.

`Act.Settled` says of an act that what it makes of a tableau, how it ends and what it prints are
settled by the tableau alone, wherever it is seen.  Everything that places a state is of this
kind: nothing that happened before shows in it.
-/
import Diorama.Proofs.World.Buttons

namespace Diorama

open Act

variable {α : Type}

/-! ## 1. Counting from another number

Tables, animations and layers with all numbers shifted.  Each way of changing them commutes with
the shift, because a number is only ever compared with another one. -/

theorem Table.has_map (t : Table Nat) (f : Nat → Nat) (name : String) :
    Table.has (t.map fun p => (p.1, f p.2)) name = t.has name := by
  unfold has
  induction t with
  | nil => rfl
  | cons p t ih =>
    obtain ⟨k, v⟩ := p
    simp only [List.map_cons, List.lookup_cons]
    split
    · rfl
    · exact ih

theorem Table.put_map (t : Table Nat) (f : Nat → Nat) (name : String) (v : Nat) :
    Table.put (t.map fun p => (p.1, f p.2)) name (f v) =
      (t.put name v).map fun p => (p.1, f p.2) := by
  unfold put
  rw [has_map]
  split
  · rw [List.map_map, List.map_map]
    refine List.map_congr_left fun p _ => ?_
    simp only [Function.comp_apply]
    split <;> rfl
  · rw [List.map_append]
    rfl

namespace Motions

/-- Counts the things that are animated from another number. -/
def shift (b : Nat) (a : Motions α) : Motions α := ⟨a.entries.map fun p => (b + p.1, p.2)⟩

theorem add_beq_add (b i k : Nat) : (b + i == b + k) = (i == k) := by
  rw [Bool.eq_iff_iff]
  simp

theorem contains_shift (a : Motions α) (b i : Nat) :
    (a.shift b).contains (b + i) = a.contains i := by
  obtain ⟨entries⟩ := a
  unfold contains find? shift
  induction entries with
  | nil => rfl
  | cons p entries ih =>
    obtain ⟨k, m⟩ := p
    simp only [List.map_cons, List.lookup_cons, add_beq_add]
    split
    · rfl
    · exact ih

theorem put_shift (a : Motions α) (b i : Nat) (m : Animation α) :
    (a.shift b).put (b + i) m = (a.put i m).shift b := by
  unfold put
  rw [contains_shift]
  split
  · unfold shift
    simp only [List.map_map]
    congr 1
    refine List.map_congr_left fun p _ => ?_
    simp only [Function.comp_apply, add_beq_add]
    split <;> rfl
  · unfold shift
    simp only [List.map_append]
    rfl

/-- Starting an animation does not depend on where things are counted from.  Only one entry of the
table is looked at and written, and that is the shifted one. -/
theorem attach_shift [Scalar α] (a : Motions α) (b i : Nat) (spec : AnimationSpec α)
    (canvas : α × α) {es fs : Array (Entity α)} (hes : ∀ k : Nat, fs[b + k]? = es[k]?) :
    ((a.shift b).attach (b + i) spec canvas fs).1 = (a.attach i spec canvas es).1.shift b ∧
    ((a.shift b).attach (b + i) spec canvas fs).2.size = fs.size ∧
    (a.attach i spec canvas es).2.size = es.size ∧
    ∀ k : Nat, ((a.shift b).attach (b + i) spec canvas fs).2[b + k]? =
      (a.attach i spec canvas es).2[k]? := by
  unfold attach
  rw [hes]
  cases he : es[i]? with
  | none => exact ⟨rfl, rfl, rfl, hes⟩
  | some e =>
    refine ⟨put_shift _ _ _ _, by simp, by simp, fun k => ?_⟩
    simp only [Array.set!_eq_setIfInBounds, Array.getElem?_setIfInBounds]
    have hi : i < es.size := (Array.getElem?_eq_some_iff.1 he).1
    have hbi : b + i < fs.size := (Array.getElem?_eq_some_iff.1 ((hes i).trans he)).1
    by_cases hik : i = k
    · subst hik
      simp [hi, hbi]
    · simp [hik, hes]

/-- Every animation is at its start. -/
def AtStart [Scalar α] (a : Motions α) : Prop := ∀ p ∈ a.entries, p.2.elapsed = 0.0

theorem atStart_empty [Scalar α] : ({} : Motions α).AtStart := List.forall_mem_nil _

theorem AtStart.attach [Scalar α] {a : Motions α} (h : a.AtStart) (i : Nat)
    (spec : AnimationSpec α) (canvas : α × α) (es : Array (Entity α)) :
    (a.attach i spec canvas es).1.AtStart := by
  unfold Motions.attach
  split
  · exact h
  · intro p hp
    rcases Motions.mem_put hp with hp | rfl
    · exact h p hp
    · rfl

end Motions

namespace Compositor

variable {ι κ : Type}

/-- Puts other things in place of the things in the layers. -/
def map (f : ι → κ) (c : Compositor ι) : Compositor κ := ⟨c.table.map (List.map f)⟩

theorem items_map (f : ι → κ) (c : Compositor ι) (l : Layer) :
    (c.map f).items l = (c.items l).map f := by
  unfold map items
  simp

theorem map_empty (f : ι → κ) : ({} : Compositor ι).map f = {} := by
  unfold map
  simp

variable [DecidableEq ι] [DecidableEq κ]

theorem add_map {f : ι → κ} (hf : ∀ i j, f i = f j → i = j) (c : Compositor ι) (i : ι) (l : Layer) :
    (c.map f).add (f i) l = (c.add i l).map f := by
  have hmem : f i ∈ (c.map f).items l ↔ i ∈ c.items l := by
    rw [items_map, List.mem_map]
    constructor
    · rintro ⟨j, hj, hji⟩
      rw [← hf _ _ hji]
      exact hj
    · exact fun h => ⟨i, h, rfl⟩
  unfold add
  by_cases h : i ∈ c.items l
  · rw [if_pos (hmem.2 h), if_pos h]
  · rw [if_neg (fun h' => h (hmem.1 h')), if_neg h, items_map]
    unfold map setItems
    simp

end Compositor

namespace Script

/-- Counts the entities that a script keeps track of from another number. -/
def shift (b : Nat) (c : Script α) : Script α :=
  { c with
    ids := c.ids.map fun p => (p.1, b + p.2)
    clickables := c.clickables.map (b + ·)
    motions := c.motions.shift b }

/-- The scripts differ at most in their counts and in how custom actions are answered. -/
def Alike (c d : Script α) : Prop :=
  c = { d with activations := c.activations, handlesCustom := c.handlesCustom }

end Script

/-! ## 2. Tableaux

A tableau is seen in a world if counting its entities from the base gives what is there.  Entities
below the base are not seen, and nothing that a scene does after its beginning refers to them. -/

/-- What a scene shows and keeps track of, with its entities counted from zero, and what is used to
build them: the name of the scene and the images. -/
structure Tableau (α : Type) where
  name : String
  image? : String → Option Surface
  entities : Array (Entity α) := #[]
  layers : Compositor Nat := {}
  script : Script α

namespace Tableau

/-- The scene `n` has the tableau in the world `w`, counted from `b`. -/
structure Seen (t : Tableau α) (n b : Nat) (w : World α) : Prop where
  onstage : w.Onstage n
  name : ∀ s, w.scenes[n]? = some s → s.name = t.name
  images : w.depot.image? = t.image?
  size : w.entities.size = b + t.entities.size
  entities : ∀ k : Nat, w.entities[b + k]? = t.entities[k]?
  layers : w.compositor = t.layers.map fun k => .entity (b + k)
  script : ∃ c, w.script? n = some c ∧ c.Alike (t.script.shift b)

/-- The scene has stayed in its state, and started animations at most. -/
structure Follows [Scalar α] (t u : Tableau α) : Prop where
  name : u.name = t.name
  images : u.image? = t.image?
  spec : u.script.spec = t.script.spec
  index : u.script.index = t.script.index
  stateName : u.script.stateName = t.script.stateName
  timer : u.script.timer = t.script.timer
  atStart : t.script.motions.AtStart → u.script.motions.AtStart

theorem Follows.refl [Scalar α] (t : Tableau α) : t.Follows t := ⟨rfl, rfl, rfl, rfl, rfl, rfl, id⟩

theorem Follows.trans [Scalar α] {t u v : Tableau α} (h : t.Follows u) (h' : u.Follows v) :
    t.Follows v :=
  ⟨h'.name.trans h.name, h'.images.trans h.images, h'.spec.trans h.spec, h'.index.trans h.index,
    h'.stateName.trans h.stateName, h'.timer.trans h.timer, fun hs => h'.atStart (h.atStart hs)⟩

/-- A tableau is seen however the depot changes, if the images stay. -/
theorem Seen.offDepot {t : Tableau α} {n b : Nat} {w v : World α} (h : t.Seen n b w)
    (hv : w.OffDepot v) (himages : v.depot.image? = w.depot.image?) : t.Seen n b v := by
  have honstage : v.Onstage n := h.onstage.ownWork (hv.ownWork n)
  rw [hv] at honstage ⊢
  exact ⟨honstage, h.name, himages.trans h.images, h.size, h.entities, h.layers, h.script⟩

theorem Seen.name_of_ownWork {t : Tableau α} {n m b : Nat} {w v : World α} (h : t.Seen n b w)
    (hv : w.OwnWork m v) : ∀ s, v.scenes[n]? = some s → s.name = t.name := by
  intro s hs
  obtain ⟨-, s', hs', -⟩ := h.onstage
  rw [hv.name hs' s hs, h.name s' hs']

end Tableau

/-! ## 3. Settled acts

Settled acts can be put in sequence, chosen between and repeated, so only the smallest acts have
to be looked at. -/

namespace Act

variable {β γ : Type}

/-- What an act of the scene `n` makes of a tableau, how it ends, and what it prints are settled by
the tableau.  The act may be given the number from which the entities are counted. -/
def Settled [Scalar α] (x : Nat → Nat → Act (World α) β) : Prop :=
  ∀ t : Tableau α, ∃ (r : Except Fault β) (u : Tableau α) (lines : Log), t.Follows u ∧
    ∀ n b w, t.Seen n b w → ∃ v, (x n b).run w = (r, v) ∧ u.Seen n b v ∧
      v.depot.device.log = w.depot.device.log ++ lines

variable [Scalar α]

/-- An act that changes nothing and ends in the same way. -/
theorem settled_of_run {x : Nat → Nat → Act (World α) β} (r : Tableau α → Except Fault β)
    (h : ∀ (t : Tableau α) n b w, t.Seen n b w → (x n b).run w = (r t, w)) : Settled x :=
  fun t => ⟨r t, t, #[], .refl t, fun n b w hw => ⟨w, h t n b w hw, hw, (Array.append_empty).symm⟩⟩

theorem settled_pure (c : β) : Settled (α := α) fun _ _ => pure c :=
  settled_of_run (fun _ => .ok c) fun _ _ _ _ _ => rfl

theorem settled_ofExcept (r : Except Fault β) : Settled (α := α) fun _ _ => Act.ofExcept r :=
  settled_of_run (fun _ => r) fun _ _ _ _ _ => rfl

theorem settled_bind {x : Nat → Nat → Act (World α) β} {f : Nat → Nat → β → Act (World α) γ}
    (hx : Settled x) (hf : ∀ c, Settled fun n b => f n b c) :
    Settled fun n b => x n b >>= f n b := by
  intro t
  obtain ⟨r, u, lines, htu, hx⟩ := hx t
  cases r with
  | error e =>
    refine ⟨.error e, u, lines, htu, fun n b w hw => ?_⟩
    obtain ⟨v, hrun, hv, hlog⟩ := hx n b w hw
    exact ⟨v, run_bind_of_error hrun, hv, hlog⟩
  | ok c =>
    obtain ⟨r', u', lines', huu', hf⟩ := hf c u
    refine ⟨r', u', lines ++ lines', htu.trans huu', fun n b w hw => ?_⟩
    obtain ⟨v, hrun, hv, hlog⟩ := hx n b w hw
    obtain ⟨v', hrun', hv', hlog'⟩ := hf n b v hv
    refine ⟨v', ?_, hv', ?_⟩
    · rw [run_bind_of_ok hrun, hrun']
    · rw [hlog', hlog, Array.append_assoc]

theorem settled_ite {c : Prop} [Decidable c] {x y : Nat → Nat → Act (World α) β} (hx : Settled x)
    (hy : Settled y) : Settled fun n b => if c then x n b else y n b := by
  split
  · exact hx
  · exact hy

theorem settled_forM {f : Nat → Nat → γ → Act (World α) PUnit} :
    ∀ l : List γ, (∀ c ∈ l, Settled fun n b => f n b c) → Settled fun n b => l.forM (f n b)
  | [], _ => settled_pure _
  | c :: l, h => by
    change Settled fun n b => f n b c >>= fun _ => l.forM (f n b)
    exact settled_bind (h c (by simp)) fun _ => settled_forM l fun d hd => h d (by simp [hd])

end Act

namespace World

variable [Scalar α]

/-! ## 4. Looking and printing

Looking something up finds the same in every world in which the tableau is seen, with numbers
counted from the base. -/

theorem settled_liftLog {β : Type} {F : Fault → Prop} {x : Act Log β} (hx : Reports F x) :
    Settled (α := α) fun _ _ => (liftM x : Act (World α) β) := by
  intro t
  obtain ⟨r, lines, -, hx⟩ := hx
  refine ⟨r, t, lines, .refl t, fun n b w hw => ?_⟩
  exact ⟨_, run_liftLog (hx _), hw.offDepot rfl rfl, rfl⟩

theorem settled_sayFor (line : String) : Settled (α := α) fun n _ => sayFor n line := by
  intro t
  obtain ⟨r, u, lines, htu, hsay⟩ :=
    settled_liftLog (α := α) (F := fun _ => False) (reports_say ("[" ++ t.name ++ "] " ++ line)) t
  refine ⟨r, u, lines, htu, fun n b w hw => ?_⟩
  obtain ⟨-, s, hs, -⟩ := hw.onstage
  unfold sayFor
  rw [run_bind_of_ok (by rw [run_sceneAt, hs]), hw.name s hs]
  exact hsay n b w hw

theorem settled_reaches (p : Part) : Settled (α := α) fun n _ => reaches n p :=
  settled_of_run (fun _ => .ok true) fun _ _ _ _ hw => hw.onstage.run_reaches p

theorem settled_workshopOf : Settled (α := α) fun n _ => workshopOf n := by
  refine settled_of_run (fun t => .ok { image? := some t.image?, lettering := .engine })
    fun t n b w hw => ?_
  unfold workshopOf
  rw [run_bind_of_ok (run_get w), run_bind_of_ok (hw.onstage.run_reaches _),
    run_bind_of_ok (hw.onstage.run_reaches _), ← hw.images]
  rfl

theorem settled_entityAt (k : Nat) : Settled (α := α) fun _ b => entityAt (b + k) := by
  refine settled_of_run (fun t => t.entities[k]?.elim (.error .absent) .ok) fun t n b w hw => ?_
  rw [run_entityAt, hw.entities]
  cases t.entities[k]? <;> rfl

/-! ## 5. Changing

Each change of the script or the layers has its counterpart on tableaux. -/

/-- A change of the script that makes the same of it wherever its entities are counted from. -/
theorem settled_modifyScript {f : Nat → Script α → Script α} (g : Script α → Script α)
    (hfg : ∀ b c d, c.Alike (d.shift b) → (f b c).Alike ((g d).shift b))
    (hfollows : ∀ t : Tableau α, t.Follows { t with script := g t.script })
    (hspec : ∀ b c, (f b c).spec = c.spec)
    (hhandles : ∀ b c, (f b c).handlesCustom = c.handlesCustom)
    (hact : ∀ b c, c.activations ≤ (f b c).activations) :
    Settled fun n b => modifyScript n (f b) := by
  intro t
  refine ⟨.ok (), { t with script := g t.script }, #[], hfollows t, fun n b w hw => ?_⟩
  refine ⟨w.mapScript n (f b), run_modifyScript n w _, ?_, (Array.append_empty).symm⟩
  have hown : w.OwnWork n (w.mapScript n (f b)) := .mapScript (hspec b) (hhandles b) (hact b)
  obtain ⟨c, hc, halike⟩ := hw.script
  refine ⟨hw.onstage.ownWork hown, fun s hs => ?_, hw.images, hw.size, hw.entities, hw.layers,
    f b c, ?_, hfg b c _ halike⟩
  · exact hw.name_of_ownWork hown s hs
  · exact script?_mapScript_self hc _

theorem settled_putInLayer (k : Nat) (layer : Layer) :
    Settled (α := α) fun n b => putInLayer n (b + k) layer := by
  refine settled_bind (settled_reaches .compositor) fun c => ?_
  refine settled_ite (fun t => ?_) (settled_pure _)
  refine ⟨.ok (), { t with layers := t.layers.add k layer }, #[],
    ⟨rfl, rfl, rfl, rfl, rfl, rfl, id⟩, fun n b w hw => ⟨_, rfl, ?_, (Array.append_empty).symm⟩⟩
  refine ⟨hw.onstage, hw.name, hw.images, hw.size, hw.entities, ?_, hw.script⟩
  have hinj (i j : Nat) (h : Occupant.entity (b + i) = .entity (b + j)) : i = j :=
    Nat.add_left_cancel (Occupant.entity.inj h)
  change w.compositor.add (.entity (b + k)) layer = _
  rw [hw.layers]
  exact Compositor.add_map hinj t.layers k layer

theorem settled_recordId (fields : Fields α) (k : Nat) :
    Settled fun n b => recordId n fields (b + k) := by
  refine settled_ite (settled_bind (settled_ofExcept _) fun name => ?_) (settled_pure _)
  refine settled_modifyScript (fun s => { s with ids := s.ids.put name k })
    (fun b c d h => ?_) (fun t => ⟨rfl, rfl, rfl, rfl, rfl, rfl, id⟩) (fun _ _ => rfl)
    (fun _ _ => rfl) fun _ _ => Nat.le_refl _
  unfold Script.Alike at *
  rw [h]
  simp only [Script.shift, Table.put_map _ (b + ·)]

theorem settled_recordButton (k : Nat) : Settled (α := α) fun n b => recordButton n (b + k) := by
  refine settled_bind (settled_entityAt k) fun e => settled_ite ?_ (settled_pure _)
  refine settled_modifyScript (fun s => { s with clickables := s.clickables ++ [k] })
    (fun b c d h => ?_) (fun t => ⟨rfl, rfl, rfl, rfl, rfl, rfl, id⟩) (fun _ _ => rfl)
    (fun _ _ => rfl) fun _ _ => Nat.le_refl _
  unfold Script.Alike at *
  rw [h]
  simp only [Script.shift, List.map_append, List.map_cons, List.map_nil]

/-- Giving an animation to an entity is settled: the tableau knows what comes of it, wherever its
entities stand in the world.

The script and the entities are alike up to the shift, and attaching commutes with it. -/
theorem settled_attach (k : Nat) (spec : AnimationSpec α) :
    Settled fun n b => attach n (b + k) spec := by
  intro t
  refine ⟨.ok (), { t with
      entities := (t.script.motions.attach k spec (canvasOf t.script) t.entities).2
      script := { t.script with
        motions := (t.script.motions.attach k spec (canvasOf t.script) t.entities).1 } }, #[],
    ⟨rfl, rfl, rfl, rfl, rfl, rfl, fun h => h.attach _ _ _ _⟩, fun n b w hw => ?_⟩
  obtain ⟨c, hc, halike⟩ := hw.script
  have hmotions : c.motions = t.script.motions.shift b := by
    rw [halike]
    rfl
  have hcanvas : canvasOf c = canvasOf t.script := by
    rw [halike]
    rfl
  obtain ⟨hfirst, hsize, hsize', hentities⟩ :=
    t.script.motions.attach_shift b k spec (canvasOf t.script) hw.entities
  generalize hr : (t.script.motions.shift b).attach (b + k) spec (canvasOf t.script) w.entities = r
    at hfirst hsize hentities
  have hafter : (attach n (b + k) spec).after w =
      { w with entities := r.2 }.mapScript n fun s => { s with motions := r.1 } := by
    rw [after_attach, hc]
    dsimp only
    rw [hmotions, hcanvas, hr]
  have hown : w.OwnWork n ((attach n (b + k) spec).after w) := moves_attach n _ spec w
  refine ⟨(attach n (b + k) spec).after w, ?_, ?_, ?_⟩
  · unfold attach Act.after
    rw [run_bind_of_ok (by rw [run_scriptAt, hc])]
    rfl
  · have honstage := hw.onstage.ownWork hown
    have hname := hw.name_of_ownWork hown
    rw [hafter] at honstage hname ⊢
    refine ⟨honstage, hname, hw.images, ?_, hentities, hw.layers, { c with motions := r.1 }, ?_, ?_⟩
    · exact hsize.trans (by rw [hsize', hw.size])
    · rw [script?_mapScript, if_pos rfl]
      change (w.script? n).map _ = _
      rw [hc]
      rfl
    · unfold Script.Alike at *
      rw [hfirst, halike]
      rfl
  · rw [hafter]
    exact (Array.append_empty).symm

theorem settled_attachDescribed (fields : Fields α) (k : Nat) :
    Settled fun n b => attachDescribed n fields (b + k) := by
  unfold attachDescribed
  have hread : Reports (fun _ => True) (readAnimation (Fields.get fields "animation")) :=
    reports_readAnimation (fun _ _ _ _ _ => trivial) fun _ => trivial
  refine settled_ite (settled_bind (settled_liftLog hread) fun spec => ?_) (settled_pure _)
  cases spec with
  | none => exact settled_pure _
  | some spec => exact settled_attach k spec

/-- A new entity is the last one, wherever the entities are counted from. -/
theorem settled_addEntity {β : Type} (e : Entity α) {x : Nat → Nat → Nat → Act (World α) β}
    (h : ∀ k, Settled fun n b => x n b (b + k)) :
    Settled fun n b => addEntity e >>= x n b := by
  intro t
  obtain ⟨r, u, lines, htu, hrest⟩ := h t.entities.size { t with entities := t.entities.push e }
  refine ⟨r, u, lines, ⟨htu.name, htu.images, htu.spec, htu.index, htu.stateName, htu.timer,
    htu.atStart⟩, fun n b w hw => ?_⟩
  have hpush : ({ t with entities := t.entities.push e } : Tableau α).Seen n b
      { w with entities := w.entities.push e } := by
    refine ⟨hw.onstage, hw.name, hw.images, ?_, fun k => ?_, hw.layers, hw.script⟩
    · rw [Array.size_push, Array.size_push, hw.size, Nat.add_assoc]
    · rw [Array.getElem?_push, Array.getElem?_push, hw.size, hw.entities]
      simp only [Nat.add_left_cancel_iff]
  obtain ⟨v, hrun, hv, hlog⟩ := hrest n b _ hpush
  refine ⟨v, ?_, hv, hlog⟩
  rw [run_bind_of_ok (run_addEntity w e), hw.size]
  exact hrun

/-! ## 6. Placing

To place an entity is a sequence of such changes, and to place a state is a sequence of these. -/

theorem settled_placeEntity (layer : Layer) (fields : Fields α) :
    Settled fun n _ => placeEntity n layer fields := by
  refine settled_bind settled_workshopOf fun shop => ?_
  refine settled_bind (settled_liftLog (shop.reports_build fields)) fun built => ?_
  cases built with
  | none => exact settled_pure _
  | some entity =>
    refine settled_addEntity entity fun k => settled_bind (settled_putInLayer k layer) fun _ => ?_
    refine settled_bind (settled_recordId fields k) fun _ => ?_
    exact settled_bind (settled_recordButton k) fun _ => settled_attachDescribed fields k

/-- **What a state places is settled by the tableau alone.** -/
theorem settled_placeState (state : StateSpec α) : Settled fun n _ => placeState n state := by
  refine settled_forM _ fun entry _ => ?_
  obtain ⟨name, descriptions⟩ := entry
  change Settled fun n _ => placeLayer n state.name name descriptions
  unfold placeLayer
  split
  · exact settled_forM _ fun fields _ => settled_placeEntity _ fields
  · exact settled_sayFor _

end World

end Diorama
