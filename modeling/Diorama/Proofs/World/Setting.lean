/-
# What a state sets up

An activation goes through the layers of a state and the descriptions in them, and changes four
things on the way: the layers, the table of ids, the list of buttons and the table of animations.
What it makes can be told from the descriptions: each that gives an entity is a `Piece`, and a state
lists its pieces in the order of the document (`StateSpec.pieces`).

One placing adds one piece to the world (`World.furnished`) and prints what was to be said about it.
So an activation that ends well adds the pieces of its state one after the other
(`World.adds_placeState`), and what is then in each of the four is read off from this list, since
the entities are new: no layer and no animation speaks of them yet.
-/
import Diorama.Proofs.World.Furnishing
import Diorama.Proofs.World.Reentry
import Mathlib.Data.List.Basic

namespace Diorama

open Act

variable {α : Type}

/-! ## 1. Pieces

A piece is what one description comes to when nothing fails: the entity, its layer, the id under
which it is recorded, and its animation.  It depends on the description and on the workshop, which
is the images and the lettering; so the pieces of a state are a list that can be told before
anything is placed. -/

namespace Act

variable {β : Type} {F : Fault → Prop}

/-- How an act on the log ends. -/
def answer (x : Act Log β) : Except Fault β := (x.run #[]).1

/-- What an act on the log prints. -/
def lines (x : Act Log β) : List String := (x.run #[]).2.toList

/-- What reads and reports ends and prints in one way, whatever was printed before. -/
theorem Reports.run_eq {x : Act Log β} (hx : Reports F x) (log : Log) :
    x.run log = (x.answer, log ++ x.lines.toArray) := by
  obtain ⟨r, ls, -, hrun⟩ := hx
  unfold answer lines
  rw [hrun, hrun, Array.empty_append, Array.toArray_toList]

end Act

/-- An entity that a description gives, before it is moved to the start of its animation, with what
else the description says of it. -/
structure Piece (α : Type) where
  layer : Layer
  id? : Option String
  entity : Entity α
  animation? : Option (AnimationSpec α)

namespace Piece

/-- The animation at its beginning: no time has passed, and it remembers how the entity is.  A scale
of nothing is remembered as full size. -/
def began [Scalar α] (p : Piece α) (spec : AnimationSpec α) : Animation α where
  kind := spec.kind
  duration := spec.duration
  delay := spec.delay
  easing := spec.easing
  side := spec.side
  elapsed := 0.0
  restAlpha := p.entity.alpha
  restX := p.entity.x
  restY := p.entity.y
  restScaleX := if Scalar.isZero p.entity.scaleX then 1.0 else p.entity.scaleX
  restScaleY := if Scalar.isZero p.entity.scaleY then 1.0 else p.entity.scaleY

theorem ofSpec_eq_began [Scalar α] (p : Piece α) (spec : AnimationSpec α) :
    Animation.ofSpec spec (Posed.pose p.entity) = p.began spec := rfl

/-- The animation of a piece, if it has one. -/
def motion? [Scalar α] (p : Piece α) : Option (Animation α) := p.animation?.map p.began

/-- The entity at the start of its animation. -/
def placed [Scalar α] (canvas : α × α) (p : Piece α) : Entity α :=
  match p.motion? with
  | some m => Posed.withPose (m.start canvas (Posed.pose p.entity)) p.entity
  | none => p.entity

end Piece

variable [Scalar α]

/-- The id that a description gives: none that is null, false, zero or empty. -/
def Fields.id? (fields : Fields α) : Option String :=
  if (Fields.get fields "id").truthy then some (Fields.get fields "id").plain else none

/-- The animation that a description asks for, if it can be read. -/
def Fields.animation? (fields : Fields α) : Option (AnimationSpec α) :=
  if (Fields.get fields "animation").isNull then none
  else match (readAnimation (Fields.get fields "animation")).answer with
    | .ok spec? => spec?
    | .error _ => none

/-- What is printed about the animation that a description asks for. -/
def Fields.animationLines (fields : Fields α) : List String :=
  if (Fields.get fields "animation").isNull then []
  else (readAnimation (Fields.get fields "animation")).lines

namespace Workshop

/-- The piece that a description gives, if its type is known. -/
def piece? (shop : Workshop) (layer : Layer) (fields : Fields α) : Option (Piece α) :=
  match (shop.build fields).answer with
  | .ok (some entity) =>
    some { layer, id? := Fields.id? fields, entity, animation? := Fields.animation? fields }
  | _ => none

/-- What is printed about a description. -/
def said (shop : Workshop) (fields : Fields α) : List String :=
  (shop.build fields).lines ++
    match (shop.build fields).answer with
    | .ok (some _) => Fields.animationLines fields
    | _ => []

/-- The pieces under the name of a layer; there are none under an unknown one. -/
def pieces (shop : Workshop) (name : String) (fields : List (Fields α)) : List (Piece α) :=
  match (Vocabulary.ofWord? name : Option Layer) with
  | some layer => fields.filterMap (shop.piece? layer)
  | none => []

/-- What a scene prints about what is under the name of a layer in a state. -/
def saidUnder (shop : Workshop) (scene state name : String) (fields : List (Fields α)) :
    List String :=
  match (Vocabulary.ofWord? name : Option Layer) with
  | some _ => fields.flatMap shop.said
  | none => ["[" ++ scene ++ "] " ++ ("Warning: state '" ++ state ++ "' uses unknown layer '" ++
      name ++ "', skipping " ++ toString fields.length ++ " entities")]

end Workshop

namespace StateSpec

/-- The pieces of a state in the order of the document. -/
def pieces (shop : Workshop) (state : StateSpec α) : List (Piece α) :=
  state.layers.flatMap fun p => shop.pieces p.1 p.2

/-- What a scene prints about a state. -/
def said (scene : String) (shop : Workshop) (state : StateSpec α) : List String :=
  state.layers.flatMap fun p => shop.saidUnder scene state.name p.1 p.2

end StateSpec

/-! ## 2. Adding a piece

To add a piece is an equation on worlds.  `Sets` is what a placing needs of the world and leaves
as it is, so pieces can be added one after the other. -/

namespace Script

/-- The entity is recorded under its id. -/
def noteId (k : Nat) (id? : Option String) (c : Script α) : Script α :=
  match id? with
  | some id => { c with ids := c.ids.put id k }
  | none => c

/-- The entity is listed if it is a button. -/
def noteButton (k : Nat) (isButton : Bool) (c : Script α) : Script α :=
  if isButton then { c with clickables := c.clickables ++ [k] } else c

/-- The entity is animated. -/
def noteMotion (k : Nat) (m? : Option (Animation α)) (c : Script α) : Script α :=
  match m? with
  | some m => { c with motions := c.motions.put k m }
  | none => c

/-- An entity is kept track of, apart from its animation. -/
def record (k : Nat) (p : Piece α) (c : Script α) : Script α :=
  (c.noteId k p.id?).noteButton k p.entity.isButton

/-- A piece is kept track of, as the entity `k`. -/
def note (k : Nat) (p : Piece α) (c : Script α) : Script α :=
  (c.record k p).noteMotion k p.motion?

omit [Scalar α] in
theorem spec_record (k : Nat) (p : Piece α) (c : Script α) : (c.record k p).spec = c.spec := by
  unfold record noteButton noteId
  split <;> split <;> rfl

theorem spec_note (k : Nat) (p : Piece α) (c : Script α) : (c.note k p).spec = c.spec := by
  rw [← spec_record k p c]
  unfold note noteMotion
  split <;> rfl

end Script

namespace World

/-- The world with one piece more. -/
def furnished (n : Nat) (canvas : α × α) (w : World α) (p : Piece α) : World α :=
  mapScript n (Script.note w.entities.size p) { w with
    entities := w.entities.push (p.placed canvas)
    compositor := w.compositor.add (.entity w.entities.size) p.layer }

/-- The world after some lines were printed. -/
def printed (ls : List String) (w : World α) : World α :=
  w.withLog (w.depot.device.log ++ ls.toArray)

/-- What the scene builds its entities with. -/
def shopOf (s : Scene α) (w : World α) : Workshop where
  image? := if s.bound && w.hasPart .assets then some w.depot.image? else none
  lettering := if s.bound && w.hasPart .lettering then .engine else .everyone

/-- The scene `n` plays a document on a canvas, and can reach the compositor. -/
structure Sets (n : Nat) (name : String) (shop : Workshop) (canvas : α × α) (w : World α) :
    Prop where
  compositor : w.hasPart .compositor = true
  scene : ∃ s c, w.scenes[n]? = some s ∧ s.role = .scripted c ∧ s.bound = true ∧ s.name = name ∧
    canvasOf c = canvas ∧ w.shopOf s = shop

section Running

variable {n : Nat} {name : String} {shop : Workshop} {canvas : α × α} {w v : World α}

omit [Scalar α] in
theorem mapScript_of_fixed {f : Script α → Script α} (hf : ∀ c, f c = c) :
    w.mapScript n f = w := by
  refine congrArg (fun scenes => { w with scenes }) (Array.ext_getElem? fun m => ?_)
  rw [Array.getElem?_modify]
  split
  · cases w.scenes[m]? with
    | none => rfl
    | some s =>
      obtain ⟨name, bound, started, role⟩ := s
      cases role with
      | scripted c => simp only [Option.map_some, hf]
      | _ => rfl
  · rfl

omit [Scalar α] in
theorem mapScript_congr {f g : Script α → Script α}
    (h : ∀ c, w.script? n = some c → f c = g c) : w.mapScript n f = w.mapScript n g := by
  unfold mapScript
  congr 1
  refine Array.ext_getElem? fun m => ?_
  simp only [Array.getElem?_modify]
  split
  · next hnm =>
    subst hnm
    cases hs : w.scenes[n]? with
    | none => rfl
    | some s =>
      obtain ⟨name, bound, started, role⟩ := s
      cases role with
      | scripted c => simp only [Option.map_some, h c (script?_eq_some.2 ⟨_, hs, rfl⟩)]
      | _ => rfl
  · rfl

theorem canvasOf_eq {c d : Script α} (h : d.spec = c.spec) : canvasOf d = canvasOf c := by
  unfold canvasOf Script.canvas
  rw [h]

theorem Sets.script (h : w.Sets n name shop canvas) :
    ∃ c, w.script? n = some c ∧ canvasOf c = canvas := by
  obtain ⟨s, c, hs, hr, -, -, hcanvas, -⟩ := h.scene
  exact ⟨c, script?_eq_some.2 ⟨s, hs, hr⟩, hcanvas⟩

theorem Sets.run_reaches (h : w.Sets n name shop canvas) :
    (reaches n .compositor).run w = (.ok true, w) := by
  obtain ⟨s, c, hs, -, hb, -⟩ := h.scene
  rw [World.run_reaches, hs]
  dsimp only
  rw [hb, h.compositor]
  rfl

/-- What a scene keeps track of does not matter. -/
theorem Sets.mapScript (h : w.Sets n name shop canvas) {f : Script α → Script α}
    (hf : ∀ c, (f c).spec = c.spec) : (w.mapScript n f).Sets n name shop canvas := by
  obtain ⟨s, c, hs, hr, hb, hname, hcanvas, hshop⟩ := h.scene
  refine ⟨h.compositor, _, f c, scenes_mapScript hs (script?_eq_some.2 ⟨s, hs, hr⟩) f, rfl, hb,
    hname, ?_, hshop⟩
  rw [← hcanvas, canvasOf_eq (hf c)]

theorem Sets.printed (h : w.Sets n name shop canvas) (ls : List String) :
    (w.printed ls).Sets n name shop canvas := ⟨h.compositor, h.scene⟩

theorem Sets.furnished (h : w.Sets n name shop canvas) (p : Piece α) :
    (w.furnished n canvas p).Sets n name shop canvas :=
  Sets.mapScript (w := { w with
    entities := w.entities.push (p.placed canvas)
    compositor := w.compositor.add (.entity w.entities.size) p.layer })
    ⟨h.compositor, h.scene⟩ (Script.spec_note _ p)

theorem Sets.foldl (h : w.Sets n name shop canvas) (ps : List (Piece α)) :
    (ps.foldl (World.furnished n canvas) w).Sets n name shop canvas := by
  induction ps generalizing w with
  | nil => exact h
  | cons p ps ih => exact ih (h.furnished p)

omit [Scalar α] in
theorem printed_nil : w.printed [] = w := by
  unfold World.printed
  rw [show (w.depot.device.log ++ ([] : List String).toArray) = w.depot.device.log from
    Array.append_empty]
  rfl

omit [Scalar α] in
theorem printed_printed (ls ls' : List String) :
    (w.printed ls).printed ls' = w.printed (ls ++ ls') := by
  unfold World.printed
  rw [← List.append_toArray, ← Array.append_assoc]
  rfl

/-- Printing and adding a piece do not disturb each other. -/
theorem foldl_printed (ls : List String) (ps : List (Piece α)) :
    ps.foldl (World.furnished n canvas) (w.printed ls) =
      (ps.foldl (World.furnished n canvas) w).printed ls := by
  induction ps generalizing w with
  | nil => rfl
  | cons p ps ih => exact ih (w := w.furnished n canvas p)

/-! ## 3. Placing an entity

Each step of a placing is an equation as well, and together they come to adding a piece.  Steps
that may end with a fault are only described where they do not. -/

omit [Scalar α] in
theorem run_workshopOf {s : Scene α} (hs : w.scenes[n]? = some s) :
    (workshopOf n).run w = (.ok (w.shopOf s), w) := by
  unfold workshopOf
  rw [run_bind_of_ok (run_get w), run_bind_of_ok (by rw [run_reaches, hs]),
    run_bind_of_ok (by rw [run_reaches, hs])]
  rfl

omit [Scalar α] in
theorem run_putInLayer (h : (reaches n .compositor).run w = (.ok true, w)) (k : Nat)
    (layer : Layer) : (putInLayer n k layer).run w =
      (.ok (), { w with compositor := w.compositor.add (.entity k) layer }) := by
  unfold putInLayer
  rw [run_bind_of_ok h, if_pos rfl]
  rfl

/-- An id that has a text is recorded. -/
theorem eq_of_recordId {fields : Fields α} {k : Nat}
    (hrun : (recordId n fields k).run w = (.ok (), v)) :
    v = w.mapScript n (Script.noteId k (Fields.id? fields)) := by
  unfold recordId at hrun
  unfold Fields.id?
  dsimp only at hrun ⊢
  split at hrun
  · next hid =>
    obtain ⟨name, t, hname, hput⟩ := run_bind_eq_ok.1 hrun
    obtain ⟨-, rfl, rfl⟩ := run_told_eq_ok hname
    cases hput
    rw [if_pos hid]
    rfl
  · next hid =>
    cases hrun
    rw [if_neg hid]
    exact (mapScript_of_fixed fun _ => rfl).symm

omit [Scalar α] in
theorem run_recordButton {k : Nat} {e : Entity α} (he : w.entities[k]? = some e) :
    (recordButton n k).run w = (.ok (), w.mapScript n (Script.noteButton k e.isButton)) := by
  unfold recordButton
  rw [run_bind_of_ok (by rw [run_entityAt, he])]
  cases e.isButton with
  | true => rfl
  | false =>
    rw [mapScript_of_fixed (f := Script.noteButton k false) fun _ => rfl]
    rfl

theorem run_attach {k : Nat} {c : Script α} {p : Piece α} (spec : AnimationSpec α)
    (hc : w.script? n = some c) (hk : w.entities[k]? = some p.entity) : (attach n k spec).run w =
      (.ok (), mapScript n (Script.noteMotion k (some (p.began spec))) { w with
        entities := w.entities.set! k
          (Posed.withPose ((p.began spec).start (canvasOf c) (Posed.pose p.entity)) p.entity) }) := by
  unfold World.attach
  rw [run_bind_of_ok (by rw [run_scriptAt, hc]), run_bind_of_ok (run_get w)]
  unfold Motions.attach
  rw [hk]
  dsimp only
  rw [run_bind_of_ok (run_modify _ _), run_modifyScript, p.ofSpec_eq_began]
  refine congrArg (Except.ok (), ·) (mapScript_congr fun d hd => ?_)
  obtain rfl : c = d := Option.some.inj (hc.symm.trans hd)
  rfl

omit [Scalar α] in
/-- Reading and reporting prints, and changes nothing else. -/
theorem run_liftReports {β : Type} {F : Fault → Prop} {x : Act Log β} (hx : Reports F x) :
    (liftM x : Act (World α) β).run w = (x.answer, w.printed x.lines) := run_liftLog (hx.run_eq _)

omit [Scalar α] in
theorem set!_of_getElem? {k : Nat} {es : Array (Entity α)} {e : Entity α} (hk : es[k]? = some e) :
    es.set! k e = es := by
  obtain ⟨hlt, rfl⟩ := Array.getElem?_eq_some_iff.1 hk
  rw [Array.set!_eq_setIfInBounds, Array.setIfInBounds_def, dif_pos hlt, Array.set_getElem_self]

/-- An entity that has no animation stays as it is. -/
theorem mapScript_of_motionless {k : Nat} {p : Piece α} (hk : w.entities[k]? = some p.entity)
    (hp : p.animation? = none) : mapScript n (Script.noteMotion k p.motion?) { w with
      entities := w.entities.set! k (p.placed canvas) } = w := by
  have hnone : p.motion? = none := congrArg (Option.map p.began) hp
  have hplaced : p.placed canvas = p.entity := by
    unfold Piece.placed
    rw [hnone]
  rw [hnone, hplaced, set!_of_getElem? hk]
  exact mapScript_of_fixed fun _ => rfl

/-- If the description asks for an animation that can be read, the entity is moved to its start, and
the animation remembers how it was before. -/
theorem eq_of_attachDescribed {fields : Fields α} {k : Nat} {c : Script α} {p : Piece α}
    (hc : w.script? n = some c) (hk : w.entities[k]? = some p.entity)
    (hp : p.animation? = Fields.animation? fields)
    (hrun : (attachDescribed n fields k).run w = (.ok (), v)) :
    v = (mapScript n (Script.noteMotion k p.motion?) { w with
      entities := w.entities.set! k (p.placed (canvasOf c)) }).printed
        (Fields.animationLines fields) := by
  unfold attachDescribed at hrun
  unfold Fields.animation? at hp
  unfold Fields.animationLines
  dsimp only at hrun
  cases hnull : (Fields.get fields "animation").isNull with
  | true =>
    rw [hnull, if_pos rfl] at hp
    rw [hnull] at hrun
    cases hrun
    rw [if_pos rfl, printed_nil, mapScript_of_motionless hk hp]
  | false =>
    rw [hnull, if_neg (by decide)] at hp
    rw [hnull, Bool.not_false, if_pos rfl] at hrun
    rw [if_neg (by decide)]
    obtain ⟨spec?, t, hread, hattach⟩ := run_bind_eq_ok.1 hrun
    rw [run_liftReports (reports_readAnimation (F := fun _ => True) (fun _ _ _ _ _ => trivial)
      fun _ => trivial)] at hread
    obtain ⟨hanswer, rfl⟩ := Prod.mk.inj hread
    rw [hanswer] at hp
    cases spec? with
    | none =>
      cases hattach
      rw [mapScript_of_motionless hk hp]
    | some spec =>
      have hmotion : p.motion? = some (p.began spec) := congrArg (Option.map p.began) hp
      dsimp only at hattach
      rw [run_attach (w := w.printed _) (p := p) spec hc hk] at hattach
      cases hattach
      unfold Piece.placed
      rw [hmotion]
      rfl

/-- What is built is put into its layer and kept track of.  The five acts are run one after the
other, and the updates of the record of the scene are put together into one. -/
theorem eq_of_furnish (hw : w.Sets n name shop canvas) {fields : Fields α} (p : Piece α)
    (hid : p.id? = Fields.id? fields) (hp : p.animation? = Fields.animation? fields)
    (hrun : Act.run (do
      let e ← addEntity p.entity
      putInLayer n e p.layer
      recordId n fields e
      recordButton n e
      attachDescribed n fields e) w = (.ok (), v)) :
    v = (w.furnished n canvas p).printed (Fields.animationLines fields) := by
  obtain ⟨c, hc, rfl⟩ := hw.script
  let put (e : Entity α) : World α := { w with
    entities := w.entities.push e
    compositor := w.compositor.add (.entity w.entities.size) p.layer }
  let record := Script.record w.entities.size p
  have hnew : (w.entities.push p.entity)[w.entities.size]? = some p.entity :=
    Array.getElem?_push_size
  have hscript : (mapScript n record (put p.entity)).script? n = some (record c) :=
    script?_mapScript_self (w := put p.entity) hc record
  rw [run_bind_of_ok (run_addEntity _ _), run_bind_of_ok (run_putInLayer
    (w := { w with entities := w.entities.push p.entity })
    (Sets.run_reaches ⟨hw.compositor, hw.scene⟩) _ _)] at hrun
  obtain ⟨_, t, hrecord, hrun⟩ := run_bind_eq_ok.1 hrun
  obtain rfl := eq_of_recordId hrecord
  rw [run_bind_of_ok (run_recordButton hnew), ← hid, mapScript_mapScript] at hrun
  have hcanvas : canvasOf (record c) = canvasOf c := canvasOf_eq (Script.spec_record _ p c)
  -- Only the last act looks at the entity again, and it may move it to the start of its animation.
  have hset : (w.entities.push p.entity).set! w.entities.size (p.placed (canvasOf (record c))) =
      w.entities.push (p.placed (canvasOf c)) := by
    rw [hcanvas, Array.set!_eq_setIfInBounds]
    grind
  have hmoved : { mapScript n record (put p.entity) with
        entities := (w.entities.push p.entity).set! w.entities.size
          (p.placed (canvasOf (record c))) } =
      mapScript n record (put (p.placed (canvasOf c))) := by
    rw [hset]
    rfl
  rw [eq_of_attachDescribed hscript hnew hp hrun]
  refine congrArg (World.printed _) ?_
  exact (congrArg (mapScript n _) hmoved).trans (mapScript_mapScript n _ _ _)

/-- Wherever the act ends well, it adds the pieces one after the other and prints the lines. -/
def Adds (n : Nat) (name : String) (shop : Workshop) (canvas : α × α) (x : Act (World α) Unit)
    (ps : List (Piece α)) (ls : List String) : Prop :=
  ∀ w v : World α, w.Sets n name shop canvas → x.run w = (.ok (), v) →
    v = (ps.foldl (World.furnished n canvas) w).printed ls

/-- A description whose type is known adds its piece, and any other adds nothing.  What is built
and what is printed on the way do not depend on the world, so both can be told before it is run. -/
theorem adds_placeEntity (layer : Layer) (fields : Fields α) : Adds n name shop canvas
    (placeEntity n layer fields) (shop.piece? layer fields).toList (shop.said fields) := by
  intro w v hw hrun
  obtain ⟨s, c, hs, -, -, -, -, hshop⟩ := hw.scene
  unfold placeEntity at hrun
  rw [run_bind_of_ok (run_workshopOf hs), hshop] at hrun
  obtain ⟨built, t, hbuild, hplace⟩ := run_bind_eq_ok.1 hrun
  rw [run_liftReports (Workshop.reports_build _ fields)] at hbuild
  obtain ⟨hanswer, rfl⟩ := Prod.mk.inj hbuild
  unfold Workshop.piece? Workshop.said
  rw [hanswer]
  cases built with
  | none =>
    cases hplace
    dsimp only
    rw [List.append_nil]
    rfl
  | some entity =>
    rw [eq_of_furnish (hw.printed _) { layer, id? := _, entity, animation? := _ } rfl rfl hplace,
      ← printed_printed]
    rfl

/-! ## 4. Placing a state

A layer is a list of descriptions and a state a list of layers, so both are lists of pieces. -/

omit [Scalar α] in
theorem run_sayFor_eq {s : Scene α} (hs : w.scenes[n]? = some s) (line : String) :
    (sayFor n line).run w = (.ok (), w.printed ["[" ++ s.name ++ "] " ++ line]) := by
  unfold sayFor
  rw [run_bind_of_ok (by rw [run_sceneAt, hs])]
  rfl

theorem adds_forM {γ : Type} {f : γ → Act (World α) PUnit} {ps : γ → List (Piece α)}
    {ls : γ → List String} (h : ∀ a, Adds n name shop canvas (f a) (ps a) (ls a)) :
    ∀ as : List γ, Adds n name shop canvas (as.forM f) (as.flatMap ps) (as.flatMap ls)
  | [], w, v, _, hrun => by
    cases hrun
    exact printed_nil.symm
  | a :: as, w, v, hw, hrun => by
    obtain ⟨_, t, hfirst, hrest⟩ := run_bind_eq_ok.1 hrun
    have ht := h a w t hw hfirst
    rw [adds_forM h as t v (ht ▸ (hw.foldl _).printed _) hrest, ht, foldl_printed,
      printed_printed, List.flatMap_cons, List.flatMap_cons, List.foldl_append]

theorem adds_placeLayer (state layerName : String) (fields : List (Fields α)) :
    Adds n name shop canvas (placeLayer n state layerName fields) (shop.pieces layerName fields)
      (shop.saidUnder name state layerName fields) := by
  unfold placeLayer Workshop.pieces Workshop.saidUnder
  cases (Vocabulary.ofWord? layerName : Option Layer) with
  | some layer =>
    dsimp only
    rw [List.filterMap_eq_flatMap_toList]
    exact adds_forM (adds_placeEntity layer) fields
  | none =>
    intro w v hw hrun
    obtain ⟨s, c, hs, -, -, rfl, -⟩ := hw.scene
    dsimp only at hrun
    rw [run_sayFor_eq hs] at hrun
    cases hrun
    rfl

/-- **Placing a state adds its pieces one after the other.** -/
theorem adds_placeState (state : StateSpec α) : Adds n name shop canvas (placeState n state)
    (state.pieces shop) (state.said name shop) :=
  adds_forM (f := fun p => placeLayer n state.name p.1 p.2)
    (fun p => adds_placeLayer state.name p.1 p.2) state.layers

end Running

end World

/-! ## 5. Reading off what was added

What was added is read off from the list of pieces with their numbers.  The entities are new, so
each of the four records has what it had, followed by what the pieces add; only the table of ids
may lose something, when two pieces have the same id. -/

namespace Piece

/-- The numbers that the pieces of a kind get, counted from `k`. -/
def numbers (P : Piece α → Bool) (ps : List (Piece α)) (k : Nat) : List Nat :=
  ((ps.zipIdx k).filter fun q => P q.1).map (·.2)

/-- The animations of the pieces, with the numbers that these get, counted from `k`. -/
def motions (ps : List (Piece α)) (k : Nat) : List (Nat × Animation α) :=
  (ps.zipIdx k).filterMap fun q => q.1.motion?.map (q.2, ·)

omit [Scalar α] in
theorem numbers_cons (P : Piece α → Bool) (p : Piece α) (ps : List (Piece α)) (k : Nat) :
    numbers P (p :: ps) k = if P p then k :: numbers P ps (k + 1) else numbers P ps (k + 1) := by
  unfold numbers
  rw [List.zipIdx_cons, List.filter_cons]
  split <;> rfl

theorem motions_cons (p : Piece α) (ps : List (Piece α)) (k : Nat) :
    motions (p :: ps) k = (p.motion?.map (k, ·)).toList ++ motions ps (k + 1) := by
  unfold motions
  rw [List.zipIdx_cons, List.filterMap_cons]
  cases p.motion? <;> rfl

end Piece

namespace Script

/-- Pieces are kept track of one after the other, by numbers counted from `k`. -/
def noteAll (ps : List (Piece α)) (k : Nat) (c : Script α) : Script α :=
  (ps.zipIdx k).foldl (fun c q => c.note q.2 q.1) c

theorem noteAll_cons (p : Piece α) (ps : List (Piece α)) (k : Nat) (c : Script α) :
    noteAll (p :: ps) k c = noteAll ps (k + 1) (c.note k p) := rfl

theorem ids_note (k : Nat) (p : Piece α) (c : Script α) (id : String) :
    (c.note k p).ids.lookup id = if p.id? = some id then some k else c.ids.lookup id := by
  have hids : (c.note k p).ids = (c.noteId k p.id?).ids := by
    unfold note record noteMotion noteButton
    split <;> split <;> rfl
  rw [hids]
  unfold noteId
  cases p.id? with
  | none => rfl
  | some other =>
    dsimp only
    rw [Table.lookup_put]
    simp only [Option.some.injEq, eq_comm]

theorem clickables_note (k : Nat) (p : Piece α) (c : Script α) :
    (c.note k p).clickables = if p.entity.isButton then c.clickables ++ [k] else c.clickables := by
  unfold note record noteMotion noteButton noteId
  split <;> split <;> split <;> rfl

/-- Noting a piece puts its animation, if it has one, behind those that there are: its number is
new, so no other gives way. -/
theorem motions_note {k : Nat} {c : Script α} (hc : ∀ q ∈ c.motions.entries, q.1 < k)
    (p : Piece α) : (c.note k p).motions.entries =
      c.motions.entries ++ (p.motion?.map (k, ·)).toList := by
  have hmotions : (c.record k p).motions = c.motions := by
    unfold record noteButton noteId
    split <;> split <;> rfl
  have hnew : c.motions.contains k = false := by
    unfold Motions.contains Motions.find?
    rw [Option.isSome_eq_false_iff, Option.isNone_iff_eq_none, List.lookup_eq_none_iff]
    intro q hq
    simp [Nat.ne_of_gt (hc q hq)]
  unfold note noteMotion
  rw [hmotions]
  cases p.motion? with
  | none => rw [hmotions]; exact (List.append_nil _).symm
  | some m =>
    unfold Motions.put
    dsimp only
    rw [hnew]
    rfl

/-- Under an id is the last piece that has it, or what was there before. -/
theorem ids_noteAll (id : String) (ps : List (Piece α)) (k : Nat) (c : Script α) :
    (noteAll ps k c).ids.lookup id =
      (Piece.numbers (·.id? == some id) ps k).getLast?.or (c.ids.lookup id) := by
  induction ps generalizing k c with
  | nil => rfl
  | cons p ps ih =>
    rw [noteAll_cons, ih, ids_note, Piece.numbers_cons]
    by_cases hid : p.id? = some id
    · rw [if_pos hid, if_pos (by simpa using hid), List.getLast?_cons]
      cases (Piece.numbers (·.id? == some id) ps (k + 1)).getLast? <;> rfl
    · rw [if_neg hid, if_neg (by simpa using hid)]

theorem clickables_noteAll (ps : List (Piece α)) (k : Nat) (c : Script α) :
    (noteAll ps k c).clickables = c.clickables ++ Piece.numbers (·.entity.isButton) ps k := by
  induction ps generalizing k c with
  | nil => exact (List.append_nil _).symm
  | cons p ps ih =>
    rw [noteAll_cons, ih, clickables_note, Piece.numbers_cons]
    split
    · rw [List.append_assoc, List.singleton_append]
    · rfl

theorem motions_noteAll (ps : List (Piece α)) {k : Nat} {c : Script α}
    (hc : ∀ q ∈ c.motions.entries, q.1 < k) :
    (noteAll ps k c).motions.entries = c.motions.entries ++ Piece.motions ps k := by
  induction ps generalizing k c with
  | nil => exact (List.append_nil _).symm
  | cons p ps ih =>
    -- The next number is still above those in the table, so the next piece has none yet.
    have hnote := motions_note hc p
    have hnext : ∀ q ∈ (c.note k p).motions.entries, q.1 < k + 1 := by
      intro q hq
      rw [hnote, List.mem_append, Option.mem_toList, Option.map_eq_some_iff] at hq
      rcases hq with hold | ⟨m, -, rfl⟩
      · exact Nat.lt_succ_of_lt (hc q hold)
      · exact Nat.lt_succ_self k
    rw [noteAll_cons, ih hnext, hnote, Piece.motions_cons, List.append_assoc]

/-- Keeping track of pieces changes nothing else. -/
theorem noteAll_eq (ps : List (Piece α)) (k : Nat) (c : Script α) :
    noteAll ps k c = { c with
      ids := (noteAll ps k c).ids
      clickables := (noteAll ps k c).clickables
      motions := (noteAll ps k c).motions } := by
  induction ps generalizing k c with
  | nil => rfl
  | cons p ps ih =>
    rw [noteAll_cons]
    refine (ih (k + 1) (c.note k p)).trans ?_
    generalize noteAll ps (k + 1) (c.note k p) = d
    unfold note record noteMotion noteButton noteId
    split <;> split <;> split <;> rfl

end Script

/-- The script of a scene at the beginning of an activation: if the state clears, it keeps track of
nothing. -/
def Script.begun (clears : Bool) (c : Script α) : Script α :=
  let c := { c with activations := c.activations + 1 }
  if clears then c.dropTracking else c

omit [Scalar α] in
theorem Script.spec_begun (clears : Bool) (c : Script α) : (c.begun clears).spec = c.spec := by
  cases clears <;> rfl

namespace World

/-- Whatever is in a layer or animated by the scene `n` was made before: entities that come are
new. -/
structure Grounded (n : Nat) (w : World α) : Prop where
  layers : ∀ l k, .entity k ∈ w.compositor.items l → k < w.entities.size
  motions : ∀ c, w.script? n = some c → ∀ q ∈ c.motions.entries, q.1 < w.entities.size

omit [Scalar α] in
/-- What is shown is there, and what is animated is shown. -/
theorem Furnished.grounded {n : Nat} {w : World α} (h : w.Furnished) (hw : w.Shows n) :
    w.Grounded n := by
  have hlt (k : Nat) (hk : w.Holds (.entity k)) : k < w.entities.size := by
    obtain ⟨m, e, hm, he⟩ := h _ hk
    cases hm
    exact (Array.getElem?_eq_some_iff.1 he).1
  refine ⟨fun l k hk => hlt k ⟨l, hk⟩, fun c hc q hq => hlt q.1 (hw c hc q.1 ?_)⟩
  exact List.mem_append_right _ (List.mem_map_of_mem hq)

omit [Scalar α] in
theorem Isolated.shows {w : World α} (h : w.Isolated) (n : Nat) : w.Shows n := by
  intro c hc
  by_cases hn : w.current = some n
  · exact (h.stands n c hn hc).2 c hc
  · rw [h.others n c hc hn]
    exact nofun

/-- In every run of a playhouse the entities that come are new. -/
theorem grounded_play [Host α] {first : World α} (hfirst : first.Fresh) (hhouse : first.Playhouse)
    (os : List (Operation α)) (n : Nat) : (play os first).Grounded n := by
  obtain ⟨⟨history⟩, hisolated⟩ := sound_play os hfirst.sound
  exact (history.furnished hfirst hhouse).2.grounded (hisolated.shows n)

section Reading

variable {n : Nat} {canvas : α × α} {w : World α}

theorem entities_furnished (p : Piece α) :
    (w.furnished n canvas p).entities = w.entities.push (p.placed canvas) := rfl

/-- The new entity is not in the layer yet, so it is put on top. -/
theorem items_furnished (n : Nat) (canvas : α × α)
    (h : ∀ l k, .entity k ∈ w.compositor.items l → k < w.entities.size) (p : Piece α) (l : Layer) :
    (w.furnished n canvas p).compositor.items l =
      w.compositor.items l ++ if p.layer = l then [.entity w.entities.size] else [] := by
  change (w.compositor.add (.entity w.entities.size) p.layer).items l = _
  unfold Compositor.add
  rw [if_neg fun hmem => Nat.lt_irrefl _ (h _ _ hmem), Compositor.items_setItems]
  split
  · next hl => rw [hl]
  · exact (List.append_nil _).symm

theorem foldl_entities (ps : List (Piece α)) :
    (ps.foldl (World.furnished n canvas) w).entities =
      w.entities ++ (ps.map (·.placed canvas)).toArray := by
  induction ps generalizing w with
  | nil => exact Array.append_empty.symm
  | cons p ps ih =>
    rw [List.foldl_cons, ih, entities_furnished, List.map_cons]
    simp

/-- Every layer gets its pieces in their order.  By induction on the pieces.  The next piece gets
the next number, which no layer has yet. -/
theorem foldl_items (h : ∀ l k, .entity k ∈ w.compositor.items l → k < w.entities.size)
    (ps : List (Piece α)) (l : Layer) : (ps.foldl (World.furnished n canvas) w).compositor.items l =
      w.compositor.items l ++ (Piece.numbers (·.layer == l) ps w.entities.size).map .entity := by
  induction ps generalizing w with
  | nil => exact (List.append_nil _).symm
  | cons p ps ih =>
    have hitems := items_furnished n canvas h p
    have hnext : ∀ l k, .entity k ∈ (w.furnished n canvas p).compositor.items l →
        k < (w.furnished n canvas p).entities.size := by
      intro l k hk
      rw [entities_furnished, Array.size_push]
      rw [hitems, List.mem_append] at hk
      rcases hk with hold | hnew
      · exact Nat.lt_succ_of_lt (h l k hold)
      · split at hnew
        · cases List.mem_singleton.1 hnew
          exact Nat.lt_succ_self _
        · cases hnew
    rw [List.foldl_cons, ih hnext, hitems, entities_furnished, Array.size_push,
      Piece.numbers_cons, List.append_assoc]
    by_cases hl : p.layer = l
    · rw [if_pos hl, if_pos (by simpa using hl)]
      rfl
    · rw [if_neg hl, if_neg (by simpa using hl)]
      rfl

theorem foldl_script? {c : Script α} (hc : w.script? n = some c) (ps : List (Piece α)) :
    (ps.foldl (World.furnished n canvas) w).script? n =
      some (Script.noteAll ps w.entities.size c) := by
  induction ps generalizing w c with
  | nil => exact hc
  | cons p ps ih =>
    have hnote : (w.furnished n canvas p).script? n = some (c.note w.entities.size p) :=
      script?_mapScript_self (w := { w with
        entities := w.entities.push (p.placed canvas)
        compositor := w.compositor.add (.entity w.entities.size) p.layer }) hc _
    rw [List.foldl_cons, ih hnote, entities_furnished, Array.size_push]
    rfl

theorem foldl_log (ps : List (Piece α)) :
    (ps.foldl (World.furnished n canvas) w).depot.device.log = w.depot.device.log := by
  induction ps generalizing w with
  | nil => rfl
  | cons p ps ih => exact ih (w := w.furnished n canvas p)

end Reading

/-! ## 6. Activating

An activation drops the records if the state says so, and adds the pieces of the state. -/

/-- The world `v`, in which the scene has the script `d`, has in addition to the world `w` with the
script `c` what the pieces make. -/
structure FittedWith (ps : List (Piece α)) (w : World α) (c : Script α) (v : World α)
    (d : Script α) :
    Prop where
  entities : v.entities = w.entities ++ (ps.map (·.placed (canvasOf c))).toArray
  /-- Every layer is extended by its pieces, in their order. -/
  layers : ∀ l, v.compositor.items l = w.compositor.items l ++
    (Piece.numbers (·.layer == l) ps w.entities.size).map .entity
  /-- Under an id is the last piece that has it, or what was there before. -/
  ids : ∀ id, d.ids.lookup id =
    (Piece.numbers (·.id? == some id) ps w.entities.size).getLast?.or (c.ids.lookup id)
  /-- The buttons of all layers are listed, in their order. -/
  clickables : d.clickables = c.clickables ++ Piece.numbers (·.entity.isButton) ps w.entities.size
  /-- The animations are at their beginning, and remember the entities as they were built. -/
  motions : d.motions.entries = c.motions.entries ++ Piece.motions ps w.entities.size
  others : d = { c with ids := d.ids, clickables := d.clickables, motions := d.motions }

theorem fittedWith_of_placeState {n : Nat} {name : String} {shop : Workshop} {w v : World α}
    {c : Script α} {state : StateSpec α} (hc : w.script? n = some c)
    (hsets : w.Sets n name shop (canvasOf c)) (hw : w.Grounded n)
    (hrun : (placeState n state).run w = (.ok (), v)) :
    v.depot.device.log = w.depot.device.log ++ (state.said name shop).toArray ∧
    ∃ d, v.script? n = some d ∧ FittedWith (state.pieces shop) w c v d := by
  obtain rfl := adds_placeState state w v hsets hrun
  refine ⟨congrArg (· ++ _) (foldl_log _), _, foldl_script? hc _, ?_⟩
  exact {
    entities := foldl_entities _
    layers := foldl_items hw.layers _
    ids := fun id => Script.ids_noteAll id _ _ c
    clickables := Script.clickables_noteAll _ _ c
    motions := Script.motions_noteAll _ (hw.motions c hc)
    others := Script.noteAll_eq _ _ c }

/-- An activation places its state, on an empty stage if the state clears. -/
theorem run_activate {n : Nat} {w : World α} {name : String} {shop : Workshop} {canvas : α × α}
    (hsets : w.Sets n name shop canvas) (state : StateSpec α) : (activate n state).run w =
      (placeState n state).run (mapScript n (Script.begun state.clears)
        { w with compositor := if state.clears then {} else w.compositor }) := by
  unfold activate
  rw [run_bind_of_ok (run_modifyScript n _ _)]
  cases state.clears with
  | false => rfl
  | true =>
    have hcount : (w.mapScript n fun c => { c with activations := c.activations + 1 }).Sets n name
        shop canvas := hsets.mapScript fun _ => rfl
    rw [if_pos rfl, run_bind_of_ok (run_clearStage hcount.run_reaches)]
    exact congrArg (placeState n state).run
      (mapScript_mapScript n _ _ { w with compositor := {} })

omit [Scalar α] in
/-- Emptying makes nothing old. -/
theorem Grounded.begun {n : Nat} {w : World α} {c : Script α} (hw : w.Grounded n)
    (hc : w.script? n = some c) (clears : Bool) : (mapScript n (Script.begun clears)
      { w with compositor := if clears then {} else w.compositor }).Grounded n := by
  have hbegun := script?_mapScript_self
    (w := { w with compositor := if clears then {} else w.compositor }) hc (Script.begun clears)
  constructor
  · intro l k hk
    change Occupant.entity k ∈ (if clears then {} else w.compositor).items l at hk
    split at hk
    · rw [Compositor.items_empty] at hk
      cases hk
    · exact hw.layers l k hk
  · intro d hd q hq
    obtain rfl := Option.some.inj (hbegun.symm.trans hd)
    cases clears with
    | false => exact hw.motions c hc q hq
    | true => cases hq

/-- **What a state sets up.**  If an activation of a state ends well, then in addition to what there
was, or to nothing if the state clears, there is exactly what its pieces make: they are in their
layers in the order of the document, under an id is the last piece that has it, the buttons are
listed in the order of their making, and every piece whose animation can be read is at the start of
it.  A line is printed for every unknown layer; what is under it is not built. -/
theorem fittedWith_of_activate {n : Nat} {w v : World α} {s : Scene α} {c : Script α}
    {state : StateSpec α} (hs : w.scenes[n]? = some s) (hr : s.role = .scripted c)
    (hbound : s.bound = true) (hcompositor : w.hasPart .compositor = true) (hw : w.Grounded n)
    (hrun : (activate n state).run w = (.ok (), v)) :
    v.depot.device.log = w.depot.device.log ++ (state.said s.name (w.shopOf s)).toArray ∧
    ∃ d, v.script? n = some d ∧ FittedWith (state.pieces (w.shopOf s))
      { w with compositor := if state.clears then {} else w.compositor } (c.begun state.clears)
      v d := by
  have hc : w.script? n = some c := script?_eq_some.2 ⟨s, hs, hr⟩
  have hsets : w.Sets n s.name (w.shopOf s) (canvasOf c) :=
    ⟨hcompositor, s, c, hs, hr, hbound, rfl, rfl, rfl⟩
  let u : World α := { w with compositor := if state.clears then {} else w.compositor }
  have hu : u.Sets n s.name (w.shopOf s) (canvasOf (c.begun state.clears)) := by
    rw [canvasOf_eq (c.spec_begun _)]
    exact ⟨hsets.compositor, hsets.scene⟩
  have hbegun : (u.mapScript n (Script.begun state.clears)).script? n =
      some (c.begun state.clears) := script?_mapScript_self (w := u) hc _
  rw [run_activate hsets] at hrun
  obtain ⟨hlog, d, hd, hfitted⟩ :=
    fittedWith_of_placeState hbegun (hu.mapScript (Script.spec_begun _)) (hw.begun hc _) hrun
  exact ⟨hlog, d, hd, ⟨hfitted.entities, hfitted.layers, hfitted.ids, hfitted.clickables,
    hfitted.motions, hfitted.others⟩⟩

/-- The hall gets a lamp and a second door; nobody knows the attic. -/
def refit : StateSpec Rat where
  name := "refit"
  layers := [
    ("SHAPES", [[(.text "type", .text "shape"), (.text "id", .text "lamp"),
      (.text "alpha", .num (1 / 2)), (.text "animation", .map [(.text "type", .text "fadeIn")])]]),
    ("ATTIC", [[(.text "type", .text "shape")]]),
    ("UI_BUTTONS", [door "yard"])]

theorem playhouse_house : house.Playhouse where
  parts := rfl
  scripted
    | 0, _, h => by cases h; exact ⟨_, rfl⟩
    | 1, _, h => by cases h; exact ⟨_, rfl⟩
    | _ + 2, _, h => by simp [house] at h

/-- The hall is fitted with a lamp, which fades in to half, and a door that takes the place of the
first one in the table of ids. -/
theorem fittedWith_of_activate_refit : ∃ (w v : World Rat) (s : Scene Rat) (c d : Script Rat),
    w = play [.switchTo (.text "hall")] house ∧ w.scenes[0]? = some s ∧ s.role = .scripted c ∧
    s.bound = true ∧ w.hasPart .compositor = true ∧ w.Grounded 0 ∧
    (activate 0 refit).run w = (.ok (), v) ∧ v.script? 0 = some d ∧
    v.depot.device.log = w.depot.device.log ++ (refit.said s.name (w.shopOf s)).toArray ∧
    FittedWith (refit.pieces (w.shopOf s))
      { w with compositor := if refit.clears then {} else w.compositor } (c.begun refit.clears) v d ∧
    d.ids.lookup "door" = some 2 ∧ d.clickables = [0, 2] ∧
    d.motions.entries.map (fun q => (q.1, q.2.elapsed, q.2.restAlpha)) =
      [(0, 0, 1), (1, 0, 1 / 2), (2, 0, 1)] ∧
    v.depot.device.log.back? =
      some "[hall] Warning: state 'refit' uses unknown layer 'ATTIC', skipping 1 entities" := by
  have hground := grounded_play fresh_house playhouse_house [.switchTo (.text "hall")] 0
  have hbound : ((play [.switchTo (.text "hall")] house).scenes[0]?.map (·.bound)) = some true := by
    decide +kernel
  obtain ⟨c, hc⟩ : ∃ c, (play [.switchTo (.text "hall")] house).script? 0 = some c :=
    Option.isSome_iff_exists.1 (by decide +kernel)
  obtain ⟨s, hs, hr⟩ := script?_eq_some.1 hc
  rw [hs] at hbound
  have hv := run_of_toOption (b := ()) (x := activate 0 refit)
    (s := play [.switchTo (.text "hall")] house) (by decide +kernel)
  obtain ⟨hlog, d, hd, hfitted⟩ := fittedWith_of_activate hs hr (Option.some.inj hbound)
    (by decide +kernel) hground hv
  have hread : (((activate 0 refit).after (play [.switchTo (.text "hall")] house)).script? 0).map
      (fun d => (d.ids.lookup "door", d.clickables,
        d.motions.entries.map fun q => (q.1, q.2.elapsed, q.2.restAlpha))) =
      some (some 2, [0, 2], [(0, 0, 1), (1, 0, 1 / 2), (2, 0, 1)]) := by
    decide +kernel
  rw [hd, Option.map_some] at hread
  obtain ⟨hids, hread⟩ := Prod.mk.inj (Option.some.inj hread)
  obtain ⟨hclickables, hmotions⟩ := Prod.mk.inj hread
  exact ⟨_, _, s, c, d, rfl, hs, hr, Option.some.inj hbound, by decide +kernel, hground, hv, hd,
    hlog, hfitted, hids, hclickables, hmotions, by decide +kernel⟩

/-- A shape that has the number 0 for an id, and no width. -/
def speck : StateSpec Rat where
  name := "speck"
  layers := [("SHAPES", [[(.text "type", .text "shape"), (.text "id", .int 0),
    (.text "scaleX", .int 0), (.text "animation", .map [(.text "type", .text "scale")])]])]

/-- An id of 0 is none, and a scale of 0 is remembered as full size: the only entity has the id and
the scale 0, but it is not found under "0", and its animation ends at the scale 1. -/
theorem speck_unnamed : ∃ (s : Scene Rat) (v : World Rat) (d : Script Rat),
    (playing {}).scenes[0]? = some s ∧ (activate 0 speck).run (playing {}) = (.ok (), v) ∧
    v.script? 0 = some d ∧ v.compositor.items .shapes = [.entity 0] ∧
    (speck.layers.map fun p => p.2.map fun fields => ((Fields.get fields "id").plain,
      (((playing {}).shopOf s).build fields).answer.toOption.map (·.map (·.scaleX)))) =
      [[("0", some (some 0))]] ∧
    d.ids.lookup "0" = none ∧ (d.motions.find? 0).map (·.restScaleX) = some 1 := by
  have hv := run_of_toOption (b := ()) (x := activate 0 speck) (s := playing {}) (by decide +kernel)
  have hread : (((activate 0 speck).after (playing {})).script? 0).map (fun d =>
      (d.ids.lookup "0", (d.motions.find? 0).map (·.restScaleX))) = some (none, some 1) := by
    decide +kernel
  obtain ⟨d, hd⟩ : ∃ d, ((activate 0 speck).after (playing {})).script? 0 = some d :=
    Option.isSome_iff_exists.1 (by decide +kernel)
  rw [hd, Option.map_some] at hread
  obtain ⟨hids, hmotions⟩ := Prod.mk.inj (Option.some.inj hread)
  exact ⟨_, _, d, rfl, hv, hd, by decide +kernel, by decide +kernel, hids, hmotions⟩

end World

end Diorama
