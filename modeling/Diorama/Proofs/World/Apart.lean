/-
# A game among other scenes

Time moves two kinds of entities: those that a scripted scene animates, and the pieces of a game.  A
scene comes by either of them in one way only.  It makes new entities and takes their numbers, so no
two scenes ever have the same one.

`World.Apart n` says this from the side of the scene `n`, which is a game: its pieces are there, and
what any other scene moves is there and is none of them.  As long as it holds, whatever the other
scenes do spares the game of the scene `n` (`World.Spares`): the pieces stay where they are, and the
scene keeps its score.  That is followed here through everything that a scene can do, and through
every change of scenes in which the next is not the scene `n` itself (`spares_changeScene`).
-/
import Diorama.Proofs.Animating
import Diorama.Proofs.Chances
import Diorama.Proofs.World.Turns

namespace Diorama

open Act

variable {α : Type}

/-! ## 1. Who moves what

What a scene can move is told from the scene: the animations of a script, or the four pieces of a
game.  `Free` is the other side, an entity that is there and no piece of this game.  The relation
`Spares` is stated with its condition, so that it can be followed through acts: from a world that
is apart to one that still is. -/

/-- The entities of a game. -/
def Pieces.numbers (p : Pieces) : List Nat := [p.player, p.opponent, p.ball, p.board]

/-- The entities of a game; before it is set up there are none. -/
def PongScene.numbers (p : PongScene α) : List Nat := p.pieces.elim [] Pieces.numbers

namespace Scene

/-- The game of a scene, if it is one. -/
def pong? (s : Scene α) : Option (PongScene α) :=
  match s.role with
  | .pong p => some p
  | _ => none

/-- The entities that a scene moves as time passes: those that it animates, or the pieces of its
game. -/
def movable (s : Scene α) : List Nat :=
  match s.role with
  | .scripted c => c.motions.entries.map (·.1)
  | .pong p => p.numbers
  | _ => []

end Scene

namespace World

/-- The game of the scene with a number, if it is one. -/
def pong? (w : World α) (n : Nat) : Option (PongScene α) := w.scenes[n]?.bind Scene.pong?

theorem pong?_eq_some {n : Nat} {w : World α} {p : PongScene α} :
    w.pong? n = some p ↔ ∃ s, w.scenes[n]? = some s ∧ s.role = .pong p := by
  unfold pong? Scene.pong?
  rw [Option.bind_eq_some_iff]
  constructor
  · rintro ⟨s, hs, h⟩
    refine ⟨s, hs, ?_⟩
    split at h
    · next hr => rw [hr, Option.some.inj h]
    · cases h
  · rintro ⟨s, hs, hr⟩
    exact ⟨s, hs, by rw [hr]⟩

/-- Whether the scene with a number was set up. -/
def started? (w : World α) (n : Nat) : Option Bool := w.scenes[n]?.map (·.started)

/-- The entities of the game of a scene. -/
def piecesOf (w : World α) (n : Nat) : List Nat := (w.pong? n).elim [] PongScene.numbers

/-- The entity is there, and is no piece of the game of the scene `n`. -/
def Free (n k : Nat) (w : World α) : Prop := k < w.entities.size ∧ k ∉ w.piecesOf n

/-- The scene `n` is a game, its pieces are there, and no other scene moves them. -/
structure Apart (n : Nat) (w : World α) : Prop where
  game : ∃ p, w.pong? n = some p
  made : ∀ k ∈ w.piecesOf n, k < w.entities.size
  others : ∀ m s, m ≠ n → w.scenes[m]? = some s → ∀ k ∈ s.movable, w.Free n k

/-- The game of the scene `n` is as before, the device has the same chances, and the scene `n` has
not become the current one. -/
structure SameGame (n : Nat) (w v : World α) : Prop where
  parts : v.missing = w.missing
  chances : v.depot.device.chances = w.depot.device.chances
  pong : v.pong? n = w.pong? n
  started : v.started? n = w.started? n
  pieces : ∀ k ∈ w.piecesOf n, v.entities[k]? = w.entities[k]?
  size : w.entities.size ≤ v.entities.size
  current : v.current = some n → w.current = some n

/-- If the game of the scene `n` is apart from the other scenes, it stays so and is as before. -/
def Spares (n : Nat) (w v : World α) : Prop := w.Apart n → v.Apart n ∧ w.SameGame n v

/-- A game has no script. -/
theorem Apart.script? {n : Nat} {w : World α} (h : w.Apart n) : w.script? n = none := by
  obtain ⟨p, hp⟩ := h.game
  obtain ⟨s, hs, hr⟩ := pong?_eq_some.1 hp
  unfold World.script? Scene.script?
  rw [hs, Option.bind_some, hr]

/-- The pieces are told from the game. -/
theorem SameGame.piecesOf {n : Nat} {w v : World α} (h : w.SameGame n v) :
    v.piecesOf n = w.piecesOf n := by
  unfold World.piecesOf
  rw [h.pong]

theorem SameGame.free {n k : Nat} {w v : World α} (h : w.SameGame n v) (hk : w.Free n k) :
    v.Free n k :=
  ⟨hk.1.trans_le h.size, h.piecesOf ▸ hk.2⟩

instance (n : Nat) : IsPreorder (World α) (SameGame n) where
  refl _ := ⟨rfl, rfl, rfl, rfl, fun _ _ => rfl, le_refl _, id⟩
  trans _ _ _ h h' := by
    refine ⟨h'.parts.trans h.parts, h'.chances.trans h.chances, h'.pong.trans h.pong,
      h'.started.trans h.started, fun k hk => ?_, h.size.trans h'.size, h.current ∘ h'.current⟩
    rw [h'.pieces k (h.piecesOf ▸ hk), h.pieces k hk]

/-- It is enough that the second act spares the game in a world with the same game. -/
theorem Spares.trans {n : Nat} {u v w : World α} (h : u.Spares n v)
    (h' : u.SameGame n v → v.Spares n w) : u.Spares n w := by
  intro hu
  obtain ⟨hv, huv⟩ := h hu
  obtain ⟨hw, hvw⟩ := h' huv hv
  exact ⟨hw, Trans.trans huv hvw⟩

instance (n : Nat) : IsPreorder (World α) (Spares n) where
  refl _ h := ⟨h, refl _⟩
  trans _ _ _ h h' := h.trans fun _ => h'

/-! ## 2. What spares a game

The tools of a scene, one lemma for each.  What draws no chance and moves no entity that was there
spares the game at once, and new entities get numbers that no game has. -/

section Spares

variable {n : Nat} {w v : World α}

/-- Neither the scenes nor the entities change. -/
theorem spares_of_eq (hscenes : v.scenes = w.scenes) (hentities : v.entities = w.entities)
    (hparts : v.missing = w.missing)
    (hchances : v.depot.device.chances = w.depot.device.chances)
    (hcurrent : v.current = some n → w.current = some n) : w.Spares n v := by
  intro h
  have hpong : v.pong? n = w.pong? n := by
    unfold pong?
    rw [hscenes]
  have hsame : w.SameGame n v := by
    refine ⟨hparts, hchances, hpong, ?_, fun k _ => by rw [hentities], ?_, hcurrent⟩
    · unfold started?
      rw [hscenes]
    · rw [hentities]
  refine ⟨⟨hpong ▸ h.game, fun k hk => ?_, fun m s hm hs k hk => ?_⟩, hsame⟩
  · rw [hentities]
    exact h.made k (hsame.piecesOf ▸ hk)
  · rw [hscenes] at hs
    exact hsame.free (h.others m s hm hs k hk)

/-- The depot is of no concern to a game, but for the chances in it: a serve draws two of them. -/
theorem OffDepot.spares (h : w.OffDepot v)
    (hchances : v.depot.device.chances = w.depot.device.chances) : w.Spares n v := by
  rw [h]
  exact spares_of_eq rfl rfl rfl hchances id

/-- One scene changes.  The scene `n` keeps its game, and another scene takes over nothing of
it.  The change may be to the scene itself, and then its game and its mark stay, or to another
one, and then what this one moves afterwards is what it moved before or is free. -/
theorem spares_modifyScene {m : Nat} {f : Scene α → Scene α}
    (hn : m = n → ∀ s, (f s).pong? = s.pong? ∧ (f s).started = s.started)
    (hm : m ≠ n → ∀ s, w.scenes[m]? = some s → ∀ k ∈ (f s).movable, k ∈ s.movable ∨ w.Free n k) :
    w.Spares n { w with scenes := w.scenes.modify m f } := by
  intro h
  have hscene : w.SameGame n { w with scenes := w.scenes.modify m f } := by
    refine ⟨rfl, rfl, ?_, ?_, fun _ _ => rfl, le_refl _, id⟩
    · unfold pong?
      rw [Array.getElem?_modify]
      split
      · next heq => cases w.scenes[n]? <;> simp [(hn heq _).1]
      · rfl
    · unfold started?
      rw [Array.getElem?_modify]
      split
      · next heq => cases w.scenes[n]? <;> simp [(hn heq _).2]
      · rfl
  refine ⟨⟨hscene.pong ▸ h.game, fun k hk => h.made k (hscene.piecesOf ▸ hk),
    fun i s hi hs k hk => ?_⟩, hscene⟩
  refine hscene.free ?_
  rw [Array.getElem?_modify] at hs
  split at hs
  · next heq =>
    subst heq
    obtain ⟨t, ht, rfl⟩ := Option.map_eq_some_iff.1 hs
    rcases hm hi t ht k hk with hold | hfree
    · exact h.others m t hi ht k hold
    · exact hfree
  · exact h.others i s hi hs k hk

/-- Entities come in or move, but no piece of the game does. -/
theorem spares_setEntities {es : Array (Entity α)} (hsize : w.entities.size ≤ es.size)
    (hpieces : ∀ k ∈ w.piecesOf n, k < w.entities.size → es[k]? = w.entities[k]?) :
    w.Spares n { w with entities := es } := by
  intro h
  have hsame : w.SameGame n { w with entities := es } :=
    ⟨rfl, rfl, rfl, rfl, fun k hk => hpieces k hk (h.made k hk), hsize, id⟩
  exact ⟨⟨h.game, fun k hk => (h.made k hk).trans_le hsize,
    fun m s hm hs k hk => hsame.free (h.others m s hm hs k hk)⟩, hsame⟩

/-- What is there stays where it is when something comes in. -/
theorem getElem?_push_old {es : Array (Entity α)} {k : Nat} (hk : k < es.size) {e : Entity α} :
    (es.push e)[k]? = es[k]? :=
  (Array.getElem?_push_lt hk).trans (Array.getElem?_eq_getElem hk).symm

theorem spares_addEntity (e : Entity α) : w.Spares n { w with entities := w.entities.push e } :=
  spares_setEntities (by simp) fun _ _ hk => getElem?_push_old hk

/-- What is done in the depot spares the game if it draws no chance. -/
theorem moves_onDepot_spares {β : Type} {x : Act (Depot α) β} (hx : x.Moves Depot.SameChances) :
    (onDepot x).Moves (Spares n) := fun w => (moves_onDepot x w).spares (hx w.depot)

theorem moves_onDevice_spares {β : Type} {x : Act (Device α) β}
    (hx : x.Moves Device.SameChances) : (onDevice x).Moves (Spares n) :=
  moves_onDepot_spares (Depot.sameChances_onDevice hx)

theorem moves_call_spares (c : Call α) : (onDevice (Device.call c)).Moves (Spares n) :=
  moves_onDevice_spares (Device.sameChances_call c)

theorem moves_modifyCompositor_spares (f : Compositor Occupant → Compositor Occupant) :
    (modifyCompositor f : Act (World α) Unit).Moves (Spares n) :=
  moves_modify fun _ => spares_of_eq rfl rfl rfl rfl id

/-- A script is no game, and it moves what it animates. -/
theorem spares_mapScript {m : Nat} {f : Script α → Script α}
    (hm : m ≠ n → ∀ c, w.script? m = some c → ∀ k ∈ (f c).motions.entries.map (·.1),
      k ∈ c.motions.entries.map (·.1) ∨ w.Free n k) : w.Spares n (w.mapScript m f) := by
  refine spares_modifyScene (fun _ s => ?_) fun hmn s hs k hk => ?_
  · obtain ⟨name, bound, started, role⟩ := s
    cases role <;> exact ⟨rfl, rfl⟩
  · obtain ⟨name, bound, started, role⟩ := s
    cases role with
    | scripted c => exact hm hmn c (script?_eq_some.2 ⟨_, hs, rfl⟩) k hk
    | pong p => exact .inl hk
    | plain => exact .inl hk
    | witness r => exact .inl hk

/-- What a scene notes spares the game of every scene. -/
theorem notes_spares (m : Nat) : Notes (α := α) m (Spares n) where
  liftLog _ _ := spares_of_eq rfl rfl rfl rfl id
  script _ _ _ hmotions _ := by
    refine spares_mapScript fun _ c _ k hk => ?_
    rcases hmotions c with h | h
    · rw [h] at hk
      exact .inl hk
    · rw [h] at hk
      cases hk

end Spares

end World

/-! ## 3. Animations

Attaching an animation is the one tool that changes an entity, and it is the new one: so here it
has to be known that the entity is free, and `SparesWith` carries this along. -/

theorem SameButtons.size_le {es fs : Array (Entity α)} (h : SameButtons es fs) :
    es.size ≤ fs.size := by
  by_contra hlt
  obtain ⟨f, hf, -⟩ := h fs.size es[fs.size] (Array.getElem?_eq_getElem (not_le.1 hlt))
  exact Nat.lt_irrefl _ (Array.getElem?_eq_some_iff.1 hf).1

/-- An animation that starts puts its own thing into place and no other. -/
theorem Motions.attach_other [Scalar α] {ε : Type} [Posed ε α] {a : Motions α} {i k : Nat}
    {spec : AnimationSpec α} {canvas : α × α} {things : Array ε} (hk : k ≠ i) :
    (a.attach i spec canvas things).2[k]? = things[k]? := by
  unfold attach
  split
  · rfl
  · dsimp only
    rw [Array.set!_eq_setIfInBounds, Array.getElem?_setIfInBounds_ne (Ne.symm hk)]

namespace World

section Scripts

variable {n : Nat}

/-- Whatever is done to an entity that is no piece of the game spares the game. -/
theorem spares_modifyEntity {w : World α} {k : Nat} (hk : w.Free n k) (f : Entity α → Entity α) :
    w.Spares n ((modifyEntity k f).after w) :=
  spares_setEntities (by rw [Array.size_modify]) fun i hi _ => by
    rw [Array.getElem?_modify, if_neg fun he : k = i => hk.2 (he ▸ hi)]

variable [Scalar α] (m : Nat)

/-- The entity that is animated is free, so it is no piece of the game, before the animation and
after it. -/
theorem spares_attach {w : World α} {e : Nat} (he : w.Free n e) (spec : AnimationSpec α) :
    w.Spares n ((attach m e spec).after w) := by
  rw [after_attach]
  cases hc : w.script? m with
  | none => exact refl w
  | some c =>
    dsimp only
    have hentities : w.Spares n
        { w with entities := (c.motions.attach e spec (canvasOf c) w.entities).2 } :=
      spares_setEntities (sameButtons_attach c.motions e spec _ w.entities).size_le
        fun k hk _ => Motions.attach_other fun hke => he.2 (hke ▸ hk)
    refine hentities.trans fun hsame => spares_mapScript fun _ d hd k hk => ?_
    obtain rfl : c = d := Option.some.inj (hc.symm.trans hd)
    obtain ⟨p, hp, rfl⟩ := List.mem_map.1 hk
    rcases Motions.mem_attach hp with hold | hnew
    · exact .inl (List.mem_map.2 ⟨p, hold, rfl⟩)
    · exact .inr (hsame.free (hnew ▸ he))

/-- If these entities are free, the game of the scene `n` is spared. -/
def SparesWith (n : Nat) (ks : List Nat) (w v : World α) : Prop :=
  (∀ k ∈ ks, w.Free n k) → w.Spares n v

omit [Scalar α] in
theorem Spares.with {ks : List Nat} {w v : World α} (h : w.Spares n v) : w.SparesWith n ks v :=
  fun _ => h

instance (n : Nat) (ks : List Nat) : IsPreorder (World α) (SparesWith n ks) where
  refl w _ := refl w
  trans u v w h h' hfree hu := by
    obtain ⟨hv, huv⟩ := h hfree hu
    obtain ⟨hw, hvw⟩ := h' (fun k hk => huv.free (hfree k hk)) hv
    exact ⟨hw, Trans.trans huv hvw⟩

theorem sparesWith_attachDescribed (e : Nat) (fields : Fields α) :
    (attachDescribed m fields e).Moves (SparesWith n [e]) := by
  unfold attachDescribed
  refine moves_ite
    (moves_bind (((notes_spares m).liftLog _).mono fun _ _ h => h.with) fun spec => ?_)
    (moves_pure _)
  split
  · exact fun w hw => spares_attach m (hw e List.mem_cons_self) _
  · exact moves_pure _

/-- A new entity is free, so its animation spares the game.  The number of the new entity is the
size of the table, which no piece has; everything after the push is about this number. -/
theorem spares_placeEntity (layer : Layer) (fields : Fields α) :
    (placeEntity m layer fields).Moves (Spares n) := by
  unfold placeEntity
  refine moves_bind (moves_workshopOf m).of_eq fun shop => ?_
  refine moves_bind ((notes_spares m).liftLog _) fun built => ?_
  split
  · exact moves_pure _
  · next entity =>
    intro w hw
    rw [after_bind_of_ok (run_addEntity w entity)]
    obtain ⟨hv, hsame⟩ := spares_addEntity entity hw
    have hfree : Free n w.entities.size { w with entities := w.entities.push entity } :=
      ⟨by simp, fun hk => Nat.lt_irrefl _ (hw.made _ (hsame.piecesOf ▸ hk))⟩
    have hrest : (do
        putInLayer m w.entities.size layer
        recordId m fields w.entities.size
        recordButton m w.entities.size
        attachDescribed m fields w.entities.size : Act (World α) Unit).Moves
          (SparesWith n [w.entities.size]) := by
      have hput : (putInLayer m w.entities.size layer : Act (World α) Unit).Moves (Spares n) :=
        moves_bind (moves_reaches m _).of_eq fun _ =>
          moves_ite (moves_modifyCompositor_spares _) (moves_pure _)
      refine moves_bind (hput.mono fun _ _ h => h.with) fun _ => ?_
      refine moves_bind (((notes_spares m).recordId _ _).mono fun _ _ h => h.with) fun _ => ?_
      refine moves_bind (((notes_spares m).recordButton _).mono fun _ _ h => h.with) fun _ => ?_
      exact sparesWith_attachDescribed m _ fields
    obtain ⟨hu, hsame'⟩ := hrest _ (by simpa using hfree) hv
    exact ⟨hu, Trans.trans hsame hsame'⟩

theorem places_spares : Places (α := α) m (Spares n) where
  toNotes := notes_spares m
  empty := moves_modifyCompositor_spares _
  place := spares_placeEntity m

/-- Time moves what a scene animates, and that is no piece of another scene's game.  The scene
that advances may be the one with the game only if it has no script, and then nothing advances at
all. -/
theorem spares_advance (dt : α) : (advance m dt).Moves (Spares n) := by
  unfold advance
  refine moves_bind ((notes_spares m).record (fun _ => rfl) (fun _ => rfl) (fun _ => rfl)
    fun _ => rfl) fun _ => ?_
  intro w
  cases hc : w.script? m with
  | none =>
    rw [after_bind_of_error (by rw [run_scriptAt, hc])]
    exact refl w
  | some c =>
    rw [after_bind_of_ok (by rw [run_scriptAt, hc])]
    intro hw
    obtain ⟨s, hs, hr⟩ := script?_eq_some.1 hc
    have hkeys : s.movable = c.motions.entries.map (·.1) := by rw [Scene.movable, hr]
    have hentities : w.Spares n { w with entities := (c.motions.advance dt w.entities).2.1 } := by
      refine spares_setEntities (sameButtons_advance dt c.motions w.entities).size_le
        fun k hk _ => Motions.stepAll_other _ _ fun hmoved => ?_
      have hmn : m ≠ n := by
        rintro rfl
        rw [hw.script?] at hc
        cases hc
      exact (hw.others m s hmn hs k (hkeys ▸ hmoved)).2 hk
    refine (hentities.trans fun _ => spares_mapScript fun _ d hd k hk => ?_) hw
    obtain rfl : c = d := Option.some.inj (hc.symm.trans hd)
    exact .inl ((Motions.keys_stepAll dt _ w.entities) ▸ hk)

end Scripts

/-! ## 4. Other games

Another game makes pieces of its own, with new numbers, and from then on changes only those.  The
look-ups of a scene and its pieces come first, since every step of a game begins with them. -/

section LookUp

variable (n : Nat) (w : World α)

theorem run_pongAt : (pongAt n).run w = match w.pong? n with
    | some p => (.ok p, w)
    | none => (.error .absent, w) := by
  unfold pongAt pong? Scene.pong?
  rw [run_bind, run_sceneAt]
  cases w.scenes[n]? with
  | none => rfl
  | some s =>
    obtain ⟨name, bound, started, role⟩ := s
    cases role <;> rfl

theorem run_piecesAt : (piecesAt n).run w = match (w.pong? n).bind (·.pieces) with
    | some q => (.ok q, w)
    | none => (.error .absent, w) := by
  unfold piecesAt
  rw [run_bind, run_pongAt]
  cases w.pong? n with
  | none => rfl
  | some p =>
    obtain ⟨court, escapeTo, pieces, velX, velY, playerScore, opponentScore⟩ := p
    cases pieces <;> rfl

variable {n w}

/-- The pieces of another game are free. -/
theorem Apart.free {m k : Nat} (h : w.Apart n) (hmn : m ≠ n) {p : PongScene α} {q : Pieces}
    (hp : w.pong? m = some p) (hq : p.pieces = some q) (hk : k ∈ q.numbers) : w.Free n k := by
  obtain ⟨s, hs, hr⟩ := pong?_eq_some.1 hp
  refine h.others m s hmn hs k ?_
  rw [Scene.movable, hr]
  dsimp only
  rw [PongScene.numbers, hq]
  exact hk

end LookUp

section Games

variable {n m : Nat}

/-- What is done with the pieces of another game, and with nothing else, spares the game. -/
theorem spares_piecesAt (hmn : m ≠ n) {β : Type} {f : Pieces → Act (World α) β}
    (hf : ∀ q : Pieces, (f q).Moves (SparesWith n q.numbers)) :
    (piecesAt m >>= f).Moves (Spares n) := by
  intro w
  cases hq : (w.pong? m).bind (·.pieces) with
  | none =>
    rw [after_bind_of_error (by rw [run_piecesAt, hq])]
    exact refl w
  | some q =>
    rw [after_bind_of_ok (by rw [run_piecesAt, hq])]
    obtain ⟨p, hp, hpq⟩ := Option.bind_eq_some_iff.1 hq
    exact fun hw => hf q w (fun k hk => hw.free hmn hp hpq hk) hw

theorem sparesWith_modifyEntity {ks : List Nat} {k : Nat} (hk : k ∈ ks)
    (f : Entity α → Entity α) : (modifyEntity k f).Moves (SparesWith n ks) :=
  fun _ hw => spares_modifyEntity (hw k hk) f

theorem spares_modifyPong (hmn : m ≠ n) {w : World α} {f : PongScene α → PongScene α}
    (hf : ∀ p, ∀ k ∈ (f p).numbers, k ∈ p.numbers ∨ w.Free n k) :
    w.Spares n ((modifyPong m f).after w) := by
  refine spares_modifyScene (fun h => (hmn h).elim) fun _ s _ k hk => ?_
  obtain ⟨name, bound, started, role⟩ := s
  cases role with
  | pong p => exact hf p k hk
  | plain => exact .inl hk
  | scripted c => exact .inl hk
  | witness r => exact .inl hk

theorem spares_tally (hmn : m ≠ n) {f : PongScene α → PongScene α}
    (hf : ∀ p, (f p).pieces = p.pieces) : (modifyPong m f).Moves (Spares n) := by
  refine fun w => spares_modifyPong hmn fun p k hk => .inl ?_
  rw [PongScene.numbers, hf] at hk
  exact hk

variable [Scalar α]

omit [Scalar α] in
theorem strokes_spares (hmn : m ≠ n) : Strokes (α := α) m (Spares n) where
  chance := moves_onDevice_spares fun _ => rfl
  tally := spares_tally hmn
  write g := by
    refine spares_piecesAt hmn fun q => ?_
    have hmove (k : Nat) (hk : k ∈ q.numbers) (b : Pong.Block α) :
        (modifyEntity k (moveTo b)).Moves (SparesWith n q.numbers) := sparesWith_modifyEntity hk _
    refine moves_bind (hmove _ (by simp [Pieces.numbers]) _) fun _ => ?_
    refine moves_bind (hmove _ (by simp [Pieces.numbers]) _) fun _ => ?_
    refine moves_bind (hmove _ (by simp [Pieces.numbers]) _) fun _ => ?_
    exact (spares_tally hmn (f := fun s => { s with
      velX := g.velX
      velY := g.velY
      playerScore := g.playerScore
      opponentScore := g.opponentScore }) fun _ => rfl).mono fun _ _ h => h.with
  showScore := by
    refine spares_piecesAt hmn fun q => moves_bind (moves_readGame m).of_eq fun g => ?_
    exact sparesWith_modifyEntity (by simp [Pieces.numbers]) _

/-- Makes the pieces of a game. -/
def layOut (c : Pong.Court α) : Act (World α) Pieces := do
  let player ← addEntity (piece c.playerPaddle "#00ff00")
  let opponent ← addEntity (piece c.opponentPaddle "#ff0000")
  let ball ← addEntity (piece c.restingBall "#ffffff")
  let board ← addEntity (boardPiece c)
  return { player, opponent, ball, board }

theorem setUpPong_eq (n : Nat) : (setUpPong n : Act (World α) Unit) = (do
    let p ← pongAt n
    let q ← layOut p.court
    modifyPong n fun s => { s with pieces := some q }
    serve n) := by
  unfold setUpPong layOut
  simp only [bind_assoc, pure_bind]

/-- The entities with the pieces of a new game. -/
def laidOut (c : Pong.Court α) (es : Array (Entity α)) : Array (Entity α) :=
  ((es.push (piece c.playerPaddle "#00ff00")).push (piece c.opponentPaddle "#ff0000")).push
    (piece c.restingBall "#ffffff") |>.push (boardPiece c)

/-- The pieces get the next numbers. -/
theorem run_layOut (c : Pong.Court α) (w : World α) : (layOut c).run w =
    (.ok ⟨w.entities.size, w.entities.size + 1, w.entities.size + 2, w.entities.size + 3⟩,
      { w with entities := laidOut c w.entities }) := by
  unfold layOut
  rw [run_bind_of_ok (run_addEntity _ _), run_bind_of_ok (run_addEntity _ _),
    run_bind_of_ok (run_addEntity _ _), run_bind_of_ok (run_addEntity _ _)]
  simp only [Array.size_push, run_pure]
  rfl

/-- A game has four pieces. -/
theorem size_laidOut (c : Pong.Court α) (es : Array (Entity α)) :
    (laidOut c es).size = es.size + 4 := by
  simp [laidOut]

/-- The entities that were there keep their numbers. -/
theorem getElem?_laidOut (c : Pong.Court α) {es : Array (Entity α)} {k : Nat} (hk : k < es.size) :
    (laidOut c es)[k]? = es[k]? := by
  unfold laidOut
  rw [getElem?_push_old (by simp; omega), getElem?_push_old (by simp; omega),
    getElem?_push_old (by simp; omega), getElem?_push_old hk]

/-- To set up another game makes four entities with new numbers. -/
theorem spares_setUpPong (hmn : m ≠ n) : (setUpPong m : Act (World α) Unit).Moves (Spares n) := by
  rw [setUpPong_eq]
  refine moves_bind (moves_pongAt m).of_eq fun p w hw => ?_
  rw [after_bind_of_ok (run_layOut p.court w)]
  have hadd : w.Spares n { w with entities := laidOut p.court w.entities } :=
    spares_setEntities (by rw [size_laidOut]; omega) fun k _ hk => getElem?_laidOut _ hk
  refine (hadd.trans fun hsame => ?_) hw
  have hnew (k : Nat) (hk : w.entities.size ≤ k ∧ k < w.entities.size + 4) :
      Free n k { w with entities := laidOut p.court w.entities } := by
    refine ⟨by rw [size_laidOut]; exact hk.2, fun hpiece => ?_⟩
    exact Nat.lt_irrefl _ (hk.1.trans_lt (hw.made k (hsame.piecesOf ▸ hpiece)))
  refine Trans.trans (spares_modifyPong hmn fun _ k hk => .inr (hnew k ?_))
    ((strokes_spares hmn).serve _)
  simp only [PongScene.numbers, Option.elim_some, Pieces.numbers, List.mem_cons,
    List.not_mem_nil, or_false] at hk
  omega

theorem spares_populatePong (hmn : m ≠ n) :
    (populatePong m : Act (World α) Unit).Moves (Spares n) := by
  have hplace (e : Entity α) (layer : Layer) : (placeNew e layer).Moves (Spares n) :=
    moves_bind (fun _ => spares_addEntity e) fun _ => moves_modifyCompositor_spares _
  unfold populatePong
  refine moves_bind (moves_pongAt m).of_eq fun c => ?_
  refine moves_bind (moves_requireReach m _).of_eq fun _ => ?_
  refine moves_bind (hplace _ _) fun _ => moves_bind (hplace _ _) fun _ => ?_
  refine moves_bind (moves_piecesAt m).of_eq fun p => ?_
  iterate 4 refine moves_bind (moves_modifyCompositor_spares _) fun _ => ?_
  exact (strokes_spares hmn).showScore

end Games

/-! ## 5. Scenes come and go

The hooks of the scenes and a change of scenes.  A change to the scene `n` itself is left out: to
enter a game serves a new ball. -/

section Hooks

variable [Scalar α] [Host α] {n : Nat} (m : Nat)

theorem spares_preload : (preload m : Act (World α) Unit).Moves (Spares n) := by
  have hsay (line : String) : (sayFor m line : Act (World α) Unit).Moves (Spares n) :=
    (notes_spares m).sayFor line
  unfold preload
  refine moves_bind (moves_scriptAt m).of_eq fun c => ?_
  split
  · exact hsay _
  · refine moves_bind (moves_reaches m _).of_eq fun _ => moves_ite (hsay _) ?_
    refine moves_bind (moves_onDepot_spares (Depot.sameChances_loadImages _ _)) fun _ => ?_
    refine moves_bind (moves_onDepot_spares (Depot.listens_sameChances.loadSounds _ _)) fun _ => ?_
    exact moves_ite (moves_bind (hsay _) fun _ => hsay _) (hsay _)

omit [Host α] in
/-- A scene that gives its assets back has a script, so it is no game. -/
theorem spares_giveBack : (giveBack m : Act (World α) Unit).Moves (Spares n) := by
  by_cases hmn : m = n
  · subst hmn
    intro w hw
    unfold giveBack
    rw [after_bind_of_error (by rw [run_scriptAt, hw.script?])]
    exact ⟨hw, refl w⟩
  unfold giveBack
  refine moves_bind (moves_scriptAt m).of_eq fun c => ?_
  split
  · exact moves_pure _
  · refine moves_bind (moves_reaches m _).of_eq fun _ => moves_ite ?_ (moves_pure _)
    refine moves_bind (moves_ofExcept _) fun _ => moves_ite ?_ (moves_pure _)
    refine moves_bind (moves_onDepot_spares (Depot.sameChances_unloadAssets _)) fun _ => ?_
    exact fun w => spares_modifyScene (fun h => (hmn h).elim) fun _ s _ k hk => .inl hk

omit [Host α] in
theorem spares_callLeave : (callLeave m : Act (World α) Unit).Moves (Spares n) := by
  unfold callLeave
  refine moves_bind (moves_sceneAt m).of_eq fun s => ?_
  split
  · exact moves_witness_of moves_call_spares m _ _ _
  · refine moves_bind ?_ fun _ => spares_giveBack m
    exact (notes_spares m).script (fun _ => rfl) (fun _ => rfl) (fun c => Nat.le_succ c.activations)
      fun _ => .inr rfl
  · exact moves_pure _
  · exact moves_pure _

omit [Scalar α] [Host α] in
theorem spares_callBind : (callBind m : Act (World α) Unit).Moves (Spares n) := by
  unfold callBind
  have hbind : (bind m true : Act (World α) Unit).Moves (Spares n) := fun _ =>
    spares_modifyScene (fun _ _ => ⟨rfl, rfl⟩) fun _ _ _ _ hk => .inl hk
  refine moves_bind hbind fun _ => moves_bind (moves_sceneAt m).of_eq fun s => ?_
  split
  · exact moves_witness_of moves_call_spares m _ _ _
  · exact moves_pure _

omit [Host α] in
theorem spares_dismiss : (dismiss : Act (World α) Unit).Moves (Spares n) := by
  unfold dismiss
  refine moves_bind moves_get fun w => ?_
  split
  · exact moves_ifHas (spares_callLeave _) _ _
  · exact moves_pure _

omit [Scalar α] [Host α] in
theorem spares_bindNext (next : Option Nat) :
    (bindNext next : Act (World α) Unit).Moves (Spares n) := by
  cases next with
  | none => exact moves_pure _
  | some m => exact moves_ifHas (spares_callBind m) m _

omit [Scalar α] [Host α] in
theorem spares_nextWish {w : World α} {s : Scene α} {r : Witness} (hs : w.scenes[m]? = some s)
    (hr : s.role = .witness r) : w.Spares n ((nextWish m r).after w) := by
  unfold nextWish
  split
  · exact refl w
  · intro hw
    have hmn : m ≠ n := by
      rintro rfl
      obtain ⟨p, hp⟩ := hw.game
      obtain ⟨t, ht, hrt⟩ := pong?_eq_some.1 hp
      rw [hs] at ht
      cases ht
      rw [hr] at hrt
      cases hrt
    exact spares_modifyScene (fun h => (hmn h).elim) (fun _ _ _ _ hk => nomatch hk) hw

variable {m}

theorem spares_start (hmn : m ≠ n) : (start m : Act (World α) Unit).Moves (Spares n) := by
  have hsetUp : (setUp m : Act (World α) Unit).Moves (Spares n) := by
    unfold setUp
    refine moves_bind (moves_sceneAt m).of_eq fun s => ?_
    split
    · exact spares_preload m
    · exact spares_setUpPong hmn
    · exact moves_pure _
  unfold start
  refine moves_bind (moves_sceneAt m).of_eq fun s => moves_ite ?_ (moves_pure _)
  exact moves_bind hsetUp fun _ _ =>
    spares_modifyScene (fun h => (hmn h).elim) fun _ s _ k hk => .inl hk

theorem spares_callEnter (hmn : m ≠ n) : (callEnter m : Act (World α) Unit).Moves (Spares n) := by
  unfold callEnter
  refine moves_bind (moves_sceneAt m).of_eq fun s => ?_
  split
  · exact moves_witness_of moves_call_spares m _ _ _
  · exact spares_start hmn
  · exact moves_bind (spares_start hmn) fun _ => (notes_spares m).enterScript
  · exact moves_bind (spares_start hmn) fun _ => (strokes_spares hmn).enterPong

omit [Host α] in
theorem spares_callPopulate (hmn : m ≠ n) :
    (callPopulate m : Act (World α) Unit).Moves (Spares n) := by
  unfold callPopulate
  refine moves_bind (moves_sceneAt m).of_eq fun s => ?_
  split
  · refine moves_bind (moves_witness_of moves_call_spares m _ _ _) fun _ => ?_
    exact moves_bind (moves_sceneAt m).of_eq fun _ =>
      moves_ite (moves_modifyCompositor_spares _) (moves_pure _)
  · exact moves_pure _
  · exact (places_spares m).populateScript
  · exact spares_populatePong hmn

/-- **A change to another scene spares a game**, also when it ends with a fault. -/
theorem spares_changeScene {next : Option Nat} (hnext : next ≠ some n) :
    (changeScene next : Act (World α) Unit).Moves (Spares n) := by
  have hbringUp : (bringUp next : Act (World α) Unit).Moves (Spares n) := by
    cases next with
    | none => exact moves_pure _
    | some m =>
      have hmn : m ≠ n := fun h => hnext (congrArg some h)
      exact moves_bind (moves_ifHas (spares_callEnter hmn) m _) fun _ =>
        moves_ifHas (spares_callPopulate hmn) m _
  refine moves_bind spares_dismiss fun _ => moves_bind (spares_bindNext next) fun _ => ?_
  refine moves_bind ?_ fun _ => hbringUp
  refine moves_bind (moves_requirePart _).of_eq fun _ => ?_
  refine moves_bind (moves_modifyCompositor_spares _) fun _ => ?_
  exact moves_modify fun _ => spares_of_eq rfl rfl rfl rfl fun h => (hnext h).elim

end Hooks

end World

end Diorama
