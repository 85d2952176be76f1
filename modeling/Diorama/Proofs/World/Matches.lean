/-
# Matches

A scene that is a game keeps the score and the speed of the ball, and its entities keep where things
are.  `World.Laid` says which game that is, and what the text above the court shows.  Whatever the
scene does to it is what the rules say: a serve, a new game, a step.
-/
import Diorama.Proofs.Rally
import Diorama.Proofs.World.Apart

namespace Diorama

open Act Pong

variable {α : Type}

/-! ## 1. A game and its entities

The program keeps a match in two places: speeds and points with the scene, places with the
entities.  `Laid` says that both together are one game of the rules, and the lemmas of this
section read it and write it back. -/

/-- The text that an entity shows, if it is one. -/
def Entity.content? (e : Entity α) : Option String :=
  match e.form with
  | .text content _ _ _ => some content
  | _ => none

/-- A game as a scene keeps it. -/
def Pong.Game.kept (c : Court α) (escapeTo : Value α) (q : Pieces) (g : Game α) : PongScene α where
  court := c
  escapeTo := escapeTo
  pieces := some q
  velX := g.velX
  velY := g.velY
  playerScore := g.playerScore
  opponentScore := g.opponentScore

/-- A game as a scene has it before it was set up. -/
def Pong.Court.blank [Scalar α] (c : Court α) (escapeTo : Value α) : PongScene α where
  court := c
  escapeTo := escapeTo
  velX := c.ballSpeed
  velY := 0.0

namespace World

/-- The game of a scene, if it can be read. -/
def game? (n : Nat) (w : World α) : Option (Game α) := ((readGame n).run w).1.toOption

/-- The text above the court of a scene. -/
def board? (n : Nat) (w : World α) : Option String :=
  (w.pong? n).bind fun p => p.pieces.bind fun q => w.entities[q.board]?.bind Entity.content?

/-- The scene `n` keeps a game on a court, and the text above the court is there. -/
structure Laid (n : Nat) (c : Court α) (escapeTo : Value α) (q : Pieces) (g : Game α)
    (text : String) (w : World α) : Prop where
  scene : w.pong? n = some (g.kept c escapeTo q)
  distinct : q.numbers.Nodup
  player : w.entities[q.player]?.map blockOf = some g.player
  opponent : w.entities[q.opponent]?.map blockOf = some g.opponent
  ball : w.entities[q.ball]?.map blockOf = some g.ball
  board : w.entities[q.board]?.bind Entity.content? = some text

section Laid

variable {n : Nat} {c : Court α} {escapeTo : Value α} {q : Pieces} {g g' : Game α} {text : String}
  {w v : World α}

theorem Laid.run_pongAt (h : w.Laid n c escapeTo q g text) :
    (pongAt n).run w = (.ok (g.kept c escapeTo q), w) := by
  rw [World.run_pongAt, h.scene]

theorem Laid.run_piecesAt (h : w.Laid n c escapeTo q g text) :
    (piecesAt n).run w = (.ok q, w) := by
  rw [World.run_piecesAt, h.scene]
  rfl

theorem run_entityAt_of_block {k : Nat} {b : Block α} (h : w.entities[k]?.map blockOf = some b) :
    ∃ e, (entityAt k).run w = (.ok e, w) ∧ blockOf e = b := by
  obtain ⟨e, he, hb⟩ := Option.map_eq_some_iff.1 h
  exact ⟨e, by rw [run_entityAt, he], hb⟩

theorem Laid.run_readGame (h : w.Laid n c escapeTo q g text) :
    (readGame n).run w = (.ok g, w) := by
  obtain ⟨e, he, hplayer⟩ := run_entityAt_of_block h.player
  obtain ⟨f, hf, hopponent⟩ := run_entityAt_of_block h.opponent
  obtain ⟨d, hd, hball⟩ := run_entityAt_of_block h.ball
  unfold readGame
  rw [run_bind_of_ok h.run_pongAt, run_bind_of_ok h.run_piecesAt, run_bind_of_ok he,
    run_bind_of_ok hf, run_bind_of_ok hd, hplayer, hopponent, hball]
  rfl

theorem Laid.game? (h : w.Laid n c escapeTo q g text) : w.game? n = some g := by
  rw [World.game?, h.run_readGame]
  rfl

theorem Laid.board? (h : w.Laid n c escapeTo q g text) : w.board? n = some text := by
  rw [World.board?, h.scene]
  exact h.board

theorem Laid.piecesOf (h : w.Laid n c escapeTo q g text) : w.piecesOf n = q.numbers := by
  rw [World.piecesOf, h.scene]
  rfl

/-- Whatever spares a game keeps it laid out. -/
theorem Laid.sameGame (h : w.Laid n c escapeTo q g text) (hv : w.SameGame n v) :
    v.Laid n c escapeTo q g text := by
  have hpiece (k : Nat) (hk : k ∈ q.numbers) : v.entities[k]? = w.entities[k]? :=
    hv.pieces k (h.piecesOf ▸ hk)
  refine ⟨hv.pong.trans h.scene, h.distinct, ?_, ?_, ?_, ?_⟩
  · rw [hpiece _ (by simp [Pieces.numbers])]
    exact h.player
  · rw [hpiece _ (by simp [Pieces.numbers])]
    exact h.opponent
  · rw [hpiece _ (by simp [Pieces.numbers])]
    exact h.ball
  · rw [hpiece _ (by simp [Pieces.numbers])]
    exact h.board

/-- Changes the game of a scene, if it is one. -/
def mapPong (n : Nat) (f : PongScene α → PongScene α) (w : World α) : World α :=
  { w with
    scenes := w.scenes.modify n fun s =>
      match s.role with
      | .pong p => { s with role := .pong (f p) }
      | _ => s }

theorem run_modifyPong (f : PongScene α → PongScene α) :
    (modifyPong n f).run w = (.ok (), w.mapPong n f) := rfl

theorem pong?_mapPong (f : PongScene α → PongScene α) :
    (w.mapPong n f).pong? n = (w.pong? n).map f := by
  unfold pong? mapPong Scene.pong?
  rw [Array.getElem?_modify, if_pos rfl]
  cases w.scenes[n]? with
  | none => rfl
  | some s =>
    obtain ⟨name, bound, started, role⟩ := s
    cases role <;> rfl

/-- Puts the pieces where a game has them. -/
def putAt (q : Pieces) (g : Game α) (es : Array (Entity α)) : Array (Entity α) :=
  ((es.modify q.player (moveTo g.player)).modify q.opponent (moveTo g.opponent)).modify q.ball
    (moveTo g.ball)

theorem Laid.run_writeGame (h : w.Laid n c escapeTo q g text) (g' : Game α) :
    (writeGame n g').run w = (.ok (), { w with entities := putAt q g' w.entities }.mapPong n
      fun s => { s with
        velX := g'.velX
        velY := g'.velY
        playerScore := g'.playerScore
        opponentScore := g'.opponentScore }) := by
  unfold writeGame
  rw [run_bind_of_ok h.run_piecesAt]
  rfl

/-- The score that is shown is that of the game.  The board is none of the pieces that move, so
these stay as they were; it keeps its form and takes the new text. -/
theorem Laid.showScore (h : w.Laid n c escapeTo q g text) :
    ∃ v, (showScore n).run w = (.ok (), v) ∧ v.Laid n c escapeTo q g g.board := by
  have hrun : (World.showScore n).run w = (modifyEntity q.board fun e =>
      match e.form with
      | .text _ font align lettering => { e with form := .text g.board font align lettering }
      | _ => e).run w := by
    unfold World.showScore
    exact (run_bind_of_ok h.run_piecesAt).trans (run_bind_of_ok h.run_readGame)
  refine ⟨_, hrun, ?_⟩
  have hdistinct := h.distinct
  simp only [Pieces.numbers, List.nodup_cons, List.mem_cons, List.not_mem_nil, or_false,
    not_or] at hdistinct
  obtain ⟨⟨-, -, hpt⟩, ⟨-, hot⟩, hbt, -⟩ := hdistinct
  refine ⟨h.scene, h.distinct, ?_, ?_, ?_, ?_⟩
  · rw [Array.getElem?_modify, if_neg (Ne.symm hpt)]
    exact h.player
  · rw [Array.getElem?_modify, if_neg (Ne.symm hot)]
    exact h.opponent
  · rw [Array.getElem?_modify, if_neg (Ne.symm hbt)]
    exact h.ball
  · rw [Array.getElem?_modify, if_pos rfl]
    obtain ⟨e, he, htext⟩ := Option.bind_eq_some_iff.1 h.board
    rw [he]
    unfold Entity.content? at htext
    split at htext
    · next hform =>
      rw [Option.map_some, Option.bind_some, Entity.content?, hform]
    · cases htext

/-- Which game a scene keeps is a matter of the scene and the entities. -/
theorem Laid.of_eq (h : w.Laid n c escapeTo q g text) (hpong : v.pong? n = w.pong? n)
    (he : v.entities = w.entities) : v.Laid n c escapeTo q g text :=
  ⟨hpong.trans h.scene, h.distinct, he ▸ h.player, he ▸ h.opponent, he ▸ h.ball, he ▸ h.board⟩

theorem Laid.setCompositor (h : w.Laid n c escapeTo q g text) (k : Compositor Occupant) :
    Laid n c escapeTo q g text { w with compositor := k } := h.of_eq rfl rfl

/-- A scene is marked as set up. -/
def marked (n : Nat) (w : World α) : World α :=
  { w with scenes := w.scenes.modify n fun s => { s with started := true } }

theorem pong?_marked : (w.marked n).pong? n = w.pong? n := by
  unfold pong? marked
  rw [Array.getElem?_modify, if_pos rfl]
  cases w.scenes[n]? <;> rfl

theorem started?_marked {s : Scene α} (hs : w.scenes[n]? = some s) :
    (w.marked n).started? n = some true := by
  unfold started? marked
  rw [Array.getElem?_modify, if_pos rfl, hs]
  rfl

/-- A chance is taken from the stream. -/
theorem run_onDevice_chance (w : World α) : (onDevice Device.chance).run w =
    (.ok (w.depot.device.chances w.depot.device.taken), { w with
      depot := { w.depot with
        device := { w.depot.device with taken := w.depot.device.taken + 1 } } }) := rfl

/-- The keys that a scene sees, if it can reach the input. -/
def keysOf (n : Nat) (w : World α) : Option Keys :=
  if w.scenes[n]?.any (·.bound) && w.hasPart .input then some (pongKeys w.input) else none

theorem Laid.run_keysAt (h : w.Laid n c escapeTo q g text) :
    (keysAt n).run w = (.ok (w.keysOf n), w) := by
  obtain ⟨s, hs, -⟩ := pong?_eq_some.1 h.scene
  have hreach : (reaches n .input).run w = (.ok (s.bound && w.hasPart .input), w) := by
    rw [run_reaches, hs]
  unfold keysAt keysOf
  rw [run_bind_of_ok (run_get w), run_bind_of_ok hreach, hs, Option.any_some]
  rfl

section Blocks

variable [Scalar α]

/-- A piece that is moved where another game on the same court has it is that game's piece. -/
theorem On.moved (h : g.On c) (h' : g'.On c) :
    { g.player with x := g'.player.x, y := g'.player.y } = g'.player ∧
    { g.opponent with x := g'.opponent.x, y := g'.opponent.y } = g'.opponent ∧
    { g.ball with x := g'.ball.x, y := g'.ball.y } = g'.ball := by
  obtain ⟨⟨y, hy⟩, ⟨z, hz⟩, x, u, hx⟩ := h
  obtain ⟨⟨y', hy'⟩, ⟨z', hz'⟩, x', u', hx'⟩ := h'
  rw [hy, hz, hx, hy', hz', hx']
  exact ⟨rfl, rfl, rfl⟩

/-- Writing the places of a game moves its three pieces to them and nothing else. -/
theorem Laid.writeGame (h : w.Laid n c escapeTo q g text) (hg : g.On c) (hg' : g'.On c) :
    ∃ v, (writeGame n g').run w = (.ok (), v) ∧ v.Laid n c escapeTo q g' text := by
  refine ⟨_, h.run_writeGame g', ?_⟩
  obtain ⟨hplayer, hopponent, hball⟩ := On.moved hg hg'
  have hdistinct := h.distinct
  simp only [Pieces.numbers, List.nodup_cons, List.mem_cons, List.not_mem_nil, or_false,
    not_or] at hdistinct
  obtain ⟨⟨hpo, hpb, hpt⟩, ⟨hob, hot⟩, hbt, -⟩ := hdistinct
  -- a piece that is moved to where its block stands is that block
  have hmove (k : Nat) (b b' : Block α) (hk : w.entities[k]?.map blockOf = some b)
      (hb : { b with x := b'.x, y := b'.y } = b') :
      (w.entities[k]?.map (moveTo b')).map blockOf = some b' := by
    obtain ⟨e, he, rfl⟩ := Option.map_eq_some_iff.1 hk
    rw [he, Option.map_some, Option.map_some]
    exact congrArg some hb
  -- the numbers of the pieces are distinct, so a write to one leaves the others alone
  refine ⟨?_, h.distinct, ?_, ?_, ?_, ?_⟩
  · rw [pong?_mapPong]
    change (w.pong? n).map _ = _
    rw [h.scene]
    rfl
  · change (putAt q g' w.entities)[q.player]?.map blockOf = _
    simp only [putAt, Array.getElem?_modify, if_neg (Ne.symm hpo), if_neg (Ne.symm hpb), if_true]
    exact hmove _ _ _ h.player hplayer
  · change (putAt q g' w.entities)[q.opponent]?.map blockOf = _
    simp only [putAt, Array.getElem?_modify, if_neg hpo, if_neg (Ne.symm hob), if_true]
    exact hmove _ _ _ h.opponent hopponent
  · change (putAt q g' w.entities)[q.ball]?.map blockOf = _
    simp only [putAt, Array.getElem?_modify, if_neg hpb, if_neg hob, if_true]
    exact hmove _ _ _ h.ball hball
  · change (putAt q g' w.entities)[q.board]?.bind Entity.content? = _
    simp only [putAt, Array.getElem?_modify, if_neg hpt, if_neg hot, if_neg hbt]
    exact h.board

variable {Chance : α → Prop}

theorem Laid.serve (h : w.Laid n c escapeTo q g text) (hg : g.On c)
    (hchance : ∀ k, Chance (w.depot.device.chances k)) :
    ∃ d s v, Chance d ∧ Chance s ∧ (serve n).run w = (.ok (), v) ∧
      v.Laid n c escapeTo q (g.serve c d s) text := by
  have hread : Laid n c escapeTo q g text { w with
      depot := { w.depot with
        device := { w.depot.device with taken := w.depot.device.taken + 1 + 1 } } } :=
    h.of_eq rfl rfl
  obtain ⟨v, hrun, hv⟩ := hread.writeGame hg (hg.serve (w.depot.device.chances w.depot.device.taken)
    (w.depot.device.chances (w.depot.device.taken + 1)))
  refine ⟨_, _, v, hchance _, hchance _, ?_, hv⟩
  unfold World.serve
  rw [run_bind_of_ok h.run_pongAt, run_bind_of_ok (run_onDevice_chance w),
    run_bind_of_ok (run_onDevice_chance _), run_bind_of_ok hread.run_readGame]
  exact hrun

/-- A new game is served with the points taken back. -/
theorem Laid.enterPong (h : w.Laid n c escapeTo q g text) (hg : g.On c)
    (hchance : ∀ k, Chance (w.depot.device.chances k)) :
    ∃ d s v, Chance d ∧ Chance s ∧ (enterPong n).run w = (.ok (), v) ∧
      v.Laid n c escapeTo q (g.renew c d s) text := by
  have hreset : Laid n c escapeTo q { g with playerScore := 0, opponentScore := 0 } text
      (w.mapPong n fun s => { s with playerScore := 0, opponentScore := 0 }) := by
    refine ⟨?_, h.distinct, h.player, h.opponent, h.ball, h.board⟩
    rw [pong?_mapPong, h.scene]
    rfl
  obtain ⟨d, s, v, hd, hs, hrun, hv⟩ : ∃ d s v, Chance d ∧ Chance s ∧ _ :=
    hreset.serve ⟨hg.player, hg.opponent, hg.ball⟩ hchance
  exact ⟨d, s, v, hd, hs, (run_bind_of_ok (run_modifyPong _)).trans hrun, hv⟩

/-- **A step of a scene is a step of its game**, and the score that is shown goes with
it.  Without a point the board still shows the score, since `Game.play` does not touch it.  With
one, the serve takes two numbers from the device before anything is written. -/
theorem Laid.stepPong (h : w.Laid n c escapeTo q g g.board) (hg : g.On c)
    (hchance : ∀ k, Chance (w.depot.device.chances k)) (dt : α) :
    ∃ d s v, Chance d ∧ Chance s ∧ (stepPong n dt).run w = (.ok (), v) ∧
      v.Laid n c escapeTo q (g.step c (w.keysOf n) dt d s)
        (g.step c (w.keysOf n) dt d s).board := by
  have hplay : (g.play c (w.keysOf n) dt).board = g.board := by
    rw [Game.play_eq]
    rfl
  unfold World.stepPong
  rw [run_bind_of_ok h.run_pongAt, run_bind_of_ok h.run_keysAt, run_bind_of_ok h.run_readGame]
  unfold Game.step
  dsimp only [Game.kept]
  cases hpoint : (g.play c (w.keysOf n) dt).point? c with
  | none =>
    obtain ⟨v, hrun, hv⟩ := h.writeGame hg (hg.play (w.keysOf n) dt)
    refine ⟨_, _, v, hchance 0, hchance 0, hrun, ?_⟩
    dsimp only
    rw [hplay]
    exact hv
  | some winner =>
    have hread : Laid n c escapeTo q g g.board { w with
        depot := { w.depot with
          device := { w.depot.device with taken := w.depot.device.taken + 1 + 1 } } } :=
      h.of_eq rfl rfl
    obtain ⟨u, hwrite, hu⟩ := hread.writeGame hg ((hg.play (w.keysOf n) dt).score winner
      (w.depot.device.chances w.depot.device.taken)
      (w.depot.device.chances (w.depot.device.taken + 1)))
    obtain ⟨v, hshow, hv⟩ := hu.showScore
    refine ⟨_, _, v, hchance _, hchance _, ?_, hv⟩
    dsimp only
    rw [run_bind_of_ok (run_onDevice_chance w), run_bind_of_ok (run_onDevice_chance _)]
    exact (run_bind_of_ok hwrite).trans hshow

end Blocks

end Laid

/-! ## 2. What a match leaves alone

A match reads the keys and the chances and writes its own pieces.  What it leaves alone is listed
once, in `Tends`, so that the results about several scenes need not look into a match again. -/

/-- Only the game of the scene `n` goes on, with the same pieces: the other scenes, the parts of the
engine and the stream of chances are as before. -/
structure Tends (n : Nat) (w v : World α) : Prop where
  parts : v.missing = w.missing
  chances : v.depot.device.chances = w.depot.device.chances
  current : v.current = w.current
  size : w.entities.size ≤ v.entities.size
  others : ∀ m, m ≠ n → v.scenes[m]? = w.scenes[m]?
  bound : v.scenes[n]?.map (·.bound) = w.scenes[n]?.map (·.bound)
  started : w.started? n = some true → v.started? n = some true
  pieces : (v.pong? n).map (·.pieces) = (w.pong? n).map (·.pieces)

instance (n : Nat) : IsPreorder (World α) (Tends n) where
  refl _ := ⟨rfl, rfl, rfl, le_refl _, fun _ _ => rfl, rfl, id, rfl⟩
  trans _ _ _ h h' := ⟨h'.parts.trans h.parts, h'.chances.trans h.chances,
    h'.current.trans h.current, h.size.trans h'.size,
    fun m hm => (h'.others m hm).trans (h.others m hm), h'.bound.trans h.bound,
    h'.started ∘ h.started, h'.pieces.trans h.pieces⟩

theorem Tends.of_eq {n : Nat} {w v : World α} (hparts : v.missing = w.missing)
    (hchances : v.depot.device.chances = w.depot.device.chances) (hcurrent : v.current = w.current)
    (hsize : w.entities.size ≤ v.entities.size) (hscenes : v.scenes = w.scenes) : w.Tends n v := by
  refine ⟨hparts, hchances, hcurrent, hsize, fun m _ => by rw [hscenes], by rw [hscenes], ?_, ?_⟩
  · unfold started?
    rw [hscenes]
    exact id
  · unfold pong?
    rw [hscenes]

/-- The scene `n` itself changes, but not which pieces it has. -/
theorem Tends.modifyScene {n : Nat} (w : World α) {f : Scene α → Scene α}
    (hbound : ∀ s, (f s).bound = s.bound) (hstarted : ∀ s, s.started = true → (f s).started = true)
    (hpieces : ∀ s, (f s).pong?.map (·.pieces) = s.pong?.map (·.pieces)) :
    w.Tends n { w with scenes := w.scenes.modify n f } := by
  refine ⟨rfl, rfl, rfl, le_refl _, fun m hm => ?_, ?_, ?_, ?_⟩
  · rw [Array.getElem?_modify, if_neg (Ne.symm hm)]
  · rw [Array.getElem?_modify, if_pos rfl]
    cases w.scenes[n]? <;> simp [hbound]
  · unfold started?
    rw [Array.getElem?_modify, if_pos rfl]
    cases w.scenes[n]? with
    | none => exact id
    | some s => simpa using hstarted s
  · unfold pong?
    rw [Array.getElem?_modify, if_pos rfl]
    cases w.scenes[n]? with
    | none => rfl
    | some s => exact hpieces s

/-- A match stays apart from the other scenes.  The pieces keep their numbers, the table only
grows, and the other scenes are untouched. -/
theorem Tends.apart {n : Nat} {w v : World α} (hv : w.Tends n v) (h : w.Apart n) : v.Apart n := by
  have hpieces : v.piecesOf n = w.piecesOf n := by
    have hmap := hv.pieces
    unfold piecesOf PongScene.numbers
    cases hp : w.pong? n <;> cases hp' : v.pong? n <;> rw [hp, hp'] at hmap
    · cases hmap
    · cases hmap
    · next p p' =>
      have heq : p'.pieces = p.pieces := Option.some.inj hmap
      change p'.pieces.elim [] Pieces.numbers = p.pieces.elim [] Pieces.numbers
      rw [heq]
  refine ⟨?_, fun k hk => ?_, fun m s hm hs k hk => ?_⟩
  · obtain ⟨p, hp⟩ := h.game
    have hmap := hv.pieces
    rw [hp] at hmap
    obtain ⟨p', hp', -⟩ := Option.map_eq_some_iff.1 hmap
    exact ⟨p', hp'⟩
  · exact (h.made k (hpieces ▸ hk)).trans_le hv.size
  · rw [hv.others m hm] at hs
    obtain ⟨hmade, hfree⟩ := h.others m s hm hs k hk
    exact ⟨hmade.trans_le hv.size, hpieces ▸ hfree⟩

section Tends

variable {n : Nat}

theorem tends_modifyEntity (k : Nat) (f : Entity α → Entity α) :
    (modifyEntity k f : Act (World α) Unit).Moves (Tends n) :=
  moves_modify fun _ => .of_eq rfl rfl rfl (by rw [Array.size_modify]) rfl

theorem tends_tally {f : PongScene α → PongScene α} (hf : ∀ p, (f p).pieces = p.pieces) :
    (modifyPong n f).Moves (Tends n) := by
  refine fun w => .modifyScene w (fun s => ?_) (fun s hs => ?_) fun s => ?_
  · split <;> rfl
  · split <;> exact hs
  · split
    · next p hr =>
      unfold Scene.pong?
      rw [hr]
      exact congrArg some (hf p)
    · rfl

theorem strokes_tends : Strokes (α := α) n (Tends n) where
  chance _ := .of_eq rfl rfl rfl (le_refl _) rfl
  tally := tends_tally
  write _ := moves_bind (moves_piecesAt n).of_eq fun _ =>
    moves_bind (tends_modifyEntity _ _) fun _ => moves_bind (tends_modifyEntity _ _) fun _ =>
      moves_bind (tends_modifyEntity _ _) fun _ => tends_tally fun _ => rfl
  showScore := moves_bind (moves_piecesAt n).of_eq fun _ =>
    moves_bind (moves_readGame n).of_eq fun _ => tends_modifyEntity _ _

theorem tends_populatePong [Scalar α] : (populatePong n : Act (World α) Unit).Moves (Tends n) := by
  have hlayers (f : Compositor Occupant → Compositor Occupant) :
      (modifyCompositor f : Act (World α) Unit).Moves (Tends n) :=
    moves_modify fun _ => .of_eq rfl rfl rfl (le_refl _) rfl
  have hplace (e : Entity α) (layer : Layer) : (placeNew e layer).Moves (Tends n) :=
    moves_bind (fun w => .of_eq (w := w) rfl rfl rfl (by simp [Act.after, run_addEntity]) rfl)
      fun _ => hlayers _
  unfold populatePong
  refine moves_bind (moves_pongAt n).of_eq fun c => ?_
  refine moves_bind (moves_requireReach n _).of_eq fun _ => ?_
  refine moves_bind (hplace _ _) fun _ => moves_bind (hplace _ _) fun _ => ?_
  refine moves_bind (moves_piecesAt n).of_eq fun p => ?_
  iterate 4 refine moves_bind (hlayers _) fun _ => ?_
  exact strokes_tends.showScore

end Tends

/-! ## 3. Setting up, entering, going on

The acts of the scene, each with the game that it leads to. -/

section Match

variable [Scalar α]

/-- The scene `n` has set up a match, apart from the other scenes, and its game is one that can come
about. -/
structure Match (n : Nat) (c : Court α) (escapeTo : Value α) (Chance : α → Prop) (q : Pieces)
    (g : Game α) (text : String) (w : World α) : Prop where
  parts : w.missing = []
  chances : ∀ k, Chance (w.depot.device.chances k)
  apart : w.Apart n
  laid : w.Laid n c escapeTo q g text
  reached : c.Reached Chance g

variable {n : Nat} {c : Court α} {escapeTo : Value α} {Chance : α → Prop} {q : Pieces}
  {g g' : Game α} {text text' : String} {w v : World α}

theorem Match.next (h : w.Match n c escapeTo Chance q g text) (hv : w.Tends n v)
    (hlaid : v.Laid n c escapeTo q g' text') (hg' : c.Reached Chance g') :
    v.Match n c escapeTo Chance q g' text' :=
  ⟨hv.parts.trans h.parts, hv.chances ▸ h.chances, hv.apart h.apart, hlaid, hg'⟩

theorem Match.sameGame (h : w.Match n c escapeTo Chance q g text) (hv : w.SameGame n v)
    (hapart : v.Apart n) : v.Match n c escapeTo Chance q g text :=
  ⟨hv.parts.trans h.parts, hv.chances ▸ h.chances, hapart, h.laid.sameGame hv, h.reached⟩

theorem Match.step (h : w.Match n c escapeTo Chance q g g.board) (dt : α) :
    ∃ d s v, Chance d ∧ Chance s ∧ (stepPong n dt).run w = (.ok (), v) ∧
      v.Match n c escapeTo Chance q (g.step c (w.keysOf n) dt d s)
        (g.step c (w.keysOf n) dt d s).board := by
  obtain ⟨d, s, v, hd, hs, hrun, hv⟩ := h.laid.stepPong h.reached.on h.chances dt
  have htends := strokes_tends.stepPong (n := n) dt w
  rw [after_eq_of_run hrun] at htends
  exact ⟨d, s, v, hd, hs, hrun, h.next htends hv (.step h.reached _ _ hd hs)⟩

theorem Match.enter (h : w.Match n c escapeTo Chance q g text) :
    ∃ d s v, (enterPong n).run w = (.ok (), v) ∧ w.Tends n v ∧
      v.Match n c escapeTo Chance q (g.renew c d s) text := by
  obtain ⟨d, s, v, hd, hs, hrun, hv⟩ := h.laid.enterPong h.reached.on h.chances
  have htends := strokes_tends.enterPong (n := n) w
  rw [after_eq_of_run hrun] at htends
  exact ⟨d, s, v, hrun, htends, h.next htends hv (.renew h.reached hd hs)⟩

/-- A new entity comes in and is put into a layer. -/
def withNew (e : Entity α) (layer : Layer) (w : World α) : World α :=
  { w with
    entities := w.entities.push e
    compositor := w.compositor.add (.entity w.entities.size) layer }

omit [Scalar α] in
theorem spares_withNew (e : Entity α) (layer : Layer) : w.Spares n (w.withNew e layer) :=
  (spares_addEntity e).trans fun _ => spares_of_eq rfl rfl rfl rfl id

/-- The pieces are put into their layers. -/
def withPieces (q : Pieces) (w : World α) : World α :=
  { w with
    compositor := (((w.compositor.add (.entity q.player) .sprites).add (.entity q.opponent)
      .sprites).add (.entity q.ball) .sprites).add (.entity q.board) .texts }

omit [Scalar α] in
theorem Laid.withPieces (h : w.Laid n c escapeTo q g text) :
    (w.withPieces q).Laid n c escapeTo q g text := h.setCompositor _

omit [Scalar α] in
theorem run_putPieces (q : Pieces) (x : Act (World α) Unit) (w : World α) : (do
      modifyCompositor (·.add (.entity q.player) .sprites)
      modifyCompositor (·.add (.entity q.opponent) .sprites)
      modifyCompositor (·.add (.entity q.ball) .sprites)
      modifyCompositor (·.add (.entity q.board) .texts)
      x).run w = x.run (w.withPieces q) := rfl

/-- The court is drawn and the pieces are put into their layers; then the score is shown.  What
was there is spared: the two new entities get numbers that no piece has. -/
theorem Match.populate (h : w.Match n c escapeTo Chance q g text)
    (hbound : w.scenes[n]?.map (·.bound) = some true) :
    ∃ v, (populatePong n).run w = (.ok (), v) ∧ w.Tends n v ∧
      v.Match n c escapeTo Chance q g g.board := by
  obtain ⟨s, hs, hb⟩ := Option.map_eq_some_iff.1 hbound
  have hreach : (requireReach n .compositor).run w = (.ok (), w) := by
    unfold requireReach
    rw [run_bind_of_ok (by rw [run_reaches, hs])]
    simp [hb, hasPart, h.parts]
  have hnew (e : Entity α) (layer : Layer) (u : World α) :
      (placeNew e layer).run u = (.ok (), u.withNew e layer) := rfl
  -- the ground and the line come in beside the pieces
  have hdrawn : w.Spares n
      ((w.withNew (ground c) .farBackground).withNew (divider c) .nearBackground) :=
    (spares_withNew _ _).trans fun _ => spares_withNew _ _
  have hlaid := h.laid.sameGame (hdrawn h.apart).2
  obtain ⟨v, hshow, hv⟩ := hlaid.withPieces.showScore
  have hrun : (populatePong n).run w = (.ok (), v) := by
    unfold populatePong
    rw [run_bind_of_ok h.laid.run_pongAt, run_bind_of_ok hreach, run_bind_of_ok (hnew _ _ _),
      run_bind_of_ok (hnew _ _ _)]
    dsimp only [Game.kept]
    rw [run_bind_of_ok hlaid.run_piecesAt, run_putPieces]
    exact hshow
  have htends := tends_populatePong (n := n) w
  rw [after_eq_of_run hrun] at htends
  exact ⟨v, hrun, htends, h.next htends hv h.reached⟩

/-! A new match gets the next four entities. -/

theorem getElem?_laidOut_new (c : Court α) (es : Array (Entity α)) :
    (laidOut c es)[es.size]? = some (piece c.playerPaddle "#00ff00") ∧
    (laidOut c es)[es.size + 1]? = some (piece c.opponentPaddle "#ff0000") ∧
    (laidOut c es)[es.size + 2]? = some (piece c.restingBall "#ffffff") ∧
    (laidOut c es)[es.size + 3]? = some (boardPiece c) := by
  unfold laidOut
  refine ⟨?_, ?_, ?_, ?_⟩
  · rw [getElem?_push_old (by grind), getElem?_push_old (by grind),
      getElem?_push_old (by grind), Array.getElem?_push_size]
  · rw [getElem?_push_old (by grind), getElem?_push_old (by grind), Array.getElem?_push,
      if_pos (by grind)]
  · rw [getElem?_push_old (by grind), Array.getElem?_push, if_pos (by grind)]
  · rw [Array.getElem?_push, if_pos (by grind)]

/-- The pieces of a new match. -/
def newPieces (w : World α) : Pieces :=
  ⟨w.entities.size, w.entities.size + 1, w.entities.size + 2, w.entities.size + 3⟩

/-- The world in which they are laid out for the scene `n`. -/
def withMatch (n : Nat) (c : Court α) (w : World α) : World α :=
  { w with entities := laidOut c w.entities }.mapPong n fun s =>
    { s with pieces := some w.newPieces }

/-- A new match has pieces of its own.  The four pieces get the next four numbers, which no other
scene can own since every number in use is smaller. -/
theorem match_of_new (hparts : w.missing = []) (hchance : ∀ k, Chance (w.depot.device.chances k))
    (hapart : w.Apart n) (hnew : w.pong? n = some (c.blank escapeTo)) :
    (w.withMatch n c).Match n c escapeTo Chance w.newPieces c.newGame "" := by
  obtain ⟨hplayer, hopponent, hball, hboard⟩ := getElem?_laidOut_new c w.entities
  have hpong : (w.withMatch n c).pong? n = some (c.newGame.kept c escapeTo w.newPieces) := by
    rw [withMatch, pong?_mapPong]
    change (w.pong? n).map _ = _
    rw [hnew]
    rfl
  have hnumbers (k : Nat) : k ∈ w.newPieces.numbers ↔
      w.entities.size ≤ k ∧ k < w.entities.size + 4 := by
    simp only [newPieces, Pieces.numbers, List.mem_cons, List.not_mem_nil, or_false]
    omega
  have hlaid : (w.withMatch n c).Laid n c escapeTo w.newPieces c.newGame "" := by
    refine ⟨hpong, ?_, ?_, ?_, ?_, ?_⟩
    · simp [newPieces, Pieces.numbers]
    · exact congrArg (Option.map blockOf) hplayer
    · exact congrArg (Option.map blockOf) hopponent
    · exact congrArg (Option.map blockOf) hball
    · exact congrArg (Option.bind · Entity.content?) hboard
  refine ⟨hparts, hchance, ⟨⟨_, hpong⟩, fun k hk => ?_, fun m s hm hs k hk => ?_⟩, hlaid, .new⟩
  · rw [hlaid.piecesOf, hnumbers] at hk
    exact hk.2.trans_eq (size_laidOut c w.entities).symm
  · have hold : k < w.entities.size := by
      change (w.scenes.modify n _)[m]? = some s at hs
      rw [Array.getElem?_modify, if_neg (Ne.symm hm)] at hs
      exact (hapart.others m s hm hs k hk).1
    refine ⟨hold.trans_le ?_, fun hpiece => ?_⟩
    · change w.entities.size ≤ (laidOut c w.entities).size
      rw [size_laidOut]
      omega
    · rw [hlaid.piecesOf, hnumbers] at hpiece
      omega

theorem run_setUpPong_of_new (hnew : w.pong? n = some (c.blank escapeTo)) :
    (setUpPong n).run w = (serve n).run (w.withMatch n c) := by
  rw [setUpPong_eq, run_bind_of_ok (by rw [run_pongAt, hnew])]
  exact run_bind_of_ok (run_layOut c w)

/-- **Setting up a scene for the first time starts a new match**, with a first serve.  The serve
moves the ball only, so what was laid out stands; the mark that the scene has started is set last. -/
theorem exists_match_of_start [Host α] (hparts : w.missing = [])
    (hchance : ∀ k, Chance (w.depot.device.chances k)) (hapart : w.Apart n)
    (hnew : w.pong? n = some (c.blank escapeTo)) (hstarted : w.started? n = some false) :
    ∃ q g v, (start n).run w = (.ok (), v) ∧ v.Match n c escapeTo Chance q g "" ∧
      v.started? n = some true ∧ v.current = w.current ∧
      v.scenes[n]?.map (·.bound) = w.scenes[n]?.map (·.bound) := by
  have hmatch := match_of_new hparts hchance hapart hnew
  obtain ⟨d, s, u, hd, hs, hserve, hu⟩ := hmatch.laid.serve hmatch.reached.on hmatch.chances
  have htends := strokes_tends.serve (n := n) (w.withMatch n c)
  rw [after_eq_of_run hserve] at htends
  have hmatch' := hmatch.next htends hu (Court.Reached.renew .new hd hs)
  have hmark : u.Tends n (u.marked n) :=
    .modifyScene u (fun _ => rfl) (fun _ _ => rfl) fun _ => rfl
  obtain ⟨s, hs, hr⟩ := pong?_eq_some.1 hnew
  -- the scene is there and has not started, so `start` sets it up
  have hfirst : s.started = false := by
    rw [started?, hs] at hstarted
    exact Option.some.inj hstarted
  have hsetUp : (setUp n).run w = (.ok (), u) := by
    unfold setUp
    rw [run_bind_of_ok (by rw [run_sceneAt, hs]), hr]
    exact (run_setUpPong_of_new hnew).trans hserve
  have hstart : (start n).run w = (.ok (), u.marked n) := by
    unfold start
    rw [run_bind_of_ok (by rw [run_sceneAt, hs]), hfirst, if_pos (by decide), run_bind_of_ok hsetUp]
    rfl
  obtain ⟨t, ht, -⟩ := pong?_eq_some.1 hu.scene
  refine ⟨_, _, _, hstart, hmatch'.next hmark (hu.of_eq pong?_marked rfl) hmatch'.reached,
    started?_marked ht, htends.current, ?_⟩
  rw [hmark.bound, htends.bound]
  change (w.scenes.modify n _)[n]?.map (·.bound) = _
  rw [Array.getElem?_modify, if_pos rfl, hs]
  simp [hr]

end Match

end World

end Diorama
