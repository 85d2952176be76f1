/-
# Playing Pong in the world

The game is played with entities: two paddles, a ball, and a text that shows the score.  A step
reads where they are, plays it by the rules, and puts them where the rules say.
-/
import Diorama.World

namespace Diorama.World

variable {α : Type} [Scalar α] [Host α]

/-! ## 1. The pieces -/

/-- The game of a scene. -/
def pongAt (n : Nat) : Act (World α) (PongScene α) := do
  match (← sceneAt n).role with
  | .pong p => return p
  | _ => throw .absent

def modifyPong (n : Nat) (f : PongScene α → PongScene α) : Act (World α) Unit :=
  modifyScene n fun s =>
    match s.role with
    | .pong p => { s with role := .pong (f p) }
    | _ => s

/-- The pieces of a game; there are none before it was set up. -/
def piecesAt (n : Nat) : Act (World α) Pieces := do
  match (← pongAt n).pieces with
  | some p => return p
  | none => throw .absent

/-- A piece of a colour. -/
def piece (b : Pong.Block α) (color : String) : Entity α :=
  { Body.at b.x b.y b.width b.height (.text color) with form := .sprite none }

/-- The text above the court. -/
def boardPiece (c : Pong.Court α) : Entity α :=
  { Body.at (c.width / 2.0) (c.top - 80.0) 0.0 0.0 (.text "#ffffff") with
    form := .text "" Typeface.standard "center" .everyone }

/-- Where an entity is. -/
def blockOf (e : Entity α) : Pong.Block α := ⟨e.x, e.y, e.width, e.height⟩

/-- Moves an entity. -/
def moveTo (b : Pong.Block α) (e : Entity α) : Entity α := { e with x := b.x, y := b.y }

/-- The state of a game. -/
def readGame (n : Nat) : Act (World α) (Pong.Game α) := do
  let s ← pongAt n
  let p ← piecesAt n
  return {
    player := blockOf (← entityAt p.player)
    opponent := blockOf (← entityAt p.opponent)
    ball := blockOf (← entityAt p.ball)
    velX := s.velX
    velY := s.velY
    playerScore := s.playerScore
    opponentScore := s.opponentScore }

/-- Puts the pieces where a game has them. -/
def writeGame (n : Nat) (g : Pong.Game α) : Act (World α) Unit := do
  let p ← piecesAt n
  modifyEntity p.player (moveTo g.player)
  modifyEntity p.opponent (moveTo g.opponent)
  modifyEntity p.ball (moveTo g.ball)
  modifyPong n fun s =>
    { s with
      velX := g.velX
      velY := g.velY
      playerScore := g.playerScore
      opponentScore := g.opponentScore }

/-- Shows the score (`PongScene._update_score_text`). -/
def showScore (n : Nat) : Act (World α) Unit := do
  let p ← piecesAt n
  let g ← readGame n
  modifyEntity p.board fun e =>
    match e.form with
    | .text _ font align lettering => { e with form := .text g.board font align lettering }
    | _ => e

/-- Serves (`PongScene.reset_ball`). -/
def serve (n : Nat) : Act (World α) Unit := do
  let c := (← pongAt n).court
  let direction ← onDevice Device.chance
  let slope ← onDevice Device.chance
  writeGame n ((← readGame n).serve c direction slope)

/-! ## 2. Coming and going -/

/-- Makes the pieces and serves (`PongScene.init`). -/
def setUpPong (n : Nat) : Act (World α) Unit := do
  let c := (← pongAt n).court
  let player ← addEntity (piece c.playerPaddle "#00ff00")
  let opponent ← addEntity (piece c.opponentPaddle "#ff0000")
  let ball ← addEntity (piece c.restingBall "#ffffff")
  let board ← addEntity (boardPiece c)
  modifyPong n fun s => { s with pieces := some { player, opponent, ball, board } }
  serve n

/-- Starts a new game (`PongScene.enter`). -/
def enterPong (n : Nat) : Act (World α) Unit := do
  modifyPong n fun s => { s with playerScore := 0, opponentScore := 0 }
  serve n

/-- The ground of the court. -/
def ground (c : Pong.Court α) : Entity α :=
  { Body.at 0.0 c.top c.width c.height (.text "#000000") with
    form := .shape .rect 50.0 true 1 }

/-- The line between the two halves (`_CenterLine`). -/
def divider (c : Pong.Court α) : Entity α :=
  { Body.at (c.width / 2.0) c.top 0.0 c.height with form := .divider }

/-- Makes an entity and puts it into a layer. -/
def placeNew (e : Entity α) (layer : Layer) : Act (World α) Unit := do
  let e ← addEntity e
  modifyCompositor (·.add (.entity e) layer)

/-- Stops unless the scene can reach a part of the engine. -/
def requireReach (n : Nat) (p : Part) : Act (World α) Unit := do
  if !(← reaches n p) then throw .absent

/-- Puts the court and the pieces into their layers (`PongScene.populate_layers`). -/
def populatePong (n : Nat) : Act (World α) Unit := do
  let c := (← pongAt n).court
  requireReach n .compositor
  placeNew (ground c) .farBackground
  placeNew (divider c) .nearBackground
  let p ← piecesAt n
  modifyCompositor (·.add (.entity p.player) .sprites)
  modifyCompositor (·.add (.entity p.opponent) .sprites)
  modifyCompositor (·.add (.entity p.ball) .sprites)
  modifyCompositor (·.add (.entity p.board) .texts)
  showScore n

/-! ## 3. A step -/

/-- The keys that are down. -/
def pongKeys (i : Input α) : Pong.Keys where
  up := i.isDown [Key.up, Key.w]
  down := i.isDown [Key.down, Key.s]

/-- The keys of a game, if it can reach the input (`PongScene._handle_input`). -/
def keysAt (n : Nat) : Act (World α) (Option Pong.Keys) := do
  let w ← get
  return if ← reaches n .input then some (pongKeys w.input) else none

/-- Lets time pass in a game (`PongScene.update`). -/
def stepPong (n : Nat) (dt : α) : Act (World α) Unit := do
  let c := (← pongAt n).court
  let keys ← keysAt n
  let g := (← readGame n).play c keys dt
  match g.point? c with
  | none => writeGame n g
  | some winner =>
    let direction ← onDevice Device.chance
    let slope ← onDevice Device.chance
    writeGame n (g.score c winner direction slope)
    showScore n

end Diorama.World
