/-
# The rules of Pong

Two paddles and a ball on a court.  The player's paddle follows the keys, the opponent's follows
the ball a little more slowly; the ball bounces off the walls above and below and off the
paddles, and the height at which it meets a paddle decides how steeply it leaves.  Leaving the
court on the left is a point for the opponent, on the right one for the player.

`Game.play` is everything in a step but the scoring; `Game.point?` tells who then has won a
point, and `Game.score` gives it and serves again.
-/
import Diorama.Scalar

namespace Diorama.Pong

/-- A court, and how fast things move on it (`PongScene`). -/
structure Court (α : Type) where
  width : α
  height : α
  /-- The height at which the court starts on the canvas. -/
  top : α
  ballSpeed : α
  paddleSpeed : α

/-- An upright rectangle. -/
structure Block (α : Type) where
  x : α
  y : α
  width : α
  height : α

/-- Where everything is, how fast the ball moves, and the score. -/
structure Game (α : Type) where
  player : Block α
  opponent : Block α
  ball : Block α
  velX : α
  velY : α
  playerScore : Nat := 0
  opponentScore : Nat := 0

/-- The two sides of the court. -/
inductive Side where
  | player | opponent
  deriving Repr, DecidableEq

/-- The keys that are down, as far as they matter. -/
structure Keys where
  up : Bool
  down : Bool

variable {α : Type} [Scalar α]

/-! ## 1. The court -/

namespace Court

/-- A court in the middle of a canvas of the given height (`PongScene`). -/
def centred (width canvasHeight height ballSpeed paddleSpeed : α) : Court α where
  width := width
  height := height
  top := (canvasHeight - height) / 2.0
  ballSpeed := ballSpeed
  paddleSpeed := paddleSpeed

/-- The height of the middle. -/
def middle (c : Court α) : α := c.top + c.height / 2.0

/-- The lower edge. -/
def bottom (c : Court α) : α := c.top + c.height

/-- The player's paddle before the game (`PongScene.init`). -/
def playerPaddle (c : Court α) : Block α := ⟨50.0, c.middle - 50.0, 20.0, 100.0⟩

/-- The opponent's paddle before the game (`PongScene.init`). -/
def opponentPaddle (c : Court α) : Block α := ⟨c.width - 70.0, c.middle - 50.0, 20.0, 100.0⟩

/-- The ball in the middle. -/
def restingBall (c : Court α) : Block α := ⟨c.width / 2.0 - 10.0, c.middle - 10.0, 20.0, 20.0⟩

/-- The game before the first serve. -/
def newGame (c : Court α) : Game α where
  player := c.playerPaddle
  opponent := c.opponentPaddle
  ball := c.restingBall
  velX := c.ballSpeed
  velY := 0.0

end Court

namespace Block

def right (b : Block α) : α := b.x + b.width

def bottom (b : Block α) : α := b.y + b.height

/-- The height of the middle. -/
def middle (b : Block α) : α := b.y + b.height / 2.0

/-- Whether two rectangles meet; touching counts (`PongScene._overlaps`). -/
def overlaps (a b : Block α) : Bool :=
  Scalar.le a.x b.right && Scalar.le b.x a.right && Scalar.le b.y a.bottom &&
    Scalar.le a.y b.bottom

/-- The nearest place between the walls (`PongScene._clamp_paddle`). -/
def keepIn (c : Court α) (b : Block α) : Block α :=
  { b with y := Scalar.max c.top (Scalar.min (c.bottom - b.height) b.y) }

end Block

/-! ## 2. One step -/

namespace Game

/-- The player's paddle follows the keys (`PongScene._handle_input`). -/
def movePlayer (c : Court α) (keys : Keys) (dt : α) (g : Game α) : Game α :=
  let y := g.player.y
  let y := if keys.up then y - c.paddleSpeed * dt else y
  let y := if keys.down then y + c.paddleSpeed * dt else y
  { g with player := { g.player with y }.keepIn c }

/-- The opponent's paddle follows the ball unless it is near enough (`PongScene._update_ai`). -/
def moveOpponent (c : Court α) (dt : α) (g : Game α) : Game α :=
  let here := g.opponent.middle
  let there := g.ball.middle
  let step := c.paddleSpeed * dt * 0.8
  let y :=
    if Scalar.lt there (here - 10.0) then g.opponent.y - step
    else if Scalar.lt (here + 10.0) there then g.opponent.y + step
    else g.opponent.y
  { g with opponent := { g.opponent with y }.keepIn c }

/-- The ball moves on (`PongScene.update`). -/
def moveBall (dt : α) (g : Game α) : Game α :=
  { g with ball := { g.ball with x := g.ball.x + g.velX * dt, y := g.ball.y + g.velY * dt } }

/-- A ball at a wall or beyond it turns round (`PongScene._bounce`). -/
def bounceWalls (c : Court α) (g : Game α) : Game α :=
  if Scalar.le g.ball.y c.top || Scalar.le c.bottom g.ball.bottom then
    { g with velY := -g.velY }
  else g

/-- A ball that meets a paddle leaves it in the direction `sign`, the more steeply the farther from
the paddle's middle it met it (`PongScene._bounce`). -/
def bouncePaddle (c : Court α) (sign : α) (paddle : Block α) (g : Game α) : Game α :=
  if g.ball.overlaps paddle then
    let hit := (g.ball.middle - paddle.y) / paddle.height
    { g with velX := sign * Scalar.abs g.velX, velY := (hit - 0.5) * c.ballSpeed }
  else g

/-- Walls first, then the player's paddle, then the opponent's (`PongScene._bounce`). -/
def bounce (c : Court α) (g : Game α) : Game α :=
  let g := g.bounceWalls c
  let g := g.bouncePaddle c 1.0 g.player
  g.bouncePaddle c (-1.0) g.opponent

/-- Everything in a step but the scoring (`PongScene.update`).  Without keys the player's paddle is
left alone. -/
def play (c : Court α) (keys : Option Keys) (dt : α) (g : Game α) : Game α :=
  let g := match keys with
    | some keys => g.movePlayer c keys dt
    | none => g
  ((g.moveOpponent c dt).moveBall dt).bounce c

/-! ## 3. Points -/

/-- Who wins a point, if the ball has left the court (`PongScene._check_score`). -/
def point? (c : Court α) (g : Game α) : Option Side :=
  if Scalar.lt g.ball.right 0.0 then some .opponent
  else if Scalar.lt c.width g.ball.x then some .player
  else none

/-- Puts the ball into the middle and sends it off; of two chances the first decides the direction
and the second the slope (`PongScene.reset_ball`). -/
def serve (c : Court α) (direction slope : α) (g : Game α) : Game α :=
  { g with
    ball := { g.ball with x := c.restingBall.x, y := c.restingBall.y }
    velX := c.ballSpeed * (if Scalar.lt 0.5 direction then 1.0 else -1.0)
    velY := (slope - 0.5) * c.ballSpeed * 0.5 }

/-- Gives a point to a side and serves again (`PongScene._check_score`). -/
def score (c : Court α) (winner : Side) (direction slope : α) (g : Game α) : Game α :=
  let g := match winner with
    | .player => { g with playerScore := g.playerScore + 1 }
    | .opponent => { g with opponentScore := g.opponentScore + 1 }
  g.serve c direction slope

/-- The score as it is shown (`PongScene._update_score_text`). -/
def board (g : Game α) : String := toString g.playerScore ++ " - " ++ toString g.opponentScore

/-- A step with its scoring, given the two chances of a serve (`PongScene.update`). -/
def step (c : Court α) (keys : Option Keys) (dt direction slope : α) (g : Game α) : Game α :=
  let g := g.play c keys dt
  match g.point? c with
  | some winner => g.score c winner direction slope
  | none => g

end Game

end Diorama.Pong
