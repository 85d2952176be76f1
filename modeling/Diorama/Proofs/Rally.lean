/-
# Rallies

What the rules of Pong do to a game, first in closed form and then with exact numbers.

In a step the paddles stay in their columns, the ball moves by its speed, and nothing else is moved:
the walls and the paddles only turn the ball round (`Game.play_ball`, `Game.velX_play`,
`Game.velY_play`).  So the ball is never faster or slower across than it was served, and how steeply
it can leave a paddle is decided by how far from the paddle's middle it can touch it.  These are the
bounds of `Court.Fair`, and they hold of every game that can come about (`Court.Reached.fair`).

In one frame the ball goes no farther than a paddle and the ball are wide together.  So it cannot
get past a paddle without having been beside it, and there it is turned round or it passes above or
below (`Game.guards_play`).

A wall turns the ball round whenever the ball is at it or beyond it, so also when it is already on
its way back (`Game.velY_of_atWall`).
-/
import Diorama.Pong
import Diorama.Proofs.Animating

namespace Diorama.Pong

variable {α : Type} [Scalar α]

/-! ## 1. Touching

Whether the ball touches a paddle is decided by comparing edges, without tolerance.  What it does
to the speeds is written as two equations, one for walls and one for paddles. -/

namespace Block

/-- The horizontal extents meet; touching counts. -/
def Abreast (a b : Block α) : Prop := Scalar.le a.x b.right = true ∧ Scalar.le b.x a.right = true

/-- The vertical extents meet; touching counts. -/
def Level (a b : Block α) : Prop := Scalar.le b.y a.bottom = true ∧ Scalar.le a.y b.bottom = true

/-- Two blocks overlap if they do so across and down. -/
theorem overlaps_iff (a b : Block α) : a.overlaps b = true ↔ a.Abreast b ∧ a.Level b := by
  simp only [overlaps, Abreast, Level, Bool.and_eq_true, and_assoc]

end Block

/-- The other side. -/
def Side.other : Side → Side
  | .player => .opponent
  | .opponent => .player

namespace Game

/-- The paddle of a side. -/
def paddle (g : Game α) : Side → Block α
  | .player => g.player
  | .opponent => g.opponent

/-- The ball passes the paddle of a side above or below. -/
def Passes (g : Game α) (s : Side) : Prop :=
  g.ball.Abreast (g.paddle s) ∧ ¬ g.ball.Level (g.paddle s)

/-- A ball that is beside a paddle and does not pass it touches it. -/
theorem overlaps_of_not_passes {g : Game α} {s : Side} (hpass : ¬ g.Passes s)
    (h : g.ball.Abreast (g.paddle s)) : g.ball.overlaps (g.paddle s) = true :=
  (Block.overlaps_iff _ _).2 ⟨h, not_not.1 fun hlevel => hpass ⟨h, hlevel⟩⟩

/-- The points of a side. -/
def points (g : Game α) : Side → Nat
  | .player => g.playerScore
  | .opponent => g.opponentScore

/-- The ball is at the wall above or beyond it, or at the one below. -/
def atWall (c : Court α) (g : Game α) : Bool :=
  Scalar.le g.ball.y c.top || Scalar.le c.bottom g.ball.bottom

/-! ## 2. A step in closed form

A step is a chain of functions of the game, each of which may turn the ball round.  Put together
they leave three numbers to look at: where the ball is, how fast it goes across, and how fast it
goes down. -/

variable (c : Court α)

/-- A wall changes only how fast the ball goes down. -/
theorem bounceWalls_eq (g : Game α) :
    g.bounceWalls c = { g with velY := if g.atWall c then -g.velY else g.velY } := by
  unfold bounceWalls atWall
  split
  · rfl
  · rfl

/-- How steeply the ball leaves a paddle. -/
def steepness (ball paddle : Block α) : α :=
  ((ball.middle - paddle.y) / paddle.height - 0.5) * c.ballSpeed

/-- A paddle changes both speeds, and only when the ball meets it: across, the ball is sent away
from the paddle, and down, by how far from the middle it was met. -/
theorem bouncePaddle_eq (sign : α) (paddle : Block α) (g : Game α) :
    g.bouncePaddle c sign paddle = { g with
      velX := if g.ball.overlaps paddle then sign * Scalar.abs g.velX else g.velX
      velY := if g.ball.overlaps paddle then steepness c g.ball paddle else g.velY } := by
  unfold bouncePaddle
  split
  · rfl
  · rfl

/-- The speed across that the paddles make of a speed across, with the pieces where they are: only a
paddle turns the ball back, and the opponent's has the last word. -/
def turnAcross (g : Game α) (v : α) : α :=
  let v := if g.ball.overlaps g.player then 1.0 * Scalar.abs v else v
  if g.ball.overlaps g.opponent then -1.0 * Scalar.abs v else v

/-- The speed down that walls and paddles make of a speed down: a paddle has the last word. -/
def turnDown (g : Game α) (v : α) : α :=
  if g.ball.overlaps g.opponent then steepness c g.ball g.opponent
  else if g.ball.overlaps g.player then steepness c g.ball g.player
  else if g.atWall c then -v else v

/-- Both speeds after walls and paddles, in one formula each. -/
theorem bounce_eq (g : Game α) :
    g.bounce c = { g with velX := g.turnAcross g.velX, velY := g.turnDown c g.velY } := by
  unfold bounce
  rw [bounceWalls_eq]
  dsimp only
  rw [bouncePaddle_eq, bouncePaddle_eq]
  rfl

section Play

variable (keys : Option Keys) (dt : α) (g : Game α)

/-- The paddles have moved. -/
def follow : Game α :=
  (match keys with
    | some keys => g.movePlayer c keys dt
    | none => g).moveOpponent c dt

/-- The paddles keep to their columns, and nothing else moves with them. -/
theorem follow_eq : g.follow c keys dt = { g with
    player := { g.player with y := (g.follow c keys dt).player.y }
    opponent := { g.opponent with y := (g.follow c keys dt).opponent.y } } := by
  cases keys <;> rfl

/-- **A step without its scoring in closed form.**  The paddles move in their columns, the ball
moves by its speed, and where they are then the ball is turned round. -/
theorem play_eq : g.play c keys dt = { g with
    player := { g.player with y := (g.follow c keys dt).player.y }
    opponent := { g.opponent with y := (g.follow c keys dt).opponent.y }
    ball := { g.ball with x := g.ball.x + g.velX * dt, y := g.ball.y + g.velY * dt }
    velX := (g.play c keys dt).turnAcross g.velX
    velY := (g.play c keys dt).turnDown c g.velY } := by
  have hplay : g.play c keys dt = ((g.follow c keys dt).moveBall dt).bounce c := rfl
  rw [hplay, bounce_eq, follow_eq]
  rfl

/-- The ball goes on by its speed of before: it is turned round after it was moved. -/
theorem play_ball : (g.play c keys dt).ball =
    { g.ball with x := g.ball.x + g.velX * dt, y := g.ball.y + g.velY * dt } := by
  rw [play_eq]

/-- How fast it goes across after a step. -/
theorem velX_play : (g.play c keys dt).velX = (g.play c keys dt).turnAcross g.velX := by
  conv_lhs => rw [play_eq]

/-- How fast it goes down after a step. -/
theorem velY_play : (g.play c keys dt).velY = (g.play c keys dt).turnDown c g.velY := by
  conv_lhs => rw [play_eq]

/-- No point is made while the ball is in play. -/
theorem points_play (s : Side) : (g.play c keys dt).points s = g.points s := by
  rw [play_eq]
  cases s <;> rfl

end Play

/-! ## 3. Points and serves

A point is made when the ball has left the court.  It is then served again, and `Court.Reached`
are the games that can come about in this way, with any keys, times and chances. -/

section Points

variable (direction slope : α) (g : Game α)

/-- A new game: the points are taken back and the ball is served. -/
def renew : Game α :=
  ({ g with playerScore := 0, opponentScore := 0 } : Game α).serve c direction slope

/-- The ball is in the middle. -/
def Centred (c : Court α) (g : Game α) : Prop :=
  g.ball.x = c.restingBall.x ∧ g.ball.y = c.restingBall.y

/-- A new game starts at nothing. -/
theorem points_renew (s : Side) : (g.renew c direction slope).points s = 0 := by
  cases s <;> rfl

/-- A point is counted for the winner only. -/
theorem points_score (winner s : Side) : (g.score c winner direction slope).points s =
    if s = winner then g.points s + 1 else g.points s := by
  cases winner <;> cases s <;> rfl

/-- A point is a serve, but for the score. -/
theorem score_eq (winner : Side) : g.score c winner direction slope =
    { g.serve c direction slope with
      playerScore := (g.score c winner direction slope).playerScore
      opponentScore := (g.score c winner direction slope).opponentScore } := by
  cases winner <;> rfl

/-- After a point the ball is in the middle. -/
theorem centred_score (winner : Side) : (g.score c winner direction slope).Centred c := by
  cases winner <;> exact ⟨rfl, rfl⟩

end Points

/-- All that a step can come to: the ball is in play, or a side has won a point with it. -/
theorem step_cases (keys : Option Keys) (dt direction slope : α) (g : Game α) :
    (g.play c keys dt).point? c = none ∧ g.step c keys dt direction slope = g.play c keys dt ∨
    ∃ winner, (g.play c keys dt).point? c = some winner ∧
      g.step c keys dt direction slope = (g.play c keys dt).score c winner direction slope := by
  unfold step
  dsimp only
  cases (g.play c keys dt).point? c with
  | none => exact .inl ⟨rfl, rfl⟩
  | some winner => exact .inr ⟨winner, rfl, rfl⟩

/-- The pieces of a game are those of the court: the paddles are in their columns, and all have
their sizes. -/
structure On (c : Court α) (g : Game α) : Prop where
  player : ∃ y, g.player = { c.playerPaddle with y }
  opponent : ∃ y, g.opponent = { c.opponentPaddle with y }
  ball : ∃ x y, g.ball = { c.restingBall with x, y }

section On

variable {c} {g : Game α}

/-- The paddles stay in their columns while they move. -/
theorem On.play (h : g.On c) (keys : Option Keys) (dt : α) : (g.play c keys dt).On c := by
  obtain ⟨⟨y, hy⟩, ⟨z, hz⟩, x, u, hx⟩ := h
  rw [play_eq]
  exact ⟨⟨_, by rw [hy]⟩, ⟨_, by rw [hz]⟩, _, _, by rw [hx]⟩

/-- A serve does not move the paddles. -/
theorem On.serve (h : g.On c) (direction slope : α) : (g.serve c direction slope).On c := by
  obtain ⟨hplayer, hopponent, x, y, hball⟩ := h
  exact ⟨hplayer, hopponent, _, _, congrArg
    (fun b : Block α => { b with x := c.restingBall.x, y := c.restingBall.y }) hball⟩

/-- A new game puts them there. -/
theorem On.renew (h : g.On c) (direction slope : α) : (g.renew c direction slope).On c :=
  On.serve (g := { g with playerScore := 0, opponentScore := 0 })
    ⟨h.player, h.opponent, h.ball⟩ direction slope

/-- A point leaves them there. -/
theorem On.score (h : g.On c) (winner : Side) (direction slope : α) :
    (g.score c winner direction slope).On c := by
  rw [score_eq]
  exact ⟨(h.serve direction slope).player, (h.serve direction slope).opponent,
    (h.serve direction slope).ball⟩

/-- So they are there after every step. -/
theorem On.step (h : g.On c) (keys : Option Keys) (dt direction slope : α) :
    (g.step c keys dt direction slope).On c := by
  rcases step_cases c keys dt direction slope g with ⟨-, he⟩ | ⟨winner, -, he⟩
  · exact he ▸ h.play keys dt
  · exact he ▸ (h.play keys dt).score winner direction slope

end On

end Game

/-- The games that can come about on a court with some chances: a new game is set up and started, as
often as it is entered, and goes on step by step. -/
inductive Court.Reached (c : Court α) (Chance : α → Prop) : Game α → Prop where
  | new : Reached c Chance c.newGame
  | renew {g : Game α} (h : Reached c Chance g) {direction slope : α} (hd : Chance direction)
      (hs : Chance slope) : Reached c Chance (g.renew c direction slope)
  | step {g : Game α} (h : Reached c Chance g) (keys : Option Keys) (dt : α) {direction slope : α}
      (hd : Chance direction) (hs : Chance slope) :
      Reached c Chance (g.step c keys dt direction slope)

/-- By induction, it is so in every game that can come about. -/
theorem Court.Reached.on {c : Court α} {Chance : α → Prop} {g : Game α}
    (h : c.Reached Chance g) : g.On c := by
  induction h with
  | new => exact ⟨⟨_, rfl⟩, ⟨_, rfl⟩, _, _, rfl⟩
  | renew _ _ _ ih => exact ih.renew _ _
  | step _ keys dt _ _ ih => exact ih.step keys dt _ _

/-! ## 4. Exact numbers

From here on numbers are exact.  A game is steady if the ball goes at full speed across and no
steeper than the bound, and fair if it also stays where it can be. -/

section Exact

variable (sine : Rat → Rat) (radian : Rat)

/-- Two blocks share a column, with exact numbers. -/
theorem Block.abreast_exact (a b : Block Rat) : letI := Scalar.exact sine radian
    a.Abreast b ↔ a.x ≤ b.x + b.width ∧ b.x ≤ a.x + a.width := by
  simp only [Abreast, Scalar.le_exact, decide_eq_true_eq]
  rfl

/-- Two blocks share a row, with exact numbers. -/
theorem Block.level_exact (a b : Block Rat) : letI := Scalar.exact sine radian
    a.Level b ↔ b.y ≤ a.y + a.height ∧ a.y ≤ b.y + b.height := by
  simp only [Level, Scalar.le_exact, decide_eq_true_eq]
  rfl

/-- A paddle that is kept between the walls. -/
theorem Block.keepIn_bounds {c : Court Rat} (b : Block Rat) (h : b.height ≤ c.height) :
    letI := Scalar.exact sine radian
    c.top ≤ (b.keepIn c).y ∧ (b.keepIn c).y ≤ c.top + c.height - b.height := by
  let _ := Scalar.exact sine radian
  change c.top ≤ Scalar.max c.top (Scalar.min (c.top + c.height - b.height) b.y) ∧
    Scalar.max c.top (Scalar.min (c.top + c.height - b.height) b.y) ≤ c.top + c.height - b.height
  rw [Scalar.max_exact, Scalar.min_exact]
  exact ⟨le_max_left _ _, max_le (by linarith) (min_le_left _ _)⟩

namespace Game

/-- The sizes of the pieces, and the columns of the paddles. -/
theorem On.exact {c : Court Rat} {g : Game Rat} : letI := Scalar.exact sine radian
    g.On c → (g.player.x = 50 ∧ g.player.width = 20 ∧ g.player.height = 100) ∧
      (g.opponent.x = c.width - 70 ∧ g.opponent.width = 20 ∧ g.opponent.height = 100) ∧
      g.ball.width = 20 ∧ g.ball.height = 20 := by
  let _ := Scalar.exact sine radian
  rintro ⟨⟨y, hy⟩, ⟨z, hz⟩, x, u, hx⟩
  have h20 : (20.0 : Rat) = 20 := by norm_num
  have h50 : (50.0 : Rat) = 50 := by norm_num
  have h70 : (70.0 : Rat) = 70 := by norm_num
  have h100 : (100.0 : Rat) = 100 := by norm_num
  rw [hy, hz, hx]
  exact ⟨⟨h50, h20, h100⟩, ⟨congrArg (c.width - ·) h70, h20, h100⟩, h20, h20⟩

/-- A side wins a point when the ball has left the court on the other side. -/
theorem point?_exact (c : Court Rat) (g : Game Rat) : letI := Scalar.exact sine radian
    g.point? c = if g.ball.x + g.ball.width < 0 then some .opponent
      else if c.width < g.ball.x then some .player else none := by
  have h0 : (0.0 : Rat) = 0 := by norm_num
  simp only [point?, Scalar.lt_exact, decide_eq_true_eq, h0]
  rfl

/-- The ball is at a wall or beyond it. -/
theorem atWall_exact (c : Court Rat) (g : Game Rat) : letI := Scalar.exact sine radian
    g.atWall c = true ↔ g.ball.y ≤ c.top ∨ c.top + c.height ≤ g.ball.y + g.ball.height := by
  simp only [atWall, Scalar.le_exact, Bool.or_eq_true, decide_eq_true_eq]
  rfl

/-- What the paddles make of the speed across. -/
theorem turnAcross_exact (g : Game Rat) (v : Rat) : letI := Scalar.exact sine radian
    g.turnAcross v = if g.ball.overlaps g.opponent then -|v|
      else if g.ball.overlaps g.player then |v| else v := by
  let _ := Scalar.exact sine radian
  have h1 : (1.0 : Rat) = 1 := by norm_num
  have hminus : (-1.0 : Rat) = -1 := by norm_num
  have hopponent (v : Rat) : (-1.0 : Rat) * Scalar.abs v = -|v| := by
    rw [Scalar.abs_exact, hminus, neg_one_mul]
  have hplayer : (1.0 : Rat) * Scalar.abs v = |v| := by
    rw [Scalar.abs_exact, h1, one_mul]
  change (if g.ball.overlaps g.opponent then (-1.0 : Rat) * Scalar.abs
      (if g.ball.overlaps g.player then (1.0 : Rat) * Scalar.abs v else v) else
      (if g.ball.overlaps g.player then (1.0 : Rat) * Scalar.abs v else v)) = _
  rw [hplayer, hopponent]
  split <;> split <;> simp

/-- Turning the ball round makes it neither faster nor slower across. -/
theorem abs_turnAcross (g : Game Rat) (v : Rat) : letI := Scalar.exact sine radian
    |g.turnAcross v| = |v| := by
  rw [turnAcross_exact]
  split
  · rw [abs_neg, abs_abs]
  · split
    · exact abs_abs v
    · rfl

/-- A ball that touches a paddle is at most three fifths of the paddle's height away from its
middle. -/
theorem abs_steepness_le (c : Court Rat) {ball paddle : Block Rat} (hball : ball.height = 20)
    (hpaddle : paddle.height = 100) : letI := Scalar.exact sine radian
    ball.overlaps paddle = true → |steepness c ball paddle| ≤ 3 / 5 * |c.ballSpeed| := by
  let _ := Scalar.exact sine radian
  intro h
  obtain ⟨habove, hbelow⟩ := (Block.level_exact sine radian ball paddle).1
    ((Block.overlaps_iff ball paddle).1 h).2
  change |((ball.y + ball.height / 2.0 - paddle.y) / paddle.height - 0.5) * c.ballSpeed| ≤ _
  rw [abs_mul]
  refine mul_le_mul_of_nonneg_right ?_ (abs_nonneg _)
  rw [hball, hpaddle] at *
  rw [abs_le]
  norm_num
  constructor <;> linarith

end Game

/-! ## 5. Bounds

`Court.Fair` has all that is bounded in a game.  A step keeps it as long as the ball is in play,
and a serve keeps it because the ball starts in the middle with a slope below the steepest. -/

/-- The paddles are on the court, and the ball has the speed of the court across and at most three
fifths of it down. -/
structure Court.Steady (c : Court Rat) (g : Game Rat) : Prop where
  player : c.top ≤ g.player.y ∧ g.player.y ≤ c.top + c.height - 100
  opponent : c.top ≤ g.opponent.y ∧ g.opponent.y ≤ c.top + c.height - 100
  across : |g.velX| = |c.ballSpeed|
  down : |g.velY| ≤ 3 / 5 * |c.ballSpeed|

/-- The bounds that a game is in between two steps. -/
structure Court.Fair (c : Court Rat) (g : Game Rat) : Prop extends Court.Steady c g where
  ball : -20 ≤ g.ball.x ∧ g.ball.x ≤ c.width

section Bounds

variable {c : Court Rat}

/-- The middle of the court, for a ball of twenty pixels. -/
theorem Court.restingBall_x : letI := Scalar.exact sine radian
    c.restingBall.x = c.width / 2 - 10 := by
  change c.width / 2.0 - 10.0 = _
  norm_num

/-- A ball in the middle is on the court. -/
theorem Court.restingBall_bounds (hwidth : 0 ≤ c.width) : letI := Scalar.exact sine radian
    (-20 : Rat) ≤ c.restingBall.x ∧ c.restingBall.x ≤ c.width := by
  rw [restingBall_x]
  constructor <;> linarith

/-- A new game is fair before the first serve. -/
theorem Court.fair_newGame (hwidth : 0 ≤ c.width) (hheight : 100 ≤ c.height) :
    letI := Scalar.exact sine radian
    c.Fair c.newGame := by
  let _ := Scalar.exact sine radian
  have hpaddle : c.top ≤ c.top + c.height / 2.0 - 50.0 ∧
      c.top + c.height / 2.0 - 50.0 ≤ c.top + c.height - 100 := by
    norm_num
    constructor <;> linarith
  refine ⟨⟨hpaddle, hpaddle, rfl, ?_⟩, restingBall_bounds sine radian hwidth⟩
  change |(0.0 : Rat)| ≤ _
  have h0 : (0.0 : Rat) = 0 := by norm_num
  rw [h0, abs_zero]
  positivity

/-- However the serve goes, the ball has the speed of the court. -/
theorem Game.abs_velX_serve (direction slope : Rat) (g : Game Rat) :
    letI := Scalar.exact sine radian
    |(g.serve c direction slope).velX| = |c.ballSpeed| := by
  let _ := Scalar.exact sine radian
  have h1 : (1.0 : Rat) = 1 := by norm_num
  change |c.ballSpeed * (if Scalar.lt (0.5 : Rat) direction then (1.0 : Rat) else (-1.0 : Rat))| = _
  rw [h1]
  split
  · rw [mul_one]
  · rw [mul_neg_one, abs_neg]

/-- **In every game the ball has the speed of the court across**, to the left or to the right. -/
theorem Court.Reached.abs_velX {Chance : Rat → Prop} {g : Game Rat} :
    letI := Scalar.exact sine radian
    c.Reached Chance g → |g.velX| = |c.ballSpeed| := by
  let _ := Scalar.exact sine radian
  intro h
  induction h with
  | new => rfl
  | renew _ _ _ _ => exact Game.abs_velX_serve sine radian _ _ _
  | @step g _ keys dt direction slope _ _ ih =>
    rcases Game.step_cases c keys dt direction slope g with ⟨-, he⟩ | ⟨winner, -, he⟩
    · rw [he, Game.velX_play, Game.abs_turnAcross, ih]
    · rw [he, Game.score_eq]
      exact Game.abs_velX_serve sine radian direction slope (g.play c keys dt)

/-- A serve goes out at full speed across, from the middle, and no steeper than the bound on all
slopes. -/
theorem Court.Steady.serve {g : Game Rat} (h : c.Steady g) (hwidth : 0 ≤ c.width)
    (direction : Rat) {slope : Rat} (hslope : 0 ≤ slope ∧ slope < 1) :
    letI := Scalar.exact sine radian
    c.Fair (g.serve c direction slope) := by
  let _ := Scalar.exact sine radian
  refine ⟨⟨h.player, h.opponent, Game.abs_velX_serve sine radian direction slope g, ?_⟩,
    restingBall_bounds sine radian hwidth⟩
  change |(slope - 0.5) * c.ballSpeed * 0.5| ≤ _
  have hhalf : |slope - 1 / 2| ≤ 1 / 2 := abs_le.2 ⟨by linarith, by linarith⟩
  have hspeed := mul_le_mul_of_nonneg_right hhalf (abs_nonneg c.ballSpeed)
  have heq : (slope - 0.5) * c.ballSpeed * 0.5 = (slope - 1 / 2) * c.ballSpeed * (1 / 2) := by
    norm_num
  rw [heq, abs_mul, abs_mul, abs_of_nonneg (by norm_num : (0 : Rat) ≤ 1 / 2)]
  linarith [abs_nonneg c.ballSpeed]

/-- To start anew is fair, whatever the score was. -/
theorem Court.Fair.renew {g : Game Rat} (h : c.Fair g) (hwidth : 0 ≤ c.width)
    (direction : Rat) {slope : Rat} (hslope : 0 ≤ slope ∧ slope < 1) :
    letI := Scalar.exact sine radian
    c.Fair (g.renew c direction slope) :=
  Court.Steady.serve sine radian (g := { g with playerScore := 0, opponentScore := 0 })
    ⟨h.player, h.opponent, h.across, h.down⟩ hwidth direction hslope

/-- A point is followed by a serve. -/
theorem Court.Steady.score {g : Game Rat} (h : c.Steady g) (hwidth : 0 ≤ c.width)
    (winner : Side) (direction : Rat) {slope : Rat} (hslope : 0 ≤ slope ∧ slope < 1) :
    letI := Scalar.exact sine radian
    c.Fair (g.score c winner direction slope) := by
  let _ := Scalar.exact sine radian
  have hserve := h.serve sine radian hwidth direction hslope
  rw [Game.score_eq]
  exact ⟨⟨hserve.player, hserve.opponent, hserve.across, hserve.down⟩, hserve.ball⟩

/-- The paddles are kept on the court.  Each paddle is put back onto the court after it was moved;
only a player without keys is not moved at all, and then it is where it was. -/
theorem Game.follow_bounds {g : Game Rat} (keys : Option Keys) (dt : Rat)
    (hheight : 100 ≤ c.height) : letI := Scalar.exact sine radian
    g.On c → c.Steady g →
      (c.top ≤ (g.follow c keys dt).player.y ∧
        (g.follow c keys dt).player.y ≤ c.top + c.height - 100) ∧
      c.top ≤ (g.follow c keys dt).opponent.y ∧
        (g.follow c keys dt).opponent.y ≤ c.top + c.height - 100 := by
  let _ := Scalar.exact sine radian
  intro hon h
  obtain ⟨⟨-, -, hplayer⟩, ⟨-, -, hopponent⟩, -⟩ := On.exact sine radian hon
  have hkeep (b : Block Rat) (hb : b.height = 100) :
      c.top ≤ (b.keepIn c).y ∧ (b.keepIn c).y ≤ c.top + c.height - 100 := by
    have := Block.keepIn_bounds sine radian b (c := c) (hb ▸ hheight)
    rwa [hb] at this
  refine ⟨?_, ?_⟩
  · cases keys with
    | none => exact h.player
    | some keys => exact hkeep _ hplayer
  · cases keys with
    | none => exact hkeep _ hopponent
    | some keys => exact hkeep _ hopponent

/-- The paddles are kept between the walls, and the ball leaves a paddle no steeper than its edge
allows. -/
theorem Court.Steady.play {g : Game Rat} (h : c.Steady g) (keys : Option Keys) (dt : Rat)
    (hheight : 100 ≤ c.height) : letI := Scalar.exact sine radian
    g.On c → c.Steady (g.play c keys dt) := by
  let _ := Scalar.exact sine radian
  intro hon
  obtain ⟨hplayer, hopponent⟩ := Game.follow_bounds sine radian keys dt hheight hon h
  obtain ⟨⟨-, -, hleft⟩, ⟨-, -, hright⟩, -, hball⟩ := Game.On.exact sine radian (hon.play keys dt)
  refine ⟨?_, ?_, ?_, ?_⟩
  · rw [Game.play_eq]
    exact hplayer
  · rw [Game.play_eq]
    exact hopponent
  · rw [Game.velX_play, Game.abs_turnAcross, h.across]
  · rw [Game.velY_play, Game.turnDown]
    split
    · next ht => exact Game.abs_steepness_le sine radian c hball hright ht
    · split
      · next ht => exact Game.abs_steepness_le sine radian c hball hleft ht
      · split
        · rw [abs_neg]
          exact h.down
        · exact h.down

/-- **One step keeps a game in its bounds.** A step without a point has left the ball on the
court, by the very test for a point; a step with one serves from the middle. -/
theorem Court.Fair.step {g : Game Rat} (h : c.Fair g) (keys : Option Keys) (dt direction : Rat)
    {slope : Rat} (hwidth : 0 ≤ c.width) (hheight : 100 ≤ c.height)
    (hslope : 0 ≤ slope ∧ slope < 1) : letI := Scalar.exact sine radian
    g.On c → c.Fair (g.step c keys dt direction slope) := by
  let _ := Scalar.exact sine radian
  intro hon
  have hplay := h.toSteady.play sine radian keys dt hheight hon
  obtain ⟨-, -, hball, -⟩ := Game.On.exact sine radian (hon.play keys dt)
  rcases Game.step_cases c keys dt direction slope g with ⟨hnone, he⟩ | ⟨winner, -, he⟩
  · rw [he]
    rw [Game.point?_exact, hball] at hnone
    refine ⟨hplay, ?_⟩
    by_cases hleft : (g.play c keys dt).ball.x + 20 < 0
    · rw [if_pos hleft] at hnone
      cases hnone
    · rw [if_neg hleft] at hnone
      by_cases hright : c.width < (g.play c keys dt).ball.x
      · rw [if_pos hright] at hnone
        cases hnone
      · exact ⟨by linarith, not_lt.1 hright⟩
  · rw [he]
    exact hplay.score sine radian hwidth winner direction hslope

/-- **Every game that can come about is in its bounds.** -/
theorem Court.Reached.fair (hwidth : 0 ≤ c.width) (hheight : 100 ≤ c.height)
    {Chance : Rat → Prop} (hchance : ∀ x, Chance x → 0 ≤ x ∧ x < 1) {g : Game Rat} :
    letI := Scalar.exact sine radian
    c.Reached Chance g → c.Fair g := by
  let _ := Scalar.exact sine radian
  intro h
  induction h with
  | new => exact fair_newGame sine radian hwidth hheight
  | renew _ _ hs ih => exact ih.renew sine radian hwidth _ (hchance _ hs)
  | step h keys dt _ hs ih =>
    exact ih.step sine radian keys dt _ hwidth hheight (hchance _ hs) h.on

end Bounds

/-! ## 6. Passing a paddle

A paddle guards its side as long as the ball is on the inner side of it, or beside it and on the
way back.  No point is won on a side that is guarded; and what ends the guard is a step in which
the ball passes the paddle above or below it. -/

namespace Game

/-- The ball is on the inner side of a paddle's column, or beside the paddle and on its way back. -/
def Guards (c : Court Rat) (g : Game Rat) : Side → Prop
  | .player => 70 < g.ball.x ∨ 30 ≤ g.ball.x ∧ 0 ≤ g.velX
  | .opponent => g.ball.x < c.width - 90 ∨ g.ball.x ≤ c.width - 50 ∧ g.velX ≤ 0

section Guards

variable {c : Court Rat} {g : Game Rat}

/-- After a serve the ball is inside of both paddles. -/
theorem guards_serve (hwidth : 160 < c.width) (direction slope : Rat) (s : Side) :
    letI := Scalar.exact sine radian
    (g.serve c direction slope).Guards c s := by
  let _ := Scalar.exact sine radian
  have hx : (g.serve c direction slope).ball.x = c.width / 2 - 10 :=
    Court.restingBall_x sine radian
  cases s with
  | player =>
    left
    rw [hx]
    linarith
  | opponent =>
    left
    rw [hx]
    linarith

/-- No side wins a point past a paddle that guards. -/
theorem Guards.point?_ne {s : Side} (h : g.Guards c s) : letI := Scalar.exact sine radian
    g.On c → g.point? c ≠ some s.other := by
  let _ := Scalar.exact sine radian
  intro hon
  obtain ⟨-, -, hball, -⟩ := On.exact sine radian hon
  rw [point?_exact, hball]
  cases s with
  | player =>
    have hx : ¬ g.ball.x + 20 < 0 := by
      rcases h with h | ⟨h, -⟩ <;> linarith
    rw [if_neg hx]
    split <;> simp [Side.other]
  | opponent =>
    have hx : ¬ c.width < g.ball.x := by
      rcases h with h | ⟨h, -⟩ <;> linarith
    rw [if_neg hx]
    split <;> simp [Side.other]

/-- **In a frame the ball does not get past a paddle that guards without being beside it.**  It goes
40 at most, and that is how wide the ball and a paddle are together. -/
theorem guards_play (keys : Option Keys) {dt : Rat} {s : Side} (hwidth : 160 < c.width)
    (hspeed : |g.velX| ≤ 400) (hdt : 0 ≤ dt ∧ dt ≤ 1 / 10) (hg : g.Guards c s) :
    letI := Scalar.exact sine radian
    g.On c → ¬ (g.play c keys dt).Passes s → (g.play c keys dt).Guards c s := by
  let _ := Scalar.exact sine radian
  intro hon hpass
  obtain ⟨⟨hpx, hpw, -⟩, ⟨hox, how, -⟩, hbw, -⟩ := On.exact sine radian (hon.play keys dt)
  have hvel := (velX_play c keys dt g).trans (turnAcross_exact sine radian _ _)
  have hx : (g.play c keys dt).ball.x = g.ball.x + g.velX * dt := by
    rw [play_ball]
  obtain ⟨hlow, hhigh⟩ := abs_le.1 hspeed
  have hdown : -40 ≤ g.velX * dt := by nlinarith
  have hup : g.velX * dt ≤ 40 := by nlinarith
  have hover := overlaps_of_not_passes hpass
  rw [Block.abreast_exact] at hover
  generalize g.play c keys dt = g' at *
  cases s with
  | player =>
    rcases lt_or_ge 70 g'.ball.x with hfar | hnear
    · exact .inl hfar
    · have h30 : 30 ≤ g'.ball.x := by
        rcases hg with hg | ⟨hg, hback⟩
        · linarith
        · have := mul_nonneg hback hdt.1
          linarith
      refine .inr ⟨h30, ?_⟩
      have htouch : g'.ball.overlaps g'.player = true := by
        refine hover ⟨?_, ?_⟩ <;> simp only [paddle] <;> linarith
      have hfree : ¬ g'.ball.overlaps g'.opponent = true := by
        intro h
        have := ((Block.abreast_exact sine radian _ _).1 ((Block.overlaps_iff _ _).1 h).1).2
        linarith
      rw [hvel, if_neg hfree, if_pos htouch]
      exact abs_nonneg _
  | opponent =>
    rcases lt_or_ge g'.ball.x (c.width - 90) with hfar | hnear
    · exact .inl hfar
    · have h50 : g'.ball.x ≤ c.width - 50 := by
        rcases hg with hg | ⟨hg, hback⟩
        · linarith
        · have := mul_nonpos_of_nonpos_of_nonneg hback hdt.1
          linarith
      refine .inr ⟨h50, ?_⟩
      have htouch : g'.ball.overlaps g'.opponent = true := by
        refine hover ⟨?_, ?_⟩ <;> simp only [paddle] <;> linarith
      rw [hvel, if_pos htouch]
      exact neg_nonpos.2 (abs_nonneg _)

/-- While the ball passes the paddle of one side, the point is not won by the other. -/
theorem Passes.point?_ne {s : Side} : letI := Scalar.exact sine radian
    g.Passes s → g.On c → g.point? c ≠ some s.other := by
  let _ := Scalar.exact sine radian
  intro h hon
  obtain ⟨⟨hpx, hpw, -⟩, ⟨hox, how, -⟩, hball, -⟩ := On.exact sine radian hon
  obtain ⟨hleft, hright⟩ := (Block.abreast_exact sine radian _ _).1 h.1
  rw [point?_exact, hball]
  cases s with
  | player =>
    simp only [paddle] at hright
    have hx : ¬ g.ball.x + 20 < 0 := by linarith
    rw [if_neg hx]
    split <;> simp [Side.other]
  | opponent =>
    simp only [paddle] at hleft
    have hx : ¬ c.width < g.ball.x := by linarith
    rw [if_neg hx]
    split <;> simp [Side.other]

/-- **In a step the ball passes a paddle that guards, or the paddle still guards after it**; and in
neither case has the other side won a point. -/
theorem guards_step (keys : Option Keys) {dt : Rat} {s : Side} (hwidth : 160 < c.width)
    (hspeed : |g.velX| ≤ 400) (hdt : 0 ≤ dt ∧ dt ≤ 1 / 10) (hg : g.Guards c s)
    (direction slope : Rat) : letI := Scalar.exact sine radian
    g.On c → (g.step c keys dt direction slope).points s.other = g.points s.other ∧
      ((g.play c keys dt).Passes s ∨ (g.step c keys dt direction slope).Guards c s) := by
  let _ := Scalar.exact sine radian
  intro hon
  have hcases : (g.play c keys dt).Passes s ∨ (g.play c keys dt).Guards c s := by
    by_cases hpass : (g.play c keys dt).Passes s
    · exact .inl hpass
    · exact .inr (guards_play sine radian keys hwidth hspeed hdt hg hon hpass)
  have hno : (g.play c keys dt).point? c ≠ some s.other :=
    hcases.elim (fun h => Passes.point?_ne sine radian h (hon.play keys dt))
      fun h => h.point?_ne sine radian (hon.play keys dt)
  rcases step_cases c keys dt direction slope g with ⟨-, he⟩ | ⟨winner, hpoint, he⟩
  · rw [he]
    exact ⟨points_play c keys dt g s.other, hcases⟩
  · have hne : ¬ s.other = winner := by
      rintro rfl
      exact hno hpoint
    rw [he, points_score, if_neg hne, points_play, score_eq]
    exact ⟨rfl, .inr (guards_serve sine radian hwidth direction slope s)⟩

end Guards

/-! ## 7. Walls

A wall reverses the speed down whenever the ball is at it or beyond it (`_bounce`). -/

section Walls

variable {c : Court Rat} {g : Game Rat}

/-- At a wall or beyond it a ball that touches no paddle is turned round, wherever it came from. -/
theorem velY_of_atWall (keys : Option Keys) (dt : Rat) : letI := Scalar.exact sine radian
    (∀ s, (g.play c keys dt).ball.overlaps ((g.play c keys dt).paddle s) = false) →
      (g.play c keys dt).atWall c = true → (g.play c keys dt).velY = -g.velY := by
  let _ := Scalar.exact sine radian
  intro hfree hwall
  have hplayer : (g.play c keys dt).ball.overlaps (g.play c keys dt).player = false :=
    hfree .player
  have hopponent : (g.play c keys dt).ball.overlaps (g.play c keys dt).opponent = false :=
    hfree .opponent
  rw [velY_play, turnDown, hplayer, hopponent, hwall]
  rfl

/-- A ball that was turned round at a wall goes back where it came from in the same time. -/
theorem ball_y_of_turned (keys keys' : Option Keys) (dt dt' : Rat) :
    letI := Scalar.exact sine radian
    (g.play c keys dt).velY = -g.velY →
      ((g.play c keys dt).play c keys' dt').ball.y = g.ball.y - g.velY * (dt' - dt) := by
  let _ := Scalar.exact sine radian
  intro hturn
  have hy : (g.play c keys dt).ball.y = g.ball.y + g.velY * dt := by
    rw [play_ball]
  have hy' : ((g.play c keys dt).play c keys' dt').ball.y =
      (g.play c keys dt).ball.y + (g.play c keys dt).velY * dt' := by
    conv_lhs => rw [play_ball]
  rw [hy', hturn, hy]
  ring

/-- **A ball that comes from the court to the wall above is sent back**, and a frame that is no
shorter brings it back from there. -/
theorem back_from_top (keys : Option Keys) {dt : Rat} (hdt : 0 ≤ dt) (hin : c.top < g.ball.y) :
    letI := Scalar.exact sine radian
    (g.play c keys dt).ball.y ≤ c.top → (g.play c keys dt).velY = -g.velY →
      0 < (g.play c keys dt).velY ∧ ∀ keys' dt', dt ≤ dt' →
        c.top < ((g.play c keys dt).play c keys' dt').ball.y := by
  let _ := Scalar.exact sine radian
  intro hwall hturn
  have hy : (g.play c keys dt).ball.y = g.ball.y + g.velY * dt := by
    rw [play_ball]
  have hup : g.velY < 0 := by
    by_contra hvel
    have := mul_nonneg (not_lt.1 hvel) hdt
    linarith
  refine ⟨by linarith, fun keys' dt' hlonger => ?_⟩
  have := mul_nonpos_of_nonpos_of_nonneg hup.le (sub_nonneg.2 hlonger)
  rw [ball_y_of_turned sine radian keys keys' dt dt' hturn]
  linarith

/-- The same for the wall below.  The ball moves down when it meets the wall, so its old speed was
positive; after the turn it moves up by at least what it had moved down. -/
theorem back_from_bottom (keys : Option Keys) {dt : Rat} (hdt : 0 ≤ dt)
    (hin : g.ball.y + g.ball.height < c.top + c.height) : letI := Scalar.exact sine radian
    c.top + c.height ≤ (g.play c keys dt).ball.y + (g.play c keys dt).ball.height →
      (g.play c keys dt).velY = -g.velY → (g.play c keys dt).velY < 0 ∧ ∀ keys' dt', dt ≤ dt' →
        ((g.play c keys dt).play c keys' dt').ball.y +
          ((g.play c keys dt).play c keys' dt').ball.height < c.top + c.height := by
  let _ := Scalar.exact sine radian
  intro hwall hturn
  have hy : (g.play c keys dt).ball.y = g.ball.y + g.velY * dt := by
    rw [play_ball]
  have hheight (g : Game Rat) (keys : Option Keys) (dt : Rat) :
      (g.play c keys dt).ball.height = g.ball.height := by
    rw [play_ball]
  rw [hheight] at hwall
  have hdown : 0 < g.velY := by
    by_contra hvel
    have := mul_nonpos_of_nonpos_of_nonneg (not_lt.1 hvel) hdt
    linarith
  refine ⟨by linarith, fun keys' dt' hlonger => ?_⟩
  have := mul_nonneg hdown.le (sub_nonneg.2 hlonger)
  rw [ball_y_of_turned sine radian keys keys' dt dt' hturn, hheight, hheight]
  linarith

end Walls

end Game

end Exact

end Diorama.Pong
