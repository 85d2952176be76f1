/-
# Fair play

What can be relied on in a match, however it is played: with any keys, any times and any chances,
and however often its scene is left and entered again.  The numbers are exact.

The bounds of the rules hold in every world of a run, and the score that is shown is that of the
game (`fair_play`).  A side wins no point past a paddle that the ball was not beside
(`passed_before_point`).  And a wall turns the ball round whenever the ball is at it
(`turned_at_walls`), which brings it back into the court if it came from there, and sends it farther
out if it was on its way back already.
-/
import Diorama.Proofs.World.Hosting

namespace Diorama

open Act Pong

deriving instance DecidableEq for Block, Game

namespace World

/-! ## 1. Bounds and scores

`Court.Fair` was shown of every step of a game; the world adds that a scene may be left and
entered again at any time, and that frames are cut to a longest one. -/

/-- No point is won from one game to the next, or one side wins one point and the ball is back in
the middle. -/
def ScoresOnce {α : Type} [Scalar α] (c : Court α) (g g' : Game α) : Prop :=
  (∀ s, g'.points s = g.points s) ∨
    ∃ winner, (∀ s, g'.points s = if s = winner then g.points s + 1 else g.points s) ∧ g'.Centred c

theorem scoresOnce_step {α : Type} [Scalar α] (c : Court α) (keys : Option Keys) (dt d s : α)
    (g : Game α) : ScoresOnce c g (g.step c keys dt d s) := by
  rcases Game.step_cases c keys dt d s g with ⟨-, he⟩ | ⟨winner, -, he⟩
  · exact .inl fun side => by rw [he, Game.points_play]
  · refine .inr ⟨winner, fun side => ?_, he ▸ Game.centred_score c d s _ winner⟩
    rw [he, Game.points_score, Game.points_play]

/-- **A match stays within its bounds in every run**, whatever is asked of its world, and however
that ends.  A scene has a game while it is the current one, and keeps it.  Of every game, the
paddles are on the court, the ball has the speed of the court across and at most three fifths of it
down, it has not left the court by more than its own width, and the text above the court tells the
score.

From one deed to the next at most one point is won, and then the ball is back in the middle;
unless a new game has started.  In an update of the scene itself that happens only if the escape key
leads back to it. -/
theorem fair_play [Host Rat] (sine : Rat → Rat) (radian : Rat) : letI := Scalar.exact sine radian
    ∀ {start : World Rat} {n : Nat} {name : String} {c : Court Rat} {escapeTo : Value Rat},
      start.Fresh → start.Unplayed → start.scenes[n]? = some (.pong name c escapeTo) →
      (∀ k, 0 ≤ start.depot.device.chances k ∧ start.depot.device.chances k < 1) →
      0 ≤ c.width → 100 ≤ c.height → ∀ deeds : List (Deed Rat),
      ((askAll deeds start).current = some n → ∃ g, (askAll deeds start).game? n = some g) ∧
      (∀ g, (askAll deeds start).game? n = some g →
        c.Fair g ∧ (askAll deeds start).board? n = some g.board) ∧
      ∀ (deed : Deed Rat) (g : Game Rat), (askAll deeds start).game? n = some g →
        ∃ g', (deed.ask.after (askAll deeds start)).game? n = some g' ∧
          (ScoresOnce c g g' ∨
          ((∀ s, g'.points s = 0) ∧ g'.Centred c ∧
            (deed.time?.isSome → (askAll deeds start).current = some n →
              (askAll deeds start).LeadsBack n escapeTo))) := by
  let _ := Scalar.exact sine radian
  intro start n name c escapeTo hfresh hunplayed hscene hchance hwidth hheight deeds
  have hstart : start.Hosts n c escapeTo fun x => 0 ≤ x ∧ x < 1 :=
    hfresh.hosts hunplayed hchance hscene
  have hhosts := hstart.askAll deeds
  refine ⟨fun hn => ?_, fun g hg => ?_, fun deed g hg => ?_⟩
  · obtain ⟨q, g, hmatch⟩ := hhosts.exists_match hn
    exact ⟨g, hmatch.laid.game?⟩
  · obtain ⟨q, hmatch⟩ := hhosts.match_of_game? hg
    exact ⟨hmatch.reached.fair sine radian hwidth hheight fun _ h => h, hmatch.laid.board?⟩
  · rcases (hhosts.evolves deed).game with hsame | ⟨⟨g₀, d, s, hnew⟩, hback⟩ | ⟨-, dt, -, hstep⟩
    · exact ⟨g, hsame.trans hg, .inl (.inl fun _ => rfl)⟩
    · exact ⟨_, hnew, .inr ⟨Game.points_renew c d s g₀, ⟨rfl, rfl⟩, hback⟩⟩
    · obtain ⟨g₁, d, s, -, -, hg₁, hstep⟩ := hstep
      rw [hg] at hg₁
      cases hg₁
      exact ⟨_, hstep, .inl (scoresOnce_step c _ dt d s g)⟩

/-! A court without any width, where every ball is a point, and whose escape key leads to itself. -/

/-- A world whose only scene is a game. -/
def arcade (c : Court Rat) (escapeTo : String) (chances : Nat → Rat) : World Rat :=
  { house with
    depot := { device := { frameRate := 60, chances } }
    scenes := #[.pong "Pong" c (.text escapeTo)]
    registry := [("Pong", 0)] }

theorem fresh_arcade (c : Court Rat) (escapeTo : String) (chances : Nat → Rat) :
    (arcade c escapeTo chances).Fresh where
  parts := rfl
  idle := rfl
  blank := rfl
  untouched
    | 0, _, h => by cases h
    | _ + 1, _, h => by simp [script?, arcade] at h

theorem scene_arcade (c : Court Rat) (escapeTo : String) (chances : Nat → Rat) :
    (arcade c escapeTo chances).scenes[0]? = some (.pong "Pong" c (.text escapeTo)) := rfl

theorem unplayed_arcade (c : Court Rat) (escapeTo : String) (chances : Nat → Rat) :
    (arcade c escapeTo chances).Unplayed := by
  intro n s p hs hr
  cases n with
  | zero =>
    cases hs
    cases hr
    exact ⟨rfl, rfl⟩
  | succ n => simp [arcade] at hs

def slit : Court Rat := .centred 0 100 100 400 600

/-- Serves go to the right. -/
def toTheRight (k : Nat) : Rat := if k % 2 = 0 then 9 / 10 else 1 / 2

theorem toTheRight_bounds (k : Nat) : 0 ≤ toTheRight k ∧ toTheRight k < 1 := by
  unfold toTheRight
  split <;> norm_num

/-- The game is entered, a frame passes, and the escape key is pressed. -/
def playAndEscape : List (Deed Rat) :=
  [.operate (.switchTo (.text "Pong")), .operate (.pass (1 / 10)),
   .operate (.events [.keyDown Key.escape])]

/-- The point is won, and the score is shown. -/
theorem fair_play_slit : letI := Scalar.exact (fun x => x) 57
    ∃ g, (askAll (playAndEscape.take 2) (arcade slit "Pong" toTheRight)).game? 0 = some g ∧
      slit.Fair g ∧ g.board = "1 - 0" ∧
      (askAll (playAndEscape.take 2) (arcade slit "Pong" toTheRight)).board? 0 =
        some "1 - 0" := by
  let _ := Scalar.exact (fun x => x) 57
  obtain ⟨hplays, hfair, -⟩ := fair_play (fun x => x) 57 (fresh_arcade slit "Pong" toTheRight)
    (unplayed_arcade _ _ _) (scene_arcade _ _ _) toTheRight_bounds (by decide +kernel)
    (by decide +kernel) (playAndEscape.take 2)
  obtain ⟨g, hg⟩ := hplays (by decide +kernel)
  have hone : ((askAll (playAndEscape.take 2) (arcade slit "Pong" toTheRight)).game? 0).map
      Game.board = some "1 - 0" := by decide +kernel
  rw [hg] at hone
  have hboard : g.board = "1 - 0" := Option.some.inj hone
  exact ⟨g, hg, (hfair g hg).1, hboard, hboard ▸ (hfair g hg).2⟩

/-- **An update can take a point away.**  The escape key leads from the scene to itself, and the
score goes from 1 - 0 to 0 - 0. -/
theorem point_lost_in_update :
    ∃ (start : World Rat) (c : Court Rat) (deeds : List (Deed Rat)) (dt : Rat) (g g' : Game Rat),
      start.Fresh ∧ start.Unplayed ∧ start.scenes[0]? = some (.pong "Pong" c (.text "Pong")) ∧
      (∀ k, 0 ≤ start.depot.device.chances k ∧ start.depot.device.chances k < 1) ∧
      0 ≤ c.width ∧ 100 ≤ c.height ∧ (askAll deeds start).game? 0 = some g ∧
      ((tick dt).after (askAll deeds start)).game? 0 = some g' ∧ ¬ ScoresOnce c g g' := by
  have hbefore : ((askAll playAndEscape (arcade slit "Pong" toTheRight)).game? 0).map
      (·.playerScore) = some 1 := by decide +kernel
  have hafter : (((tick (1 / 10)).after (askAll playAndEscape
      (arcade slit "Pong" toTheRight))).game? 0).map (·.playerScore) = some 0 := by decide +kernel
  obtain ⟨g, hg, hone⟩ := Option.map_eq_some_iff.1 hbefore
  obtain ⟨g', hg', hzero⟩ := Option.map_eq_some_iff.1 hafter
  refine ⟨_, slit, playAndEscape, 1 / 10, g, g', fresh_arcade _ _ _, unplayed_arcade _ _ _,
    scene_arcade _ _ _, toTheRight_bounds, by decide +kernel, by decide +kernel, hg, hg', ?_⟩
  have hlost : g'.points .player + 1 = g.points .player := by
    change g'.playerScore + 1 = g.playerScore
    rw [hone, hzero]
  rintro (hsame | ⟨winner, hwins, -⟩)
  · have := hsame .player
    omega
  · have := hwins .player
    split at this <;> omega

/-! ## 2. Points

From a serve on both paddles guard.  By induction on the operations either the ball passes the
paddle of a side in some step, or that paddle guards to the end, and then the other side has won
no point. -/

section Points

variable {α : Type} [Scalar α] [Host α] {n : Nat} {c : Court α} {side : Pong.Side}

/-- In one of the frames among these operations the game takes a step, and in it the ball passes
the paddle of a side. -/
def PassedIn (n : Nat) (c : Court α) (side : Pong.Side) (os : List (Operation α)) (w : World α) :
    Prop :=
  ∃ before dt after g d s, os = before ++ .pass dt :: after ∧ (play before w).game? n = some g ∧
    ((tick dt).after (play before w)).game? n =
      some (g.step c ((play before w).keysOf n) (Scalar.min dt longestFrame) d s) ∧
    (g.play c ((play before w).keysOf n) (Scalar.min dt longestFrame)).Passes side

theorem PassedIn.cons {o : Operation α} {os : List (Operation α)} {w : World α}
    (h : PassedIn n c side os (o.act.after w)) : PassedIn n c side (o :: os) w := by
  obtain ⟨before, dt, after, g, d, s, rfl, h⟩ := h
  exact ⟨o :: before, dt, after, g, d, s, rfl, h⟩

theorem askAll_map_operate : ∀ (os : List (Operation α)) (w : World α),
    askAll (os.map .operate) w = play os w
  | [], _ => rfl
  | o :: os, w => askAll_map_operate os (o.act.after w)

end Points

section Guarding

variable [Host Rat] (sine : Rat → Rat) (radian : Rat) {n : Nat} {c : Court Rat}
  {escapeTo : Value Rat} {side : Pong.Side}

/-- The paddle of a side guards, if there is a game. -/
def Guarded (n : Nat) (c : Court Rat) (side : Pong.Side) (w : World Rat) : Prop :=
  ∀ g, w.game? n = some g → g.Guards c side

omit [Host Rat] in
/-- In one step of the game the ball passes a paddle that guards, or the paddle still guards after
it. -/
theorem Hosts.guarded_step {w v : World Rat} {dt : Rat} (hwidth : 160 < c.width)
    (hspeed : 0 ≤ c.ballSpeed ∧ c.ballSpeed ≤ 400) (hdt : 0 ≤ dt ∧ dt ≤ 1 / 10) {g : Game Rat}
    {d s : Rat} : letI := Scalar.exact sine radian
    w.Hosts n c escapeTo (fun _ => True) → w.Guarded n c side → w.game? n = some g →
      v.game? n = some (g.step c (w.keysOf n) dt d s) →
      (g.step c (w.keysOf n) dt d s).points side.other = g.points side.other ∧
        ((g.play c (w.keysOf n) dt).Passes side ∨ v.Guarded n c side) := by
  let _ := Scalar.exact sine radian
  intro hhosts hguarded hg hv
  obtain ⟨q, hmatch⟩ := hhosts.match_of_game? hg
  have habs : |g.velX| ≤ 400 := by
    rw [hmatch.reached.abs_velX sine radian, abs_of_nonneg hspeed.1]
    exact hspeed.2
  obtain ⟨hpoints, hpass⟩ := Game.guards_step sine radian (w.keysOf n) hwidth habs hdt
    (hguarded g hg) d s hmatch.reached.on
  refine ⟨hpoints, hpass.imp_right fun hguards g' hg' => ?_⟩
  rw [hv] at hg'
  cases hg'
  exact hguards

/-- **In one operation the ball passes a paddle that guards, or the paddle still guards after it**;
and in neither case has the other side won a point. -/
theorem Hosts.guarded_operate {w : World Rat} (hwidth : 160 < c.width)
    (hspeed : 0 ≤ c.ballSpeed ∧ c.ballSpeed ≤ 400) (o : Operation Rat)
    (hdt : ∀ dt, o = .pass dt → 0 ≤ dt) (os : List (Operation Rat)) :
    letI := Scalar.exact sine radian
    w.Hosts n c escapeTo (fun _ => True) → w.Guarded n c side →
      (∀ g g', w.game? n = some g → (o.act.after w).game? n = some g' →
        g'.points side.other ≠ g.points side.other + 1) ∧
      (w.PassedIn n c side (o :: os) ∨ (o.act.after w).Guarded n c side) := by
  let _ := Scalar.exact sine radian
  intro hhosts hguarded
  rcases (hhosts.evolves (.operate o)).game with hsame | ⟨⟨g₀, d, s, hnew⟩, -⟩ |
    ⟨-, dt', htime, g, d, s, -, -, hg, hstep⟩
  · change (o.act.after w).game? n = _ at hsame
    refine ⟨fun g g' hg hg' => ?_, .inr fun g hg => hguarded g (hsame ▸ hg)⟩
    rw [hsame, hg] at hg'
    cases hg'
    exact (Nat.succ_ne_self _).symm
  · change (o.act.after w).game? n = _ at hnew
    refine ⟨fun g g' _ hg' => ?_, .inr fun g' hg' => ?_⟩
    · rw [hnew] at hg'
      cases hg'
      rw [Game.points_renew]
      exact (Nat.succ_ne_zero _).symm
    · rw [hnew] at hg'
      cases hg'
      exact Game.guards_serve sine radian hwidth d s side
  · cases o with
    | pass dt =>
      cases htime
      change ((tick dt).after w).game? n = _ at hstep
      have hshort : 0 ≤ Scalar.min dt longestFrame ∧ Scalar.min dt longestFrame ≤ 1 / 10 := by
        rw [min_longestFrame_exact]
        exact ⟨le_min (hdt dt rfl) (by norm_num), min_le_right _ _⟩
      obtain ⟨hpoints, hpass⟩ := Hosts.guarded_step sine radian hwidth hspeed hshort hhosts
        hguarded hg hstep
      refine ⟨fun g₁ g₂ hg₁ hg₂ => ?_,
        hpass.imp_left fun hpass => ⟨[], dt, os, g, d, s, rfl, hg, hstep, hpass⟩⟩
      change ((tick dt).after w).game? n = _ at hg₂
      rw [hg] at hg₁
      rw [hstep] at hg₂
      cases hg₁
      cases hg₂
      rw [hpoints]
      exact (Nat.succ_ne_self _).symm
    | _ => cases htime

/-- As long as the ball does not pass a paddle that guards, the paddle goes on to guard. -/
theorem Hosts.guarded_play (hwidth : 160 < c.width)
    (hspeed : 0 ≤ c.ballSpeed ∧ c.ballSpeed ≤ 400) : letI := Scalar.exact sine radian
    ∀ (os : List (Operation Rat)) {w : World Rat}, (∀ dt, .pass dt ∈ os → 0 ≤ dt) →
      w.Hosts n c escapeTo (fun _ => True) → w.Guarded n c side →
        w.PassedIn n c side os ∨ (play os w).Guarded n c side := by
  let _ := Scalar.exact sine radian
  intro os
  induction os with
  | nil => exact fun _ _ hguarded => .inr hguarded
  | cons o os ih =>
    intro w hdt hhosts hguarded
    obtain ⟨-, hpass | hguarded'⟩ := hhosts.guarded_operate sine radian hwidth hspeed o
      (fun dt ho => hdt dt (ho ▸ List.mem_cons_self)) os hguarded
    · exact .inl hpass
    · exact (ih (fun dt hmem => hdt dt (List.mem_cons_of_mem _ hmem))
        (hhosts.evolves (.operate o)).hosts hguarded').imp_left PassedIn.cons

/-- **No point without passing the paddle.**  From a serve to a point, whatever happens in between,
there is a frame in which the ball is beside the paddle of the side that loses the point, above it
or below.  The court is so wide that the ball is served between the paddles, and the ball is not so
fast that it goes farther in a frame than it and a paddle are wide together. -/
theorem passed_before_point (sine : Rat → Rat) (radian : Rat) : letI := Scalar.exact sine radian
    ∀ {start : World Rat} {n : Nat} {name : String} {c : Court Rat} {escapeTo : Value Rat},
      start.Fresh → start.Unplayed → start.scenes[n]? = some (.pong name c escapeTo) →
      160 < c.width → 0 ≤ c.ballSpeed → c.ballSpeed ≤ 400 →
      ∀ (before os : List (Operation Rat)) (o : Operation Rat) (served : Game Rat) (d s : Rat)
        (side : Pong.Side) (g g' : Game Rat),
        (∀ dt, .pass dt ∈ os ++ [o] → 0 ≤ dt) →
        (play before start).game? n = some (served.serve c d s) →
        (play os (play before start)).game? n = some g →
        (o.act.after (play os (play before start))).game? n = some g' →
        g'.points side.other = g.points side.other + 1 →
        (play before start).PassedIn n c side os := by
  let _ := Scalar.exact sine radian
  intro start n name c escapeTo hfresh hunplayed hscene hwidth hslow hfast before os o served d s
    side g g' hdt hserved hg hg' hpoint
  have hstart : start.Hosts n c escapeTo fun _ => True :=
    hfresh.hosts hunplayed (fun _ => trivial) hscene
  have hbefore : (play before start).Hosts n c escapeTo fun _ => True := by
    rw [← askAll_map_operate]
    exact hstart.askAll _
  have hguarded : (play before start).Guarded n c side := by
    intro g hg
    rw [hserved] at hg
    cases hg
    exact Game.guards_serve sine radian hwidth d s side
  refine (hbefore.guarded_play sine radian hwidth ⟨hslow, hfast⟩ os
    (fun dt h => hdt dt (List.mem_append_left _ h)) hguarded).resolve_right fun hguarded' => ?_
  have hafter : (play os (play before start)).Hosts n c escapeTo fun _ => True := by
    rw [← askAll_map_operate os]
    exact hbefore.askAll _
  exact (hafter.guarded_operate sine radian hwidth ⟨hslow, hfast⟩ o
    (fun dt ho => hdt dt (List.mem_append_right _ (ho ▸ List.mem_singleton_self _))) []
    hguarded').1 g g' hg hg' hpoint

end Guarding

/-- A court on which the player's paddle gets out of the way in a frame. -/
def hall : Court Rat := .centred 200 600 600 400 600

/-- The game is entered, and the key that moves the paddle down is held. -/
def holdDown : List (Operation Rat) := [.switchTo (.text "Pong"), .events [.keyDown Key.down]]

/-- The frames before the point. -/
def twoFrames : List (Operation Rat) := [.pass (1 / 10), .pass (1 / 10)]

/-- The ball passes the player's paddle in the first frame, and in the third the opponent has won a
point. -/
theorem passed_before_point_hall : letI := Scalar.exact (fun x => x) 57
    (play holdDown (arcade hall "Boot" fun _ => 0)).PassedIn 0 hall .player twoFrames := by
  let _ := Scalar.exact (fun x => x) 57
  have hserved : (play holdDown (arcade hall "Boot" fun _ => 0)).game? 0 =
      some (hall.newGame.serve hall 0 0) := by decide +kernel
  have hbefore : ((play twoFrames (play holdDown (arcade hall "Boot" fun _ => 0))).game? 0).map
      (·.opponentScore) = some 0 := by decide +kernel
  have hafter : (((Operation.pass (1 / 10)).act.after (play twoFrames
      (play holdDown (arcade hall "Boot" fun _ => 0)))).game? 0).map (·.opponentScore) =
        some 1 := by decide +kernel
  obtain ⟨g, hg, hzero⟩ := Option.map_eq_some_iff.1 hbefore
  obtain ⟨g', hg', hone⟩ := Option.map_eq_some_iff.1 hafter
  refine passed_before_point (fun x => x) 57 (fresh_arcade _ _ _) (unplayed_arcade _ _ _)
    (scene_arcade _ _ _) (by decide +kernel) (by decide +kernel) (by decide +kernel) holdDown
    twoFrames (.pass (1 / 10)) hall.newGame 0 0 .player g g' (fun dt h => ?_) hserved hg hg' ?_
  · simp only [twoFrames, List.cons_append, List.nil_append, List.mem_cons, Operation.pass.injEq,
      List.not_mem_nil, or_false, or_self] at h
    rw [h]
    norm_num
  · change g'.opponentScore = g.opponentScore + 1
    rw [hzero, hone]

/-! ## 3. Walls

A wall is looked at after each move of the ball, and it turns the speed round without asking where
the ball is going. -/

/-- **A wall turns the ball round whenever the ball is at it or beyond it** after an update in which
no point is won and the ball touches no paddle.  If the ball came to the wall from the court then it
is on its way back, and out of the wall after the next frame unless that one is shorter.  If it was
on its way back already then it is sent out again. -/
theorem turned_at_walls [Host Rat] (sine : Rat → Rat) (radian : Rat) :
    letI := Scalar.exact sine radian
    ∀ {start : World Rat} {n : Nat} {name : String} {c : Court Rat} {escapeTo : Value Rat},
      start.Fresh → start.Unplayed → start.scenes[n]? = some (.pong name c escapeTo) →
      ∀ (deeds : List (Deed Rat)) (dt : Rat), (askAll deeds start).current = some n →
      (askAll deeds start).input.isDown [Key.escape] = false → 0 ≤ dt →
      ∃ g g', (askAll deeds start).game? n = some g ∧
        ((update dt).after (askAll deeds start)).game? n = some g' ∧
        ((∀ s, g'.points s = g.points s) → (∀ s, g'.ball.overlaps (g'.paddle s) = false) →
          (g'.ball.y ≤ c.top → g'.velY = -g.velY ∧
            (c.top < g.ball.y → 0 < g'.velY ∧ ∀ keys dt', dt ≤ dt' →
              c.top < (g'.play c keys dt').ball.y)) ∧
          (c.top + c.height ≤ g'.ball.y + g'.ball.height → g'.velY = -g.velY ∧
            (g.ball.y + g.ball.height < c.top + c.height → g'.velY < 0 ∧ ∀ keys dt', dt ≤ dt' →
              (g'.play c keys dt').ball.y + (g'.play c keys dt').ball.height <
                c.top + c.height))) := by
  let _ := Scalar.exact sine radian
  intro start n name c escapeTo hfresh hunplayed hscene deeds dt hn hescape hdt
  have hhosts : (askAll deeds start).Hosts n c escapeTo fun _ => True :=
    (hfresh.hosts hunplayed (fun _ => trivial) hscene).askAll deeds
  obtain ⟨-, ⟨hdown, -⟩ | ⟨g, d, s, -, -, hg, hstep⟩⟩ := hhosts.update hn dt
  · rw [hescape] at hdown
    cases hdown
  refine ⟨g, _, hg, hstep, ?_⟩
  rcases Game.step_cases c ((askAll deeds start).keysOf n) dt d s g with ⟨-, he⟩ | ⟨winner, -, he⟩
  · rw [he]
    intro _ hfree
    have hturn := Game.velY_of_atWall sine radian _ dt hfree
    refine ⟨fun hwall => ?_, fun hwall => ?_⟩
    · have hturn := hturn ((Game.atWall_exact sine radian c _).2 (.inl hwall))
      exact ⟨hturn, fun hin => Game.back_from_top sine radian _ hdt hin hwall hturn⟩
    · have hturn := hturn ((Game.atWall_exact sine radian c _).2 (.inr hwall))
      exact ⟨hturn, fun hin => Game.back_from_bottom sine radian _ hdt hin hwall hturn⟩
  · intro hpoints
    have hwinner := hpoints winner
    rw [he, Game.points_score, if_pos rfl, Game.points_play] at hwinner
    exact (Nat.succ_ne_self _ hwinner).elim

/-- A court that a ball crosses in some frames from wall to wall. -/
def alley : Court Rat := .centred 1080 100 100 400 600

/-- A short frame and five long ones. -/
def sixFrames : List (Deed Rat) :=
  .operate (.switchTo (.text "Pong")) :: .operate (.pass (1 / 20)) ::
    List.replicate 5 (.operate (.pass (1 / 10)))

/-- After the last long frame the ball is beyond the lower wall and on its way back.  The next one
is short, the ball does not get out of the wall in it, and is sent out again. -/
theorem turned_at_walls_alley : letI := Scalar.exact (fun x => x) 57
    ∃ g g', (askAll sixFrames (arcade alley "Boot" fun _ => 9 / 10)).game? 0 = some g ∧
      ((update (1 / 100)).after
        (askAll sixFrames (arcade alley "Boot" fun _ => 9 / 10))).game? 0 = some g' ∧
      alley.top + alley.height ≤ g'.ball.y + g'.ball.height ∧ g.velY = -80 ∧ g'.velY = 80 := by
  let _ := Scalar.exact (fun x => x) 57
  obtain ⟨g, g', hg, hg', hwalls⟩ := turned_at_walls (fun x => x) 57
    (fresh_arcade alley "Boot" fun _ => 9 / 10) (unplayed_arcade _ _ _) (scene_arcade _ _ _)
    sixFrames (1 / 100) (by decide +kernel) (by decide +kernel) (by norm_num)
  have hup : ((askAll sixFrames (arcade alley "Boot" fun _ => 9 / 10)).game? 0).map
      (fun g => (g.velY, g.playerScore, g.opponentScore)) = some (-80, 0, 0) := by decide +kernel
  have hbeyond : (((update (1 / 100)).after (askAll sixFrames
      (arcade alley "Boot" fun _ => 9 / 10))).game? 0).map (fun g =>
        (g.playerScore, g.opponentScore, g.ball.overlaps g.player, g.ball.overlaps g.opponent,
          g.ball.y + g.ball.height)) = some (0, 0, false, false, 516 / 5) := by decide +kernel
  rw [hg] at hup
  rw [hg'] at hbeyond
  simp only [Option.map_some, Option.some.injEq, Prod.mk.injEq] at hup hbeyond
  obtain ⟨hup, hplayer, hopponent⟩ := hup
  obtain ⟨hplayer', hopponent', hfree, hfree', hbeyond⟩ := hbeyond
  have hwall : alley.top + alley.height ≤ g'.ball.y + g'.ball.height := by
    rw [hbeyond]
    decide +kernel
  have hsame (s : Pong.Side) : g'.points s = g.points s := by
    cases s
    · exact hplayer'.trans hplayer.symm
    · exact hopponent'.trans hopponent.symm
  have hturn := ((hwalls hsame fun s => by cases s <;> assumption).2 hwall).1
  exact ⟨g, g', hg, hg', hwall, hup, by rw [hturn, hup, neg_neg]⟩

end World

end Diorama
