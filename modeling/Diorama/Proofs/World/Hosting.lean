/-
# Scenes that host a match

A scene that is a game may be entered and left any number of times, other scenes may be current in
between, and any of them may be a game as well.  `World.Hosts` is what holds of such a scene at the
end of everything that is asked of the world, also where it ended with a fault: the scene was not
set up yet, or it keeps a game that can come about and shows its score.

What happens to the game in one deed is one of three things (`World.Evolves`).  It is left alone;
the scene is entered anew, and the game is a new one; or time passes in the scene while it is the
current one, and the game takes one step.
-/
import Diorama.Proofs.World.Matches

namespace Diorama

open Act Pong

variable {α : Type}

namespace World

/-! ## 1. Hosts

`Seats` is about the scene and its game; `Hosts` adds that the scene is set up whenever it is the
current one, which is what makes an update of it a step of a game. -/

section Hosts

variable [Scalar α] [Host α]

/-- The scene `n` is a game apart from the other scenes: a new one, or one with a match whose score
is shown. -/
structure Seats (n : Nat) (c : Court α) (escapeTo : Value α) (Chance : α → Prop) (w : World α) :
    Prop where
  parts : w.missing = []
  chances : ∀ k, Chance (w.depot.device.chances k)
  apart : w.Apart n
  seat : w.started? n = some false ∧ w.pong? n = some (c.blank escapeTo) ∨
    w.started? n = some true ∧ ∃ q g, w.Match n c escapeTo Chance q g g.board

/-- Besides, while it is the current scene it has a match. -/
structure Hosts (n : Nat) (c : Court α) (escapeTo : Value α) (Chance : α → Prop) (w : World α) :
    Prop extends Seats n c escapeTo Chance w where
  lit : w.current = some n → w.started? n = some true

variable {n : Nat} {c : Court α} {escapeTo : Value α} {Chance : α → Prop} {w v : World α}

omit [Host α] in
theorem game?_of_blank (h : w.pong? n = some (c.blank escapeTo)) : w.game? n = none := by
  have hpieces : (piecesAt n).run w = (.error .absent, w) := by
    rw [run_piecesAt, h]
    rfl
  rw [game?, readGame, run_bind_of_ok (by rw [run_pongAt, h]), run_bind_of_error hpieces]
  rfl

omit [Host α] in
/-- Whatever spares its game, a scene stays a host, and its game is the same. -/
theorem Seats.sameGame (h : w.Seats n c escapeTo Chance) (hv : w.SameGame n v)
    (hapart : v.Apart n) : v.Seats n c escapeTo Chance ∧ v.game? n = w.game? n := by
  rcases h.seat with ⟨hnew, hblank⟩ | ⟨hstarted, q, g, hmatch⟩
  · have hblank' := hv.pong.trans hblank
    refine ⟨⟨hv.parts.trans h.parts, hv.chances ▸ h.chances, hapart,
      .inl ⟨hv.started.trans hnew, hblank'⟩⟩, ?_⟩
    rw [game?_of_blank hblank, game?_of_blank hblank']
  · have hmatch' := hmatch.sameGame hv hapart
    refine ⟨⟨hv.parts.trans h.parts, hv.chances ▸ h.chances, hapart,
      .inr ⟨hv.started.trans hstarted, q, g, hmatch'⟩⟩, ?_⟩
    rw [hmatch.laid.game?, hmatch'.laid.game?]

omit [Host α] in
theorem Hosts.sameGame (h : w.Hosts n c escapeTo Chance) (hv : w.SameGame n v)
    (hapart : v.Apart n) : v.Hosts n c escapeTo Chance ∧ v.game? n = w.game? n := by
  obtain ⟨hseats, hgame⟩ := h.toSeats.sameGame hv hapart
  exact ⟨⟨hseats, fun hn => hv.started.trans (h.lit (hv.current hn))⟩, hgame⟩

omit [Host α] in
/-- The game of a host, once it has one. -/
theorem Hosts.exists_match (h : w.Hosts n c escapeTo Chance) (hn : w.current = some n) :
    ∃ q g, w.Match n c escapeTo Chance q g g.board := by
  rcases h.seat with ⟨hnew, -⟩ | ⟨-, hmatch⟩
  · rw [h.lit hn] at hnew
    cases hnew
  · exact hmatch

omit [Host α] in
theorem Seats.match_of_game? (h : w.Seats n c escapeTo Chance) {g : Game α}
    (hg : w.game? n = some g) : ∃ q, w.Match n c escapeTo Chance q g g.board := by
  rcases h.seat with ⟨-, hblank⟩ | ⟨-, q, g', hmatch⟩
  · rw [game?_of_blank hblank] at hg
    cases hg
  · rw [hmatch.laid.game?] at hg
    cases hg
    exact ⟨q, hmatch⟩

/-! ## 2. Entering

To enter a game is to set it up, if that was not done yet, and to start anew: the points are taken
back, the ball is served, and the score is shown. -/

omit [Scalar α] [Host α] in
/-- A game has all hooks. -/
theorem run_ifHas_of_pong {p : PongScene α} (hp : w.pong? n = some p) (hook : Hook)
    (x : Act (World α) Unit) : (ifHas n hook x).run w = x.run w := by
  obtain ⟨s, hs, hr⟩ := pong?_eq_some.1 hp
  unfold ifHas
  rw [run_bind_of_ok (by rw [run_sceneAt, hs]), Scene.has, hr]
  rfl

/-- A scene is set up when it is entered for the first time; from then on it has a match. -/
theorem Seats.start (h : w.Seats n c escapeTo Chance) : ∃ q g text v,
    (start n).run w = (.ok (), v) ∧ v.Match n c escapeTo Chance q g text ∧
      v.started? n = some true ∧
      v.scenes[n]?.map (·.bound) = w.scenes[n]?.map (·.bound) := by
  rcases h.seat with ⟨hnew, hblank⟩ | ⟨hstarted, q, g, hmatch⟩
  · obtain ⟨q, g, v, hrun, hmatch, hstarted, -, hbound⟩ :=
      exists_match_of_start h.parts h.chances h.apart hblank hnew
    exact ⟨q, g, "", v, hrun, hmatch, hstarted, hbound⟩
  · obtain ⟨s, hs, hdone⟩ := Option.map_eq_some_iff.1 hstarted
    refine ⟨q, g, g.board, w, ?_, hmatch, hstarted, rfl⟩
    unfold World.start
    rw [run_bind_of_ok (by rw [run_sceneAt, hs]), hdone]
    rfl

/-- A new game: of its chances only the serve is decided. -/
def Renewed (n : Nat) (c : Court α) (w : World α) : Prop :=
  ∃ (g : Game α) (d s : α), w.game? n = some (g.renew c d s)

/-- **Entering a scene that is bound starts a new game**, and its score is shown.  Three calls
follow one another: the scene is set up, a new game is dealt, and the pieces are placed.  Each of
them keeps the match, and only the second changes the game. -/
theorem Seats.bringUp (h : w.Seats n c escapeTo Chance)
    (hbound : w.scenes[n]?.map (·.bound) = some true) :
    ((bringUp (some n)).after w).Hosts n c escapeTo Chance ∧
      ((bringUp (some n)).after w).Renewed n c := by
  obtain ⟨q, g, text, u, hstart, hmatch, hstarted, hbound'⟩ := h.start
  obtain ⟨d, s, t, henter, htends, hmatch'⟩ := hmatch.enter
  have hbound'' : t.scenes[n]?.map (·.bound) = some true :=
    htends.bound.trans (hbound'.trans hbound)
  obtain ⟨v, hpopulate, htends', hmatch''⟩ := hmatch'.populate hbound''
  obtain ⟨p, hp⟩ := h.apart.game
  obtain ⟨scene, hs, hr⟩ := pong?_eq_some.1 hp
  have hfirst : (ifHas n .enter (callEnter n)).run w = (.ok (), t) := by
    rw [run_ifHas_of_pong hp]
    unfold callEnter
    rw [run_bind_of_ok (by rw [run_sceneAt, hs]), hr]
    dsimp only
    rw [run_bind_of_ok hstart, henter]
  have hsecond : (ifHas n .populate (callPopulate n)).run t = (.ok (), v) := by
    obtain ⟨scene', hs', hr'⟩ := pong?_eq_some.1 hmatch'.laid.scene
    rw [run_ifHas_of_pong hmatch'.laid.scene]
    unfold callPopulate
    rw [run_bind_of_ok (by rw [run_sceneAt, hs']), hr']
    exact hpopulate
  have hrun : (World.bringUp (some n)).run w = (.ok (), v) := by
    unfold World.bringUp
    rw [run_bind_of_ok hfirst, hsecond]
  rw [after_eq_of_run hrun]
  have hseated := htends'.started (htends.started hstarted)
  exact ⟨⟨⟨hmatch''.parts, hmatch''.chances, hmatch''.apart, .inr ⟨hseated, q, _, hmatch''⟩⟩,
    fun _ => hseated⟩, g, d, s, hmatch''.laid.game?⟩

/-! ## 3. Changes of scenes

In a change of scenes the game is entered once at most, and at the end; so the scene hosts what it
did, or a new game. -/

omit [Scalar α] [Host α] in
/-- The scene `n` is bound before it is entered. -/
theorem run_bindNext_of_pong {p : PongScene α} (hp : w.pong? n = some p) :
    (bindNext (some n)).run w =
      (.ok (), { w with scenes := w.scenes.modify n fun s => { s with bound := true } }) := by
  obtain ⟨s, hs, hr⟩ := pong?_eq_some.1 hp
  change (ifHas n .bind (callBind n)).run w = _
  rw [run_ifHas_of_pong hp]
  have hbound : ({ w with scenes := w.scenes.modify n fun s => { s with bound := true } } :
      World α).scenes[n]? = some { s with bound := true } := by
    rw [Array.getElem?_modify, if_pos rfl, hs, Option.map_some]
  unfold callBind bind modifyScene
  rw [run_bind_of_ok (run_modify _ w), run_bind_of_ok (by rw [run_sceneAt, hbound])]
  dsimp only
  rw [hr]
  rfl

omit [Host α] in
/-- Which scene is current, and what is in the layers, does not matter to a seat. -/
theorem Seats.handedTo (h : w.Seats n c escapeTo Chance) (next : Option Nat) :
    (w.handedTo next).Seats n c escapeTo Chance := by
  have hapart : (w.handedTo next).Apart n := ⟨h.apart.game, h.apart.made, h.apart.others⟩
  refine ⟨h.parts, h.chances, hapart, h.seat.imp id fun ⟨hstarted, q, g, hmatch⟩ => ?_⟩
  exact ⟨hstarted, q, g, hmatch.parts, hmatch.chances, hapart, hmatch.laid.of_eq rfl rfl,
    hmatch.reached⟩

/-- As long as the scene `n` hosts a match it goes on to do so, and its game is the same or a new
one. -/
def Awaits (n : Nat) (c : Court α) (escapeTo : Value α) (Chance : α → Prop) (w v : World α) :
    Prop :=
  w.Hosts n c escapeTo Chance →
    v.Hosts n c escapeTo Chance ∧ (v.game? n = w.game? n ∨ v.Renewed n c)

instance : IsPreorder (World α) (Awaits n c escapeTo Chance) where
  refl _ h := ⟨h, .inl rfl⟩
  trans u v w h h' hu := by
    obtain ⟨hv, hsame⟩ := h hu
    obtain ⟨hw, hsame' | hnew⟩ := h' hv
    · exact ⟨hw, hsame.imp (hsame'.trans ·) fun ⟨g, d, s, hg⟩ => ⟨g, d, s, hsame'.trans hg⟩⟩
    · exact ⟨hw, .inr hnew⟩

omit [Host α] in
theorem Spares.awaits (h : w.Spares n v) : w.Awaits n c escapeTo Chance v := by
  intro hw
  obtain ⟨hapart, hsame⟩ := h hw.apart
  obtain ⟨hv, hgame⟩ := hw.sameGame hsame hapart
  exact ⟨hv, .inl hgame⟩

/-- A change to the scene itself starts a new game, unless it stops before.  Letting the old scene
go and binding this one spare the game; bringing it up is what starts a new one. -/
theorem awaits_changeScene (next : Option Nat) :
    (changeScene next : Act (World α) Unit).Moves (Awaits n c escapeTo Chance) := by
  by_cases hnext : next = some n
  · subst hnext
    unfold changeScene
    refine moves_bind (fun _ => (spares_dismiss _).awaits) fun _ w hw => ?_
    obtain ⟨p, hp⟩ := hw.apart.game
    have hbind := run_bindNext_of_pong hp
    have hsame := spares_bindNext (n := n) (some n) w hw.apart
    rw [after_eq_of_run hbind] at hsame
    obtain ⟨hhosts, -⟩ := hw.sameGame hsame.2 hsame.1
    have hbound : (w.scenes.modify n fun s => { s with bound := true })[n]?.map (·.bound) =
        some true := by
      obtain ⟨s, hs, -⟩ := pong?_eq_some.1 hp
      rw [Array.getElem?_modify, if_pos rfl, hs]
      rfl
    rw [after_bind_of_ok hbind, after_bind_of_ok (run_handOver hhosts.parts _)]
    obtain ⟨hhosts', hnew⟩ := (hhosts.toSeats.handedTo (some n)).bringUp hbound
    exact ⟨hhosts', .inr hnew⟩
  · exact fun w => (spares_changeScene hnext w).awaits

/-- Nothing in a run but a step of the match itself does more than that. -/
theorem carries_awaits : Carries (Awaits n c escapeTo Chance) where
  places m := (places_spares m).mono fun _ _ h => h.awaits
  call c := (moves_call_spares c).mono fun _ _ h => h.awaits
  advance m dt := (spares_advance m dt).mono fun _ _ h => h.awaits
  sound key volume := (moves_onDepot_spares
    (Depot.listens_sameChances.playSound key volume)).mono fun _ _ h => h.awaits
  wish hs hr := (spares_nextWish _ hs hr).awaits
  input _ _ := Spares.awaits (spares_of_eq rfl rfl rfl rfl id)
  change := awaits_changeScene

/-! ## 4. Deeds

Everything that can be asked, one kind of deed after the other.  An update of the current scene is
a step of its game or, if the key to leave is held, a change of scenes without a step. -/

/-- What a deed does to the world, whichever scene is the current one. -/
def Deed.ask : Deed α → Act (World α) Unit
  | .operate o => o.act
  | .update dt => World.update dt

/-- The world after some deeds, whether or not they end with a fault. -/
def askAll : List (Deed α) → World α → World α
  | [], w => w
  | deed :: deeds, w => askAll deeds (deed.ask.after w)

/-- The escape key is down, and it leads back to the scene `n` itself. -/
def LeadsBack (n : Nat) (escapeTo : Value α) (w : World α) : Prop :=
  w.input.isDown [Key.escape] = true ∧ (registered? escapeTo).run w = (.ok (some n), w)

/-- The game of the scene `n` takes a step. -/
def Steps (n : Nat) (c : Court α) (Chance : α → Prop) (dt : α) (w v : World α) : Prop :=
  ∃ g d s, Chance d ∧ Chance s ∧ w.game? n = some g ∧
    v.game? n = some (g.step c (w.keysOf n) dt d s)

/-- What becomes of the game of the scene `n` in a deed. -/
structure Evolves (n : Nat) (c : Court α) (escapeTo : Value α) (Chance : α → Prop)
    (deed : Deed α) (w v : World α) : Prop where
  hosts : v.Hosts n c escapeTo Chance
  game : v.game? n = w.game? n ∨
    (v.Renewed n c ∧ (deed.time?.isSome → w.current = some n → w.LeadsBack n escapeTo)) ∨
    (w.current = some n ∧ ∃ dt, deed.time? = some dt ∧ w.Steps n c Chance dt v)

omit [Host α] in
/-- The current scene takes a step of its game. -/
theorem Hosts.step (h : w.Hosts n c escapeTo Chance) (hn : w.current = some n) (dt : α) :
    ((stepPong n dt).after w).Hosts n c escapeTo Chance ∧
      w.Steps n c Chance dt ((stepPong n dt).after w) := by
  obtain ⟨q, g, hmatch⟩ := h.exists_match hn
  obtain ⟨d, s, v, hd, hs, hrun, hv⟩ := hmatch.step dt
  have htends := strokes_tends.stepPong (n := n) dt w
  rw [after_eq_of_run hrun] at htends ⊢
  have hstarted := htends.started (h.lit hn)
  exact ⟨⟨⟨hv.parts, hv.chances, hv.apart, .inr ⟨hstarted, q, _, hv⟩⟩, fun _ => hstarted⟩,
    g, d, s, hd, hs, hmatch.laid.game?, hv.laid.game?⟩

/-- A switch to a scene starts a new game only if the name leads to the game itself.  What a
switch does to a game is known from the walk over it; what is left is that a name which leads
elsewhere, or nowhere, spares it. -/
theorem Hosts.switchTo (h : w.Hosts n c escapeTo Chance) (name : Value α) :
    ((switchTo name).after w).Hosts n c escapeTo Chance ∧
      (((switchTo name).after w).game? n = w.game? n ∨
        ((switchTo name).after w).Renewed n c ∧
          (registered? name).run w = (.ok (some n), w)) := by
  obtain ⟨hhosts, hgame⟩ := moves_switchTo carries_awaits.toPasses name w h
  refine ⟨hhosts, ?_⟩
  by_cases hlead : (registered? name).run w = (.ok (some n), w)
  · exact hgame.imp id fun hnew => ⟨hnew, hlead⟩
  left
  have hspares : w.Spares n ((World.switchTo name).after w) := by
    have hlook := moves_registered? name w
    unfold World.switchTo
    cases hr : (registered? name).run w with
    | mk r t =>
      obtain rfl : w = t := hlook.trans (after_eq_of_run hr)
      match r with
      | .error e =>
        rw [after_bind_of_error hr]
        exact refl w
      | .ok none =>
        rw [after_bind_of_ok hr]
        exact moves_bind (moves_ofExcept _) (fun _ => (notes_spares 0).liftLog _) w
      | .ok (some m) =>
        rw [after_bind_of_ok hr]
        refine spares_changeScene (fun hm => hlead ?_) w
        rw [hr, hm]
  obtain ⟨hapart, hsame⟩ := hspares h.apart
  exact (h.sameGame hsame hapart).2

/-- **An update of the current scene** is a step of its game, unless the escape key is down.  The
escape key is looked at first, and only if the scene was given an input.  Where it is down the
scene is left, by a switch or with a line that there is nobody to ask. -/
theorem Hosts.update (h : w.Hosts n c escapeTo Chance) (hn : w.current = some n) (dt : α) :
    ((update dt).after w).Hosts n c escapeTo Chance ∧
      (w.input.isDown [Key.escape] = true ∧
        (((update dt).after w).game? n = w.game? n ∨
          ((update dt).after w).Renewed n c ∧ w.LeadsBack n escapeTo) ∨
        w.Steps n c Chance dt ((update dt).after w)) := by
  obtain ⟨q, g, hmatch⟩ := h.exists_match hn
  obtain ⟨s, hs, hr⟩ := pong?_eq_some.1 hmatch.laid.scene
  have hrun : (World.update dt).run w = (updatePong n dt).run w := by
    unfold World.update
    rw [run_bind_of_ok (run_get w), hn]
    dsimp only
    rw [run_ifHas_of_pong hmatch.laid.scene]
    unfold callUpdate
    rw [run_bind_of_ok (by rw [run_sceneAt, hs]), hr]
  have hafter : (World.update dt).after w = (updatePong n dt).after w := congrArg Prod.snd hrun
  have hreach (p : Part) : (reaches n p).run w = (.ok (s.bound && w.hasPart p), w) := by
    rw [run_reaches, hs]
  rw [hafter]
  unfold updatePong
  rw [after_bind_of_ok (run_get w), after_bind_of_ok (hreach .input)]
  -- the key is down and can be seen, or the game takes its step
  by_cases hleave : (s.bound && w.hasPart .input && w.input.isDown [Key.escape]) = true
  · rw [if_pos hleave, after_bind_of_ok hmatch.laid.run_pongAt]
    have hdown : w.input.isDown [Key.escape] = true := (Bool.and_eq_true_iff.1 hleave).2
    unfold switchScene
    rw [after_bind_of_ok (hreach .director)]
    dsimp only [Game.kept]
    split
    · obtain ⟨hhosts, hgame⟩ := h.switchTo escapeTo
      exact ⟨hhosts, .inl ⟨hdown, hgame.imp id fun hnew => ⟨hnew.1, hdown, hnew.2⟩⟩⟩
    · have hspares : (do
          let name ← Act.ofExcept escapeTo.written
          sayFor n ("Warning: no scene manager to switch to '" ++ name ++ "'") :
          Act (World α) Unit).Moves (Spares n) :=
        moves_bind (moves_ofExcept _) fun _ => (notes_spares n).sayFor _
      obtain ⟨hapart, hsame⟩ := hspares w h.apart
      obtain ⟨hhosts, hgame⟩ := h.sameGame hsame hapart
      exact ⟨hhosts, .inl ⟨hdown, .inl hgame⟩⟩
  · rw [if_neg hleave]
    obtain ⟨hhosts, hstep⟩ := h.step hn dt
    exact ⟨hhosts, .inr hstep⟩

/-- Another scene is updated, or none. -/
theorem awaits_update_of_other (hn : w.current ≠ some n) (dt : α) :
    w.Awaits n c escapeTo Chance ((update dt).after w) := by
  unfold World.update
  rw [after_bind_of_ok (run_get w)]
  cases hm : w.current with
  | none => exact refl w
  | some m =>
    have hmn : m ≠ n := fun h => hn (h ▸ hm)
    have hstep : (stepPong m dt).Moves (Awaits n c escapeTo Chance) :=
      ((strokes_spares hmn).stepPong dt).mono fun _ _ h => h.awaits
    exact moves_ifHas (moves_callUpdate carries_awaits.toPasses hstep) m _ w

/-- What becomes of the game in an update. -/
theorem Hosts.evolves_update (h : w.Hosts n c escapeTo Chance) (dt : α) :
    w.Evolves n c escapeTo Chance (.update dt) ((World.update dt).after w) := by
  by_cases hn : w.current = some n
  · obtain ⟨hhosts, ⟨-, hsame | hnew⟩ | hstep⟩ := h.update hn dt
    · exact ⟨hhosts, .inl hsame⟩
    · exact ⟨hhosts, .inr (.inl ⟨hnew.1, fun _ _ => hnew.2⟩)⟩
    · exact ⟨hhosts, .inr (.inr ⟨hn, dt, rfl, hstep⟩)⟩
  · obtain ⟨hhosts, hgame⟩ := awaits_update_of_other hn dt h
    exact ⟨hhosts, hgame.imp id fun hnew => .inl ⟨hnew, fun _ hcur => (hn hcur).elim⟩⟩

/-- A frame is an update, and then the end of the frame. -/
theorem Hosts.evolves_tick (h : w.Hosts n c escapeTo Chance) (dt : α) :
    w.Evolves n c escapeTo Chance (.operate (.pass dt)) ((tick dt).after w) := by
  have hpart (p : Part) : w.hasPart p = true := by simp [hasPart, h.parts]
  obtain ⟨hhosts, hgame⟩ := h.evolves_update (Scalar.min dt longestFrame)
  have hrest : ((World.update (Scalar.min dt longestFrame)).after w).Spares n
      ((tick dt).after w) := by
    unfold tick
    rw [after_bind_of_ok (by rw [run_requirePart, if_pos (hpart _)])]
    refine after_bind_cases (refl _) fun _ t ht => ?_
    rw [after_eq_of_run ht]
    refine moves_bind (R := Spares n) (moves_requirePart _).of_eq (fun _ => ?_) t
    exact moves_modify fun _ => spares_of_eq rfl rfl rfl rfl id
  obtain ⟨hapart, hsame⟩ := hrest hhosts.apart
  obtain ⟨hhosts', hsame'⟩ := hhosts.sameGame hsame hapart
  refine ⟨hhosts', ?_⟩
  unfold Renewed Steps at *
  rw [hsame']
  exact hgame

/-- **Whatever is asked of the world, the game of a host stays the same, is a new one, or takes one
step.** -/
theorem Hosts.evolves (h : w.Hosts n c escapeTo Chance) (deed : Deed α) :
    w.Evolves n c escapeTo Chance deed (deed.ask.after w) := by
  have hother {x : Act (World α) Unit} (hx : x.Moves (Awaits n c escapeTo Chance))
      (htime : deed.time? = none) : w.Evolves n c escapeTo Chance deed (x.after w) := by
    obtain ⟨hhosts, hgame⟩ := hx w h
    refine ⟨hhosts, hgame.imp id fun hnew => .inl ⟨hnew, fun hsome => ?_⟩⟩
    rw [htime] at hsome
    cases hsome
  match deed with
  | .update dt => exact h.evolves_update dt
  | .operate (.pass dt) => exact h.evolves_tick dt
  | .operate (.register name m) =>
    exact hother (fun _ => Spares.awaits (spares_of_eq rfl rfl rfl rfl id)) rfl
  | .operate (.switchTo name) => exact hother (moves_switchTo carries_awaits.toPasses name) rfl
  | .operate (.change next) => exact hother (awaits_changeScene next) rfl
  | .operate (.switchState name) =>
    exact hother (moves_ofCurrent fun m => (carries_awaits.places m).switchToState name) rfl
  | .operate (.events es) =>
    exact hother (moves_bind (moves_handleEvents carries_awaits es) fun _ => moves_pure _) rfl

theorem Hosts.askAll : ∀ (deeds : List (Deed α)) {w : World α},
    w.Hosts n c escapeTo Chance → (World.askAll deeds w).Hosts n c escapeTo Chance
  | [], _, h => h
  | deed :: deeds, _, h => Hosts.askAll deeds (h.evolves deed).hosts

/-! ## 5. The start

Before anything is asked no game is set up, and that is enough. -/

/-- No game was ever set up. -/
def Unplayed (w : World α) : Prop :=
  ∀ (n : Nat) (s : Scene α) (p : PongScene α), w.scenes[n]? = some s → s.role = .pong p →
    s.started = false ∧ p.pieces = none

omit [Host α] in
/-- At the start of a run every game is a host.  No entity is owned by anyone yet, so there is
nothing that could be shared. -/
theorem Fresh.hosts (hfresh : w.Fresh) (hunplayed : w.Unplayed)
    (hchance : ∀ k, Chance (w.depot.device.chances k)) {name : String}
    (hscene : w.scenes[n]? = some (.pong name c escapeTo)) : w.Hosts n c escapeTo Chance := by
  have hpong : w.pong? n = some (c.blank escapeTo) := pong?_eq_some.2 ⟨_, hscene, rfl⟩
  have hpieces : w.piecesOf n = [] := by
    rw [piecesOf, hpong]
    rfl
  have hmovable (m : Nat) (s : Scene α) (hs : w.scenes[m]? = some s) : s.movable = [] := by
    unfold Scene.movable
    split
    · next d hr =>
      rw [hfresh.untouched m d (script?_eq_some.2 ⟨s, hs, hr⟩)]
      rfl
    · next p hr =>
      rw [PongScene.numbers, (hunplayed m s p hs hr).2]
      rfl
    · rfl
  refine ⟨⟨hfresh.parts, hchance, ⟨⟨_, hpong⟩, ?_, fun m s _ hs k hk => ?_⟩, .inl ⟨?_, hpong⟩⟩, ?_⟩
  · rw [hpieces]
    intro k hk
    cases hk
  · rw [hmovable m s hs] at hk
    cases hk
  · rw [started?, hscene]
    rfl
  · rw [hfresh.idle]
    intro hn
    cases hn

end Hosts

end World

end Diorama
