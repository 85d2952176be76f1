/-
# What the input knows

The input is a summary of the events that were taken in.  Of the pointer it knows where the last
event that says so has put it and whether its first button is held, and of a key whether it is down:
each is told by the last event that is about it (`Input.last?`).  Only that a press is fresh is
forgotten in between: it lasts from the event to the end of the next update.

No scene and no change of scenes touches the input (`sameInput_update`).  So what the current scene
finds in an update is what the events amount to, and when the update is over no scene finds its
press again, whichever has become the current one.
-/
import Diorama.Proofs.World.Turns
import Mathlib.Data.List.DropRight

namespace Diorama

open Act

variable {α : Type}

/-! ## 1. What an event is about

An event is about the place of the pointer, its first button, a key, or a request to stop; what it
says about each of them is a partial function of the event. -/

namespace Event

/-- The event is a press of the button that counts. -/
def isPress : Event α → Bool
  | .press _ _ button => button == Input.firstButton
  | _ => false

/-- Whether the button that counts is held from this event on, if the event is about it. -/
def held? : Event α → Option Bool
  | .press _ _ button => if button == Input.firstButton then some true else none
  | .release _ _ button => if button == Input.firstButton then some false else none
  | _ => none

/-- Where in the window the pointer is from this event on, if the event counts for that. -/
def spot? : Event α → Option (α × α)
  | .motion x y => some (x, y)
  | .press x y button | .release x y button =>
    if button == Input.firstButton then some (x, y) else none
  | _ => none

/-- Whether a key is down from this event on, if the event is about it. -/
def down? (key : Int) : Event α → Option Bool
  | .keyDown k => if k == key then some true else none
  | .keyUp k => if k == key then some false else none
  | _ => none

/-- The event asks to stop. -/
def isQuit : Event α → Bool
  | .quit => true
  | _ => false

end Event

namespace Input

/-- What the last event that says anything about it says. -/
def last? {β : Type} (f : Event α → Option β) (es : List (Event α)) : Option β :=
  (es.filterMap f).getLast?

theorem last?_append {β : Type} (f : Event α → Option β) (es fs : List (Event α)) :
    last? f (es ++ fs) = (last? f fs).or (last? f es) := by
  unfold last?
  rw [List.filterMap_append, List.getLast?_append]

theorem last?_singleton {β : Type} (f : Event α → Option β) (e : Event α) :
    last? f [e] = f e := by
  unfold last?
  cases h : f e <;> simp [h]

variable [Scalar α]

/-- The place on the canvas of a place in the window. -/
def onCanvas (scale : α × α) (p : α × α) : α × α := (p.1 * scale.1, p.2 * scale.2)

/-- Takes in events, one after the other. -/
def handleAll (i : Input α) (es : List (Event α)) : Input α := es.foldl handle i

/-! ## 2. One event

One event changes what it is about and nothing else. -/

section Handle

variable (i : Input α) (e : Event α)

theorem scale_handle : (i.handle e).scale = i.scale := by
  cases e <;> simp only [handle] <;> split <;> rfl

theorem pressed_handle : (i.handle e).pointer.pressed = (i.pointer.pressed || e.isPress) := by
  cases e with
  | press x y button => by_cases h : button == firstButton <;> simp [handle, Event.isPress, h]
  | release x y button =>
    by_cases h : button == firstButton <;> simp [handle, Event.isPress, h, move]
  | keyDown key => simp only [handle]; split <;> simp [Event.isPress]
  | _ => simp [handle, Event.isPress, move]

theorem down_handle : (i.handle e).pointer.down = e.held?.getD i.pointer.down := by
  cases e with
  | press x y button => by_cases h : button == firstButton <;> simp [handle, Event.held?, h]
  | release x y button => by_cases h : button == firstButton <;> simp [handle, Event.held?, h]
  | keyDown key => simp only [handle]; split <;> rfl
  | _ => rfl

theorem spot_handle : ((i.handle e).pointer.x, (i.handle e).pointer.y) =
    (e.spot?.map (onCanvas i.scale)).getD (i.pointer.x, i.pointer.y) := by
  cases e with
  | press x y button =>
    by_cases h : button == firstButton <;> simp [handle, Event.spot?, h, move, onCanvas]
  | release x y button =>
    by_cases h : button == firstButton <;> simp [handle, Event.spot?, h, move, onCanvas]
  | keyDown key => simp only [handle]; split <;> rfl
  | _ => rfl

theorem mem_keys_handle (key : Int) :
    key ∈ (i.handle e).keys ↔ (e.down? key).getD (decide (key ∈ i.keys)) = true := by
  cases e with
  | press x y button => by_cases h : button == firstButton <;> simp [handle, Event.down?, h]
  | release x y button => by_cases h : button == firstButton <;> simp [handle, Event.down?, h]
  | keyDown k =>
    by_cases hk : k = key
    · by_cases hmem : k ∈ i.keys <;> simp_all [handle, Event.down?]
    · by_cases hmem : k ∈ i.keys <;> simp [handle, Event.down?, hmem, hk, Ne.symm hk]
  | keyUp k =>
    by_cases hk : k = key
    · simp [handle, Event.down?, hk]
    · simp [handle, Event.down?, hk, Ne.symm hk]
  | _ => simp [handle, Event.down?]

/-- An event that is about nothing changes nothing. -/
theorem handle_of_none (hheld : e.held? = none) (hspot : e.spot? = none)
    (hdown : ∀ key, e.down? key = none) : i.handle e = i := by
  cases e with
  | motion x y => cases hspot
  | press x y button =>
    by_cases h : button == firstButton
    · simp [Event.held?, h] at hheld
    · simp [handle, h]
  | release x y button =>
    by_cases h : button == firstButton
    · simp [Event.held?, h] at hheld
    · simp [handle, h]
  | keyDown k => simpa [Event.down?] using hdown k
  | keyUp k => simpa [Event.down?] using hdown k
  | quit => rfl
  | other => rfl

end Handle

/-! ## 3. What events amount to

By induction on the events.  That a press is fresh is kept apart from the others, since it is the
one thing that is forgotten between events. -/

/-- The input of a window with this scale knows what the events amount to.  A press is fresh if it
is among those of `fresh`. -/
structure Knows (i : Input α) (scale : α × α) (es fresh : List (Event α)) : Prop where
  sameScale : i.scale = scale
  pressed : i.pointer.pressed = fresh.any Event.isPress
  down : i.pointer.down = (last? Event.held? es).getD false
  spot : (i.pointer.x, i.pointer.y) =
    ((last? Event.spot? es).map (onCanvas scale)).getD (0.0, 0.0)
  keys : ∀ key, key ∈ i.keys ↔ (last? (Event.down? key) es).getD false = true

variable {i : Input α} {scale : α × α} {es fresh : List (Event α)}

theorem knows_ofScale (scale : α × α) : (ofScale scale : Input α).Knows scale [] [] :=
  ⟨rfl, rfl, rfl, rfl, fun _ => by simp [ofScale, last?]⟩

theorem Knows.handle (h : i.Knows scale es fresh) (e : Event α) :
    (i.handle e).Knows scale (es ++ [e]) (fresh ++ [e]) where
  sameScale := (scale_handle i e).trans h.sameScale
  pressed := by rw [pressed_handle, h.pressed, List.any_append, List.any_cons, List.any_nil,
    Bool.or_false]
  down := by rw [down_handle, h.down, last?_append, last?_singleton, Option.getD_or]
  spot := by rw [spot_handle, h.spot, h.sameScale, last?_append, last?_singleton, Option.map_or,
    Option.getD_or]
  keys key := by
    rw [mem_keys_handle, last?_append, last?_singleton, Option.getD_or]
    cases e.down? key with
    | some b => rfl
    | none => simpa using h.keys key

theorem Knows.handleAll (h : i.Knows scale es fresh) (fs : List (Event α)) :
    (i.handleAll fs).Knows scale (es ++ fs) (fresh ++ fs) := by
  induction fs generalizing i es fresh with
  | nil => simpa [Input.handleAll] using h
  | cons f fs ih => simpa [Input.handleAll] using ih (h.handle f)

/-- After a frame no press is fresh, and all else is as it was. -/
theorem Knows.endFrame (h : i.Knows scale es fresh) : i.endFrame.Knows scale es [] where
  sameScale := h.sameScale
  pressed := rfl
  down := h.down
  spot := h.spot
  keys := h.keys

end Input

namespace World

/-! ## 4. Nothing else touches the input

What scenes do is not among the events, and no tool of a scene writes the input. -/

/-- The input is the same, and it is there as before. -/
structure SameInput (w v : World α) : Prop where
  input : v.input = w.input
  missing : v.missing = w.missing

instance : IsPreorder (World α) SameInput where
  refl _ := ⟨rfl, rfl⟩
  trans _ _ _ h h' := ⟨h'.input.trans h.input, h'.missing.trans h.missing⟩

theorem OwnWork.sameInput {n : Nat} {w v : World α} (h : w.OwnWork n v) : w.SameInput v :=
  ⟨h.input, h.missing⟩

theorem OffDepot.sameInput {w v : World α} (h : w.OffDepot v) : w.SameInput v :=
  (h.ownWork 0).sameInput

variable [Scalar α]

theorem sameInput_changeScene [Host α] (next : Option Nat) :
    (changeScene next : Act (World α) Unit).Moves SameInput := by
  have hown {n : Nat} {w v : World α} (h : w.OwnWork n v) : w.SameInput v := h.sameInput
  have hover : (handOver next : Act (World α) Unit).Moves SameInput :=
    moves_bind (moves_requirePart _).of_eq fun _ =>
      moves_bind (moves_modify fun _ => ⟨rfl, rfl⟩) fun _ => moves_modify fun _ => ⟨rfl, rfl⟩
  unfold changeScene
  exact moves_bind (moves_dismiss_of hown) fun _ =>
    moves_bind (moves_bindNext_of hown next) fun _ =>
      moves_bind hover fun _ => moves_bringUp_of hown next

theorem passes_sameInput [Host α] : Passes (α := α) SameInput where
  places n := (tools_ownWork n).places.mono fun _ _ h => h.sameInput
  call _ := (moves_onDevice _).mono fun _ _ h => h.sameInput
  advance n dt := (moves_advance n dt).mono fun _ _ h => h.sameInput
  sound _ _ := (moves_onDepot _).mono fun _ _ h => h.sameInput
  wish hs hr := (ownWork_nextWish hs hr).sameInput
  change := sameInput_changeScene

/-- **No update touches the input**, whatever it does and whichever scene it leads to. -/
theorem sameInput_update [Host α] (dt : α) : (update dt : Act (World α) Unit).Moves SameInput :=
  moves_ofCurrent fun n => moves_ifHas
    (moves_callUpdate passes_sameInput ((moves_stepPong n dt).mono fun _ _ h => h.sameInput)) n _

omit [Scalar α] in
theorem sameInput_handleEvent : (handleEvent : Act (World α) Unit).Moves SameInput :=
  moves_ofCurrent fun n => moves_ifHas
    ((moves_callEvent n).mono fun _ _ h => h.sameInput) n _

/-! ## 5. Runs

Of all that is asked of a world only events and frames concern the input: the first change it, and
the second forget the fresh press. -/

/-- The events that an operation takes in: those before one that asks to stop. -/
def Operation.heard : Operation α → List (Event α)
  | .events es => es.takeWhile fun e => !e.isQuit
  | _ => []

/-- The operation is an update. -/
def Operation.isPass : Operation α → Bool
  | .pass _ => true
  | _ => false

/-- The events that are taken in in a run. -/
def heard (os : List (Operation α)) : List (Event α) := os.flatMap Operation.heard

/-- The events that are taken in after the last update. -/
def heardSinceUpdate (os : List (Operation α)) : List (Event α) :=
  heard (os.rtakeWhile fun o => !o.isPass)

/-- Every operation of the run ends with a result. -/
def Smooth [Host α] : List (Operation α) → World α → Prop
  | [], _ => True
  | o :: os, w => (o.act.run w).1 = .ok () ∧ Smooth os (o.act.after w)

theorem play_concat [Host α] (os : List (Operation α)) (o : Operation α) (w : World α) :
    play (os ++ [o]) w = o.act.after (play os w) := by
  induction os generalizing w with
  | nil => rfl
  | cons o' os ih => exact ih _

theorem smooth_concat [Host α] {os : List (Operation α)} {o : Operation α} {w : World α}
    (h : Smooth (os ++ [o]) w) :
    Smooth os w ∧ o.act.run (play os w) = (.ok (), o.act.after (play os w)) := by
  induction os generalizing w with
  | nil => exact ⟨trivial, Prod.ext h.1 rfl⟩
  | cons o' os ih =>
    obtain ⟨hrun, hrest⟩ := h
    obtain ⟨hsmooth, hlast⟩ := ih hrest
    exact ⟨⟨hrun, hsmooth⟩, hlast⟩

omit [Scalar α] in
/-- Looking for a part of the engine changes nothing. -/
theorem eq_of_requirePart {p : Part} {w v : World α} {u : Unit}
    (h : (requirePart p).run w = (.ok u, v)) : v = w ∧ w.hasPart p = true := by
  rw [run_requirePart] at h
  split at h
  · next hpart => exact ⟨(congrArg Prod.snd h).symm, hpart⟩
  · cases h

/-- A round of events gives the input all that come before the request to quit, in their order.

By induction on the events; the scene that is handed each of them does not touch the input. -/
theorem input_handleEvents {es : List (Event α)} {w v : World α} {b : Bool}
    (h : (handleEvents es).run w = (.ok b, v)) :
    v.input = w.input.handleAll (es.takeWhile fun e => !e.isQuit) := by
  induction es generalizing w with
  | nil => cases h; rfl
  | cons e es ih =>
    by_cases hquit : e.isQuit = true
    · cases e <;> cases hquit
      cases h
      rfl
    · have htaken : (do
          requirePart .input
          modify fun w => { w with input := w.input.handle e }
          requirePart .director
          handleEvent
          handleEvents es : Act (World α) Bool).run w = (.ok b, v) := by
        cases e <;> first | exact h | exact (hquit rfl).elim
      obtain ⟨_, w₁, hinput, h₁⟩ := run_bind_eq_ok.1 htaken
      obtain rfl := (eq_of_requirePart hinput).1
      obtain ⟨_, w₂, hmodify, h₂⟩ := run_bind_eq_ok.1 h₁
      obtain ⟨_, w₃, hdirector, h₃⟩ := run_bind_eq_ok.1 h₂
      obtain rfl := (eq_of_requirePart hdirector).1
      obtain ⟨_, w₄, hevent, hrest⟩ := run_bind_eq_ok.1 h₃
      have hsame : w₄.input = w₃.input :=
        (after_eq_of_run hevent ▸ sameInput_handleEvent w₃).input
      cases hmodify
      rw [ih hrest, List.takeWhile_cons_of_pos (by simpa using hquit), hsame]
      rfl

/-- An update that ends with a result has the same input from beginning to end, and then no press is
fresh. -/
theorem input_tick [Host α] {dt : α} {w v : World α} (h : (tick dt).run w = (.ok (), v)) :
    w.hasPart .input = true ∧ v.input = w.input.endFrame := by
  unfold tick at h
  obtain ⟨_, w₁, hdirector, h₁⟩ := run_bind_eq_ok.1 h
  obtain rfl := (eq_of_requirePart hdirector).1
  obtain ⟨_, w₂, hupdate, h₂⟩ := run_bind_eq_ok.1 h₁
  obtain ⟨_, w₃, hinput, hend⟩ := run_bind_eq_ok.1 h₂
  obtain ⟨rfl, hpart⟩ := eq_of_requirePart hinput
  have hsame : w₁.SameInput w₃ := after_eq_of_run hupdate ▸ sameInput_update _ w₁
  cases hend
  refine ⟨?_, congrArg Input.endFrame hsame.input⟩
  unfold hasPart at hpart ⊢
  rw [← hsame.missing]
  exact hpart

/-- What an operation does to the input.  An update forgets what was pressed, events add to it,
and everything else leaves the input alone. -/
theorem Knows.act [Host α] {w v : World α} {scale : α × α} {es fresh : List (Event α)}
    {o : Operation α}
    (hw : w.input.Knows scale es fresh) (h : o.act.run w = (.ok (), v)) :
    v.input.Knows scale (es ++ o.heard) (if o.isPass then [] else fresh ++ o.heard) := by
  have hquiet (hx : w.SameInput v) : v.input.Knows scale (es ++ []) (fresh ++ []) := by
    rw [hx.input, List.append_nil, List.append_nil]
    exact hw
  have hafter : o.act.after w = v := after_eq_of_run h
  cases o with
  | register name n =>
    cases h
    exact hquiet ⟨rfl, rfl⟩
  | switchTo name => exact hquiet (hafter ▸ moves_switchTo passes_sameInput name w)
  | change next => exact hquiet (hafter ▸ sameInput_changeScene next w)
  | switchState name =>
    exact hquiet (hafter ▸
      moves_ofCurrent (fun n => (passes_sameInput.places n).switchToState name) w)
  | events evs =>
    obtain ⟨b, u, hevents, hdone⟩ := run_bind_eq_ok.1 h
    cases hdone
    rw [input_handleEvents hevents]
    exact hw.handleAll _
  | pass dt =>
    rw [(input_tick h).2]
    simpa [Operation.heard, Operation.isPass] using hw.endFrame

/-- **After a run the input knows what the events of the run amount to.** -/
theorem knows_play [Host α] {scale : α × α} {w : World α} (hw : w.input = .ofScale scale)
    {os : List (Operation α)} (h : Smooth os w) :
    (play os w).input.Knows scale (heard os) (heardSinceUpdate os) := by
  induction os using List.reverseRecOn with
  | nil => exact hw ▸ Input.knows_ofScale scale
  | append_singleton os o ih =>
    obtain ⟨hsmooth, hlast⟩ := smooth_concat h
    have hstep := Knows.act (ih hsmooth) hlast
    have hheard : heard (os ++ [o]) = heard os ++ o.heard := by simp [heard]
    have hsince : heardSinceUpdate (os ++ [o]) =
        if o.isPass then [] else heardSinceUpdate os ++ o.heard := by
      unfold heardSinceUpdate
      cases hpass : o.isPass with
      | true => rw [List.rtakeWhile_concat_neg _ _ _ (by simp [hpass])]; rfl
      | false => rw [List.rtakeWhile_concat_pos _ _ _ (by simp [hpass])]; simp [heard]
    rw [play_concat, hheard, hsince]
    exact hstep

/-! ## 6. What is found

What a scene finds in its update is what the section before says of the input at that time. -/

omit [Scalar α] in
/-- A scene that can reach the input finds a press in it exactly if it is fresh. -/
theorem result_freshPress? {n : Nat} {w : World α} {s : Scene α} (hs : w.scenes[n]? = some s)
    (hbound : s.bound = true) (hpart : w.hasPart .input = true) :
    ((freshPress? n).run w).1 =
      .ok (if w.input.pointer.pressed then some w.input.pointer else none) := by
  have hreach : (reaches n .input).run w = (.ok true, w) := by
    rw [run_reaches, hs]
    dsimp only
    rw [hbound, hpart]
    rfl
  unfold freshPress?
  rw [run_bind_of_ok (run_get w), run_bind_of_ok hreach]
  rfl

/-- A document looks for a press when its animations have moved on, and finds the input as it
was. -/
theorem result_freshPress?_advance {n : Nat} {w : World α} {s : Scene α} (dt : α)
    (hs : w.scenes[n]? = some s) (hbound : s.bound = true) (hpart : w.hasPart .input = true) :
    ((freshPress? n).run ((advance n dt).after w)).1 =
      .ok (if w.input.pointer.pressed then some w.input.pointer else none) := by
  have hown : w.OwnWork n ((advance n dt).after w) := moves_advance n dt w
  obtain ⟨t, ht, hlasts⟩ := hown.scenes n s hs
  have hpart' : ((advance n dt).after w).hasPart .input = true := by
    unfold hasPart at hpart ⊢
    rw [hown.missing]
    exact hpart
  rw [result_freshPress? ht (hlasts.bound hbound) hpart', hown.input]

/-- **The input is what the events amount to, and a press is fresh for one update.**

From a window whose input is untouched, a run of operations that all end with a result, events and
updates among them: then

* a press is fresh exactly if the button that counts was pressed since the last update;
* in an update that ends with a result the input stays as it is until the scenes are done, so this
  is what the current scene finds; when the update is over no press is fresh, whichever scene is
  current then;
* the button is held exactly if the last event of it was a press;
* the pointer is at the scaled place of the last motion or event of the button;
* one of some keys is down exactly if the last event of one of them was that it was pressed;
* an event of another button, or of another kind, changes nothing. -/
theorem input_of_events [Host α] {scale : α × α} {start : World α}
    (hstart : start.input = .ofScale scale)
    {os : List (Operation α)} (hsmooth : Smooth os start) :
    let w := play os start
    (w.input.pointer.pressed = true ↔ ∃ e ∈ heardSinceUpdate os, e.isPress = true) ∧
    (∀ dt v, (tick dt).run w = (.ok (), v) →
      ((update (Scalar.min dt longestFrame)).after w).input = w.input ∧
      (∀ n s, w.current = some n → w.scenes[n]? = some s → s.bound = true →
        ((freshPress? n).run ((advance n (Scalar.min dt longestFrame)).after w)).1 =
          .ok (if w.input.pointer.pressed then some w.input.pointer else none)) ∧
      v.input = { w.input with pointer := { w.input.pointer with pressed := false } }) ∧
    (w.input.pointer.down = true ↔ Input.last? Event.held? (heard os) = some true) ∧
    (w.input.pointer.x, w.input.pointer.y) =
      (match Input.last? Event.spot? (heard os) with
      | some (x, y) => (x * scale.1, y * scale.2)
      | none => (0.0, 0.0)) ∧
    (∀ keys, w.input.isDown keys = true ↔
      ∃ key ∈ keys, Input.last? (Event.down? key) (heard os) = some true) ∧
    ∀ (i : Input α) (e : Event α), e.held? = none → e.spot? = none →
      (∀ key, e.down? key = none) → i.handle e = i := by
  intro w
  have hknows : w.input.Knows scale (heard os) (heardSinceUpdate os) := knows_play hstart hsmooth
  refine ⟨?_, fun dt v hrun => ⟨?_, fun n s _ hs hbound => ?_, (input_tick hrun).2⟩, ?_, ?_,
    fun keys => ?_, Input.handle_of_none⟩
  · rw [hknows.pressed, List.any_eq_true]
  · exact (sameInput_update _ w).input
  · exact result_freshPress?_advance _ hs hbound (input_tick hrun).1
  · rw [hknows.down]
    cases Input.last? Event.held? (heard os) <;> simp
  · rw [hknows.spot]
    cases Input.last? Event.spot? (heard os) <;> rfl
  · unfold Input.isDown
    rw [List.any_eq_true]
    refine exists_congr fun key => and_congr_right fun _ => ?_
    rw [List.contains_iff_mem, hknows.keys key]
    cases Input.last? (Event.down? key) (heard os) <;> simp

/-! The door of the hall leads to the yard, which has a door at the same place.  The press that
opens the first does not open the second. -/

/-- The house behind a window in which a pixel is two of the canvas across and three down. -/
def houseInWindow : World Rat := { house with input := .ofScale (2, 3) }

/-- The door is pressed with a key held down. -/
def knockOnce : List (Operation Rat) :=
  [.switchTo (.text "hall"), .events [.motion 90 90, .press 10 10 1, .keyDown Key.w, .press 5 5 2]]

/-- Then time passes, which leads to the yard. -/
def knockAndWait : List (Operation Rat) := knockOnce ++ [.pass 1]

/-- The press is fresh before the frame that uses it and stale afterwards, while the button and a
key are still held. -/
theorem input_of_events_knock :
    Smooth knockOnce houseInWindow ∧ Smooth knockAndWait houseInWindow ∧
      (play knockOnce houseInWindow).input.pointer.pressed = true ∧
      (play knockAndWait houseInWindow).current = some 1 ∧
      (play knockAndWait houseInWindow).input.pointer.pressed = false ∧
      (play knockAndWait houseInWindow).input.pointer.down = true ∧
      ((play knockAndWait houseInWindow).input.pointer.x,
        (play knockAndWait houseInWindow).input.pointer.y) = (20, 30) ∧
      (play knockAndWait houseInWindow).input.isDown [Key.s, Key.w] = true := by
  have hstart : houseInWindow.input = .ofScale (2, 3) := rfl
  have hbefore : Smooth knockOnce houseInWindow :=
    ⟨eq_ok_of_toOption (by decide +kernel), eq_ok_of_toOption (by decide +kernel), trivial⟩
  have hafter : Smooth knockAndWait houseInWindow :=
    ⟨eq_ok_of_toOption (by decide +kernel), eq_ok_of_toOption (by decide +kernel),
      eq_ok_of_toOption (by decide +kernel), trivial⟩
  have hcurrent : (play knockAndWait houseInWindow).current = some 1 := by decide +kernel
  have hlast : Input.last? Event.spot? (heard knockAndWait) = some (10, 10) := rfl
  have hscaled : ((10 : Rat) * 2, (10 : Rat) * 3) = (20, 30) := by decide +kernel
  obtain ⟨hpressed, -⟩ := input_of_events hstart hbefore
  obtain ⟨hfresh, -, hdown, hspot, hkeys, -⟩ := input_of_events hstart hafter
  rw [hlast] at hspot
  refine ⟨hbefore, hafter, hpressed.2 ⟨.press 10 10 1, ?_, rfl⟩, hcurrent, ?_, hdown.2 rfl,
    hspot.trans hscaled, (hkeys _).2 ⟨Key.w, by decide, rfl⟩⟩
  · exact .tail _ (.head _)
  · refine Bool.eq_false_iff.2 fun h => ?_
    obtain ⟨e, he, -⟩ := hfresh.1 h
    cases he

end World

end Diorama
