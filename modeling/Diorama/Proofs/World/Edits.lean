/-
# What edits leave in the layers

A compositor is changed by edits only, so what a layer holds is decided by the edits so far.  A
thing is in a layer if some edit put it there and no later one took it out: that edit *survives*.
Where several edits that put the same thing survive, the first of them is the one that did it, and
the things of a layer are in the order of these first surviving edits.

To one layer an edit is one of four things (`Edit.change`): it puts a thing there, takes one out,
empties the layer, or is nothing to it.  So everything is first shown of a list of such changes
(`Change.replay_records`), and then of a compositor, layer by layer.  Edits that concern different
layers can be exchanged, since every layer sees its own changes in the same order.
-/
import Diorama.Proofs.World.History
import Mathlib.Algebra.GroupWithZero.Nat
import Mathlib.Data.List.Induction
import Mathlib.Data.List.Nodup
import Mathlib.Data.Nat.Find

namespace Diorama

open Act

variable {α ι : Type}

/-! ## 1. What an edit is to a layer

`Survives` and `SurvivesFirst` speak of positions in a list of changes.  A position may survive
more changes or fewer, depending on what comes after it; so the lemmas say what one change at the
end does. -/

/-- What an edit can be to a layer. -/
inductive Change (ι : Type) where
  | nothing
  | put (i : ι)
  | take (i : ι)
  | empty
  deriving DecidableEq

/-- What an edit is to the layer `l`: an edit of another layer, or of no layer, is nothing. -/
def Edit.change (l : Layer) : Edit α ι → Change ι
  | .add i layer => if Layer.ofChoice? layer = some l then .put i else .nothing
  | .remove i layer => if Layer.ofChoice? layer = some l then .take i else .nothing
  | .clear layer => if Layer.ofChoice? layer = some l then .empty else .nothing
  | .clearAll => .empty

namespace Change

/-- Whether a change is one. -/
def matters : Change ι → Bool
  | .nothing => false
  | _ => true

/-- The change takes a thing out of a layer that has it. -/
def Drops (i : ι) : Change ι → Prop
  | .take j => j = i
  | .empty => True
  | .nothing | .put _ => False

/-- The change number `k` puts the thing there, and no later one takes it out. -/
structure Survives (cs : List (Change ι)) (i : ι) (k : Nat) : Prop where
  put : cs[k]? = some (.put i)
  kept : ∀ m c, k < m → cs[m]? = some c → ¬ c.Drops i

/-- The change number `k` is the first one of the thing to survive. -/
structure SurvivesFirst (cs : List (Change ι)) (i : ι) (k : Nat) : Prop
    extends Survives cs i k where
  first : ∀ m, Survives cs i m → k ≤ m

/-- A change survives one more change if that does not take the thing out, and it survives as the
last one itself. -/
theorem survives_concat {cs : List (Change ι)} {c : Change ι} {i : ι} {k : Nat} :
    Survives (cs ++ [c]) i k ↔
      Survives cs i k ∧ ¬ c.Drops i ∨ k = cs.length ∧ c = .put i := by
  constructor
  · rintro ⟨hput, hkept⟩
    rcases Nat.lt_or_ge k cs.length with hk | hk
    · rw [List.getElem?_append_left hk] at hput
      refine Or.inl ⟨⟨hput, fun m d hm hd => hkept m d hm ?_⟩, hkept cs.length c hk (by simp)⟩
      rw [List.getElem?_append_left (List.getElem?_eq_some_iff.1 hd).1]
      exact hd
    · rw [List.getElem?_append_right hk, List.getElem?_singleton] at hput
      split at hput
      · exact Or.inr ⟨by omega, Option.some.inj hput⟩
      · cases hput
  · rintro (⟨⟨hput, hkept⟩, hc⟩ | ⟨rfl, rfl⟩)
    · have hk : k < cs.length := (List.getElem?_eq_some_iff.1 hput).1
      refine ⟨by rw [List.getElem?_append_left hk, hput], fun m d hm hd => ?_⟩
      rcases Nat.lt_or_ge m cs.length with hlt | hge
      · rw [List.getElem?_append_left hlt] at hd
        exact hkept m d hm hd
      · rw [List.getElem?_append_right hge, List.getElem?_singleton] at hd
        split at hd
        · exact Option.some.inj hd ▸ hc
        · cases hd
    · refine ⟨by simp, fun m d hm hd => ?_⟩
      have hlt := (List.getElem?_eq_some_iff.1 hd).1
      simp only [List.length_append, List.length_cons, List.length_nil] at hlt
      omega

/-- A surviving change is in the list. -/
theorem Survives.lt {cs : List (Change ι)} {i : ι} {k : Nat} (h : Survives cs i k) :
    k < cs.length := (List.getElem?_eq_some_iff.1 h.put).1

/-- What survives at all has a first. -/
theorem Survives.exists_first {cs : List (Change ι)} {i : ι} {k : Nat} (h : Survives cs i k) :
    ∃ m, SurvivesFirst cs i m := by
  classical
  have hex : ∃ m, Survives cs i m := ⟨k, h⟩
  exact ⟨Nat.find hex, Nat.find_spec hex, fun m hm => Nat.find_min' hex hm⟩

/-- There is one first. -/
theorem SurvivesFirst.unique {cs : List (Change ι)} {i : ι} {k m : Nat}
    (h : SurvivesFirst cs i k) (h' : SurvivesFirst cs i m) : k = m :=
  Nat.le_antisymm (h.first m h'.toSurvives) (h'.first k h.toSurvives)

/-- The first one stays the first as long as nothing takes the thing out. -/
theorem SurvivesFirst.concat {cs : List (Change ι)} {c : Change ι} {i : ι} {k : Nat}
    (h : SurvivesFirst cs i k) (hc : ¬ c.Drops i) : SurvivesFirst (cs ++ [c]) i k := by
  refine ⟨survives_concat.2 (Or.inl ⟨h.toSurvives, hc⟩), fun m hm => ?_⟩
  rcases survives_concat.1 hm with ⟨hm, -⟩ | ⟨rfl, -⟩
  · exact h.first m hm
  · exact Nat.le_of_lt h.lt

/-- Something that was there before a change had the same first one then. -/
theorem SurvivesFirst.of_concat {cs : List (Change ι)} {c : Change ι} {i : ι} {k m : Nat}
    (h : SurvivesFirst (cs ++ [c]) i k) (hm : Survives cs i m) (hc : ¬ c.Drops i) :
    SurvivesFirst cs i k := by
  obtain ⟨m, hm⟩ := hm.exists_first
  rw [h.unique (hm.concat hc)]
  exact hm

/-! ## 2. A layer under a list of changes

By induction on the list from its end: whatever the last change is, the three properties of
`Records` are kept.  A thing that is put again keeps its place, and one that is put back after it
was taken out comes last. -/

/-- The things are those with a surviving change, each once, in the order of their first ones. -/
structure Records (cs : List (Change ι)) (is : List ι) : Prop where
  nodup : is.Nodup
  mem_iff : ∀ i, i ∈ is ↔ ∃ k, Survives cs i k
  ordered : is.Pairwise fun i j =>
    ∀ a b, SurvivesFirst cs i a → SurvivesFirst cs j b → a < b

/-- Things that a change does not take out keep their order. -/
theorem Records.ordered_of_sublist {cs : List (Change ι)} {is js : List ι} {c : Change ι}
    (h : Records cs is) (hjs : js.Sublist is) (hc : ∀ i ∈ js, ¬ c.Drops i) :
    js.Pairwise fun i j =>
      ∀ a b, SurvivesFirst (cs ++ [c]) i a → SurvivesFirst (cs ++ [c]) j b → a < b := by
  refine (h.ordered.sublist hjs).imp_of_mem fun {i j} hi hj hij a b ha hb => ?_
  obtain ⟨k, hk⟩ := (h.mem_iff i).1 (hjs.subset hi)
  obtain ⟨m, hm⟩ := (h.mem_iff j).1 (hjs.subset hj)
  exact hij a b (ha.of_concat hk (hc i hi)) (hb.of_concat hm (hc j hj))

/-- A change that only takes out leaves what it does not take. -/
theorem Records.of_drops {cs : List (Change ι)} {is js : List ι} {c : Change ι}
    (h : Records cs is) (hc : ∀ i, c ≠ .put i) (hjs : js.Sublist is)
    (hmem : ∀ i, i ∈ js ↔ i ∈ is ∧ ¬ c.Drops i) : Records (cs ++ [c]) js where
  nodup := h.nodup.sublist hjs
  mem_iff i := by
    rw [hmem, h.mem_iff]
    constructor
    · rintro ⟨⟨k, hk⟩, hi⟩
      exact ⟨k, survives_concat.2 (Or.inl ⟨hk, hi⟩)⟩
    · rintro ⟨k, hk⟩
      rcases survives_concat.1 hk with ⟨hk, hi⟩ | ⟨-, hput⟩
      · exact ⟨⟨k, hk⟩, hi⟩
      · exact (hc i hput).elim
  ordered := h.ordered_of_sublist hjs fun i hi => ((hmem i).1 hi).2

theorem exists_survives_put {cs : List (Change ι)} {i j : ι} :
    (∃ k, Survives (cs ++ [.put i]) j k) ↔ (∃ k, Survives cs j k) ∨ j = i := by
  constructor
  · rintro ⟨k, hk⟩
    rcases survives_concat.1 hk with ⟨hk, -⟩ | ⟨-, hput⟩
    · exact Or.inl ⟨k, hk⟩
    · cases hput
      exact Or.inr rfl
  · rintro (⟨k, hk⟩ | rfl)
    · exact ⟨k, survives_concat.2 (Or.inl ⟨hk, id⟩)⟩
    · exact ⟨cs.length, survives_concat.2 (Or.inr ⟨rfl, rfl⟩)⟩

section Put

variable {cs : List (Change ι)} {is : List ι} {i : ι}

/-- Putting a thing where it is changes nothing. -/
theorem Records.put_again (h : Records cs is) (hi : i ∈ is) : Records (cs ++ [.put i]) is where
  nodup := h.nodup
  mem_iff j := by
    rw [exists_survives_put, ← h.mem_iff]
    exact ⟨Or.inl, fun hj => hj.elim id fun hji => hji ▸ hi⟩
  ordered := h.ordered_of_sublist (List.Sublist.refl is) fun _ _ => id

/-- A thing that is put where it is not comes last. -/
theorem Records.put_new (h : Records cs is) (hi : i ∉ is) :
    Records (cs ++ [.put i]) (is ++ [i]) where
  nodup := List.nodup_append.2 ⟨h.nodup, List.nodup_singleton i, fun _ hj _ hk hjk =>
    hi (List.mem_singleton.1 hk ▸ hjk ▸ hj)⟩
  mem_iff j := by rw [List.mem_append, List.mem_singleton, exists_survives_put, h.mem_iff]
  ordered := by
    refine List.pairwise_append.2 ⟨h.ordered_of_sublist (List.Sublist.refl is) fun _ _ => id,
      List.pairwise_singleton _ _, fun j hj k hk a b ha hb => ?_⟩
    obtain rfl := List.mem_singleton.1 hk
    obtain ⟨m, hm⟩ := (h.mem_iff j).1 hj
    have hlt : a < cs.length := (ha.of_concat hm id).lt
    rcases survives_concat.1 hb.toSurvives with ⟨hb, -⟩ | ⟨rfl, -⟩
    · exact (hi ((h.mem_iff k).2 ⟨b, hb⟩)).elim
    · exact hlt

end Put

variable [DecidableEq ι]

/-- What a change makes of the things in a layer. -/
def apply : Change ι → List ι → List ι
  | .nothing, is => is
  | .put i, is => if i ∈ is then is else is ++ [i]
  | .take i, is => is.erase i
  | .empty, _ => []

theorem apply_eq_self {c : Change ι} (h : c.matters = false) (is : List ι) : c.apply is = is := by
  cases c with
  | nothing => rfl
  | _ => cases h

/-- What changes make of an empty layer. -/
def replay (cs : List (Change ι)) : List ι := cs.foldl (fun is c => c.apply is) []

theorem replay_concat (cs : List (Change ι)) (c : Change ι) :
    replay (cs ++ [c]) = c.apply (replay cs) := by
  simp only [replay, List.foldl_append, List.foldl_cons, List.foldl_nil]

theorem Records.put {cs : List (Change ι)} {is : List ι} (h : Records cs is) (i : ι) :
    Records (cs ++ [.put i]) ((Change.put i).apply is) := by
  change Records _ (if i ∈ is then is else is ++ [i])
  split
  · next hi => exact h.put_again hi
  · next hi => exact h.put_new hi

/-- **What a list of changes leaves is exactly what survives, in the order of survival.** -/
theorem replay_records (cs : List (Change ι)) : Records cs (replay cs) := by
  induction cs using List.reverseRecOn with
  | nil =>
    refine ⟨List.nodup_nil, fun i => ⟨nofun, ?_⟩, List.Pairwise.nil⟩
    rintro ⟨k, hk⟩
    exact (Nat.not_lt_zero k hk.lt).elim
  | append_singleton cs c ih =>
    rw [replay_concat]
    cases c with
    | nothing =>
      exact ih.of_drops nofun (List.Sublist.refl _) fun i => ⟨fun hi => ⟨hi, id⟩, And.left⟩
    | put i => exact ih.put i
    | take i =>
      refine ih.of_drops nofun List.erase_sublist fun j => ?_
      change j ∈ (replay cs).erase i ↔ j ∈ replay cs ∧ ¬ i = j
      rw [ih.nodup.mem_erase_iff, and_comm, ne_comm]
    | empty =>
      exact ih.of_drops nofun (List.nil_sublist _) fun i => ⟨nofun, fun hi => (hi.2 trivial).elim⟩

/-- Changes that are nothing to a layer can be left out. -/
theorem replay_filter (cs : List (Change ι)) : replay (cs.filter matters) = replay cs := by
  induction cs using List.reverseRecOn with
  | nil => rfl
  | append_singleton cs c ih =>
    rw [List.filter_append, replay_concat]
    cases hc : c.matters with
    | true => rw [List.filter_cons_of_pos hc, List.filter_nil, replay_concat, ih]
    | false =>
      rw [List.filter_cons_of_neg (Bool.eq_false_iff.1 hc), List.filter_nil, List.append_nil, ih,
        apply_eq_self hc]

end Change

/-! ## 3. A compositor under a list of edits

A compositor has a list of things for each layer, and an edit is one change to each of them.  So
what is true of changes is true of edits, layer by layer. -/

/-- Whether an edit is anything to a layer. -/
def Edit.concerns (l : Layer) (e : Edit α ι) : Bool := (e.change l).matters

namespace Compositor

/-- Compositors with the same things in every layer are the same. -/
theorem ext_items {c d : Compositor ι} (h : ∀ l, c.items l = d.items l) : c = d := by
  obtain ⟨s⟩ := c
  obtain ⟨t⟩ := d
  have hlayer (k : Nat) (hk : k < 7) : ∃ l : Layer, (l.index : Nat) = k := by
    match k, hk with
    | 0, _ => exact ⟨.farBackground, rfl⟩
    | 1, _ => exact ⟨.nearBackground, rfl⟩
    | 2, _ => exact ⟨.pictures, rfl⟩
    | 3, _ => exact ⟨.shapes, rfl⟩
    | 4, _ => exact ⟨.sprites, rfl⟩
    | 5, _ => exact ⟨.texts, rfl⟩
    | 6, _ => exact ⟨.buttons, rfl⟩
  congr 1
  refine Vector.ext fun k hk => ?_
  obtain ⟨l, rfl⟩ := hlayer k hk
  exact h l

/-- How many things there are is the sum over the layers. -/
theorem size_eq_sum (c : Compositor ι) : c.size = (Layer.all.map c.count).sum := by
  unfold size
  rw [List.sum_eq_foldl, List.foldl_map]

variable [DecidableEq ι]

/-- A compositor that was empty before some edits. -/
def edited (es : List (Edit α ι)) : Compositor ι := es.foldl apply {}

/-- Adding a thing replaces the things of its layer, if only by themselves. -/
theorem add_eq (c : Compositor ι) (i : ι) (l : Layer) :
    c.add i l = c.setItems l ((Change.put i).apply (c.items l)) := by
  change _ = c.setItems l (if i ∈ c.items l then c.items l else c.items l ++ [i])
  refine ext_items fun m => ?_
  unfold add
  rw [items_setItems]
  split
  · split
    · next hlm => rw [hlm]
    · rfl
  · rw [items_setItems]

/-- An edit changes each layer by what it is to that layer.  For an edit of one layer this is a
case distinction on whether it is the layer in question; an edit under no layer is nothing to all
of them. -/
theorem items_apply (c : Compositor ι) (e : Edit α ι) (l : Layer) :
    (c.apply e).items l = (e.change l).apply (c.items l) := by
  have hset {m : Layer} {is : List ι} {d : Change ι} (h : m = l → is = d.apply (c.items m)) :
      (c.setItems m is).items l =
        (if some m = some l then d else .nothing).apply (c.items l) := by
    rw [items_setItems]
    by_cases hm : m = l
    · rw [if_pos hm, if_pos (congrArg some hm), h hm, hm]
    · rw [if_neg hm, if_neg fun h => hm (Option.some.inj h)]
      rfl
  cases e with
  | add i layer =>
    dsimp only [apply, Edit.change]
    cases Layer.ofChoice? layer with
    | none => rfl
    | some m =>
      dsimp only
      rw [add_eq]
      exact hset fun _ => rfl
  | remove i layer =>
    dsimp only [apply, Edit.change]
    cases Layer.ofChoice? layer with
    | none => rfl
    | some m => exact hset fun _ => rfl
  | clear layer =>
    dsimp only [apply, Edit.change]
    cases Layer.ofChoice? layer with
    | none => rfl
    | some m => exact hset fun _ => rfl
  | clearAll => exact items_empty l

/-- An edit of no layer that there is changes nothing. -/
theorem apply_eq_self (c : Compositor ι) {e : Edit α ι} (h : ∀ l, e.concerns l = false) :
    c.apply e = c :=
  ext_items fun l => by rw [items_apply, Change.apply_eq_self (h l)]

theorem items_foldl (es : List (Edit α ι)) (c : Compositor ι) (l : Layer) :
    (es.foldl apply c).items l =
      (es.map (Edit.change l)).foldl (fun is d => d.apply is) (c.items l) := by
  induction es generalizing c with
  | nil => rfl
  | cons e es ih => rw [List.foldl_cons, ih, items_apply, List.map_cons, List.foldl_cons]

/-- A layer sees only its own changes. -/
theorem items_edited (es : List (Edit α ι)) (l : Layer) :
    (edited es).items l = Change.replay (es.map (Edit.change l)) := by
  rw [edited, items_foldl, items_empty]
  rfl

/-- A layer does not see the edits that are nothing to it. -/
theorem items_edited_filter (es : List (Edit α ι)) (l : Layer) :
    (edited (es.filter (Edit.concerns l))).items l = (edited es).items l := by
  have hfilter : (es.filter (Edit.concerns l)).map (Edit.change l) =
      (es.map (Edit.change l)).filter Change.matters := by
    rw [List.filter_map]
    rfl
  rw [items_edited, items_edited, hfilter, Change.replay_filter]

end Compositor

/-! ## 4. Drawing

Drawing goes through the layers from bottom to top and asks everything with a `render`. -/

/-- Whether something in a layer can be asked to draw itself. -/
def Occupant.drawable : Occupant → Bool
  | .entity _ => true
  | .scene _ => false
  | .marker m => m.reaction != .silent

namespace World

variable [Scalar α]

/-- What cannot be drawn is passed over. -/
theorem drawOccupant_eq_pure [Host α] {o : Occupant} (h : o.drawable = false) :
    (drawOccupant o : Act (World α) Unit) = pure () := by
  cases o with
  | entity k => cases h
  | scene k => rfl
  | marker m =>
    obtain ⟨number, name, reaction⟩ := m
    cases reaction with
    | silent => rfl
    | drawn => cases h
    | broken => cases h

theorem forM_drawOccupant [Host α] (os : List Occupant) :
    (os.forM drawOccupant : Act (World α) Unit) =
      (os.filter Occupant.drawable).forM drawOccupant := by
  induction os with
  | nil => rfl
  | cons o os ih =>
    change (drawOccupant o >>= fun _ => os.forM drawOccupant) = _
    rw [ih]
    cases ho : o.drawable with
    | true =>
      rw [List.filter_cons_of_pos ho]
      rfl
    | false =>
      rw [List.filter_cons_of_neg (by rw [ho]; decide), drawOccupant_eq_pure ho, pure_bind]

/-- Markers that can be drawn are drawn one after the other.  By induction on the markers; each of
them adds one call and nothing else. -/
theorem run_drawMarkers [Host α] (ms : List Marker) (h : ∀ m ∈ ms, m.reaction = .drawn)
    (w : World α) :
    ∃ v, ((ms.map Occupant.marker).forM drawOccupant).run w = (.ok (), v) ∧
      v.depot.device.calls =
        w.depot.device.calls ++ (ms.map fun m => Call.drawn m.name).toArray := by
  induction ms generalizing w with
  | nil => exact ⟨w, rfl, by simp⟩
  | cons m ms ih =>
    have hm : (drawOccupant (.marker m)).run w =
        (.ok (), (onDevice (Device.call (.drawn m.name))).after w) := by
      change (onDevice (drawMarker m)).run w = _
      unfold drawMarker
      rw [h m List.mem_cons_self]
      rfl
    obtain ⟨v, hrun, hcalls⟩ := ih (fun m hm => h m (List.mem_cons_of_mem _ hm))
      ((onDevice (Device.call (.drawn m.name))).after w)
    refine ⟨v, ?_, ?_⟩
    · change (drawOccupant (.marker m) >>= fun _ =>
        (ms.map Occupant.marker).forM drawOccupant).run w = _
      rw [run_bind_of_ok hm, hrun]
    · rw [hcalls]
      change (w.depot.device.calls.push _) ++ _ = _
      simp

/-- What drawing a compositor asks to draw itself, in order. -/
def drawn (c : Compositor Occupant) : List Occupant :=
  Layer.all.flatMap fun l => (c.items l).filter Occupant.drawable

/-- Drawing the layers asks those in them that can be drawn, from bottom to top. -/
theorem run_drawLayers [Host α] {w : World α} (h : w.hasPart .compositor = true) :
    drawLayers.run w = ((drawn w.compositor).forM drawOccupant).run w := by
  unfold drawLayers
  rw [run_bind_of_ok (by rw [run_requirePart, if_pos h]), run_bind_of_ok (run_get w),
    forM_drawOccupant]
  unfold Compositor.drawOrder
  rw [List.filter_flatMap]
  rfl

/-! ## 5. The layers of a history

The theorem puts the sections together. -/

/-- **What is in the layers is decided by the edits so far.**  Of every thing it is said whether it
is in a layer, once, and of two things in a layer which comes first.  Edits of unknown layers change
nothing.  Drawing asks those that can be drawn, layer by layer, and nothing else.  Histories in
which every layer sees the same edits leave the same layers. -/
theorem layers_of_edits [Host α] (es : List (Edit α Occupant)) :
    (∀ (l : Layer) (o : Occupant),
      (∃ k, Change.Survives (es.map (Edit.change l)) o k) ∧
          ((Compositor.edited es).items l).count o = 1 ∨
        (¬ ∃ k, Change.Survives (es.map (Edit.change l)) o k) ∧
          o ∉ (Compositor.edited es).items l) ∧
    (∀ l, ((Compositor.edited es).items l).Pairwise fun o p =>
      ∃ a b, Change.SurvivesFirst (es.map (Edit.change l)) o a ∧
        Change.SurvivesFirst (es.map (Edit.change l)) p b ∧ a < b) ∧
    (∀ (c : Compositor Occupant) (e : Edit α Occupant),
      (∀ l, e.concerns l = false) → c.apply e = c) ∧
    (∀ w : World α, w.compositor = Compositor.edited es → w.hasPart .compositor = true →
      drawLayers.run w = ((drawn (Compositor.edited es)).forM drawOccupant).run w ∧
      ∀ ms : List Marker, (∀ m ∈ ms, m.reaction = .drawn) →
        drawn (Compositor.edited es) = ms.map Occupant.marker →
        ∃ v, drawLayers.run w = (.ok (), v) ∧ v.depot.device.calls =
          w.depot.device.calls ++ (ms.map fun m => Call.drawn m.name).toArray) ∧
    (∀ es' : List (Edit α Occupant),
      (∀ l, es'.filter (Edit.concerns l) = es.filter (Edit.concerns l)) →
        Compositor.edited es' = Compositor.edited es) ∧
    (Compositor.edited es).size = (Layer.all.map (Compositor.edited es).count).sum := by
  have hrec (l : Layer) : Change.Records (es.map (Edit.change l))
      ((Compositor.edited es).items l) := by
    rw [Compositor.items_edited]
    exact Change.replay_records _
  refine ⟨fun l o => ?_, fun l => ?_, fun c e h => c.apply_eq_self h, fun w hw hpart => ?_,
    fun es' h => ?_, Compositor.size_eq_sum _⟩
  · by_cases ho : o ∈ (Compositor.edited es).items l
    · exact Or.inl ⟨((hrec l).mem_iff o).1 ho, List.count_eq_one_of_mem (hrec l).nodup ho⟩
    · exact Or.inr ⟨fun hk => ho (((hrec l).mem_iff o).2 hk), ho⟩
  · refine (hrec l).ordered.imp_of_mem fun {o p} ho hp hop => ?_
    obtain ⟨k, hk⟩ := ((hrec l).mem_iff o).1 ho
    obtain ⟨m, hm⟩ := ((hrec l).mem_iff p).1 hp
    obtain ⟨a, ha⟩ := hk.exists_first
    obtain ⟨b, hb⟩ := hm.exists_first
    exact ⟨a, b, ha, hb, hop a b ha hb⟩
  · have hrun := run_drawLayers hpart
    rw [hw] at hrun
    refine ⟨hrun, fun ms hms heq => ?_⟩
    rw [hrun, heq]
    exact run_drawMarkers ms hms w
  · refine Compositor.ext_items fun l => ?_
    rw [← Compositor.items_edited_filter, h l, Compositor.items_edited_filter]

/-! Three things: two are drawn, one stays silent.  The star is put behind the others, then taken
out of the texts and put there again, on top. -/

def star : Marker := { number := 0, name := "star" }

def moon : Marker := { number := 1, name := "moon" }

def void : Marker := { number := 2, name := "void", reaction := .silent }

def sky : List (Edit Rat Occupant) := [
  .add (.marker star) (.value (.text "TEXT")),
  .add (.marker moon) (.member .texts),
  .add (.marker star) (.member .shapes),
  .add (.marker void) (.member .texts),
  .remove (.marker star) (.value (.text "TEXT")),
  .add (.marker moon) (.value (.text "nowhere")),
  .add (.marker moon) (.value (.text "TEXT")),
  .add (.marker star) (.member .texts)]

/-- The same with the edit of the shapes last and without the one that is nothing to any layer. -/
def otherSky : List (Edit Rat Occupant) := [
  .add (.marker star) (.value (.text "TEXT")),
  .add (.marker moon) (.member .texts),
  .add (.marker void) (.member .texts),
  .remove (.marker star) (.value (.text "TEXT")),
  .add (.marker moon) (.value (.text "TEXT")),
  .add (.marker star) (.member .texts),
  .add (.marker star) (.member .shapes)]

theorem layers_of_sky :
    Compositor.edited otherSky = Compositor.edited sky ∧
      (Compositor.edited sky).apply (.add (.marker moon) (.value (.text "nowhere")) : Edit Rat _) =
        Compositor.edited sky ∧
      ∃ v, drawLayers.run { house with compositor := Compositor.edited sky } = (.ok (), v) ∧
        v.depot.device.calls = #[.drawn "star", .drawn "moon", .drawn "star"] := by
  obtain ⟨-, -, hnone, hdraw, hsame, -⟩ := layers_of_edits sky
  refine ⟨hsame otherSky fun l => ?_, hnone _ _ fun l => ?_, ?_⟩
  · cases l <;> rfl
  · cases l <;> rfl
  · exact (hdraw _ rfl rfl).2 [star, moon, star] (by decide) (by decide)

end World

end Diorama
