/-
# Every value is some colour

A colour is asked for with a default (`parse_color`), and whatever value stands in a document there
is an answer: the colour that a text spells, the colour of three or four numbers from 0 to 255, or
the default, with a line in the log unless there is no value at all.  In each case all channels are
in range.

There are two exceptions.  A channel that is infinite has no whole part, and no other value is too
large for one; so the lists with such a channel, up to which all have a whole part, are a fault.  And
a value that is no colour and holds a whole number of too many digits cannot be shown in the line
that says so.  A mapping is read like the list of its keys.

Which colours a text spells is for the host to say.  All that is asked of it is that their channels
are in range (`Host.InGamut`).
-/
import Diorama.Proofs.Caches

namespace Diorama

open Act

variable {α : Type}

/-! ## 1. Channels in range

The recording host keeps to the range: its two spellings of a colour are digits, which make a channel
of two each, and names, which stand in a table. -/

namespace Color

/-- Every channel lies between 0 and 255. -/
structure InRange (c : Color) : Prop where
  red : c.red ≤ 255
  green : c.green ≤ 255
  blue : c.blue ≤ 255
  opacity : c.opacity ≤ 255

theorem toNat_le_of_le {c d : Char} (h : c ≤ d) : c.toNat ≤ d.toNat := UInt32.le_iff_toNat_le.1 h

/-- A hexadecimal digit is worth at most fifteen. -/
theorem hexDigit?_le {c : Char} {n : Nat} (h : Text.hexDigit? c = some n) : n ≤ 15 := by
  unfold Text.hexDigit? at h
  split_ifs at h with hdigit hlower hupper <;> cases h
  · simp only [Char.isDigit, Bool.and_eq_true, decide_eq_true_eq] at hdigit
    have hle : c.toNat ≤ 57 := toNat_le_of_le (d := '9') hdigit.2
    omega
  · simp only [Bool.and_eq_true, decide_eq_true_eq] at hlower
    have hle : c.toNat ≤ 102 := toNat_le_of_le (d := 'f') hlower.2
    omega
  · simp only [Bool.and_eq_true, decide_eq_true_eq] at hupper
    have hle : c.toNat ≤ 70 := toNat_le_of_le (d := 'F') hupper.2
    omega

/-- So two of them are worth at most 255. -/
theorem octet?_le {a b : Char} {n : Nat} (h : octet? a b = some n) : n ≤ 255 := by
  unfold octet? at h
  obtain ⟨x, hx, h⟩ := Option.bind_eq_some_iff.1 h
  obtain ⟨y, hy, h⟩ := Option.bind_eq_some_iff.1 h
  have hx := hexDigit?_le hx
  have hy := hexDigit?_le hy
  cases h
  omega

/-- Every channel of a colour in hexadecimal is an octet. -/
theorem inRange_ofHex? {cs : List Char} {c : Color} (h : ofHex? cs = some c) : c.InRange := by
  unfold ofHex? at h
  split at h
  · obtain ⟨r, hr, h⟩ := Option.bind_eq_some_iff.1 h
    obtain ⟨g, hg, h⟩ := Option.bind_eq_some_iff.1 h
    obtain ⟨b, hb, h⟩ := Option.bind_eq_some_iff.1 h
    cases h
    exact ⟨octet?_le hr, octet?_le hg, octet?_le hb, Nat.le_refl _⟩
  · obtain ⟨r, hr, h⟩ := Option.bind_eq_some_iff.1 h
    obtain ⟨g, hg, h⟩ := Option.bind_eq_some_iff.1 h
    obtain ⟨b, hb, h⟩ := Option.bind_eq_some_iff.1 h
    obtain ⟨a, ha, h⟩ := Option.bind_eq_some_iff.1 h
    cases h
    exact ⟨octet?_le hr, octet?_le hg, octet?_le hb, octet?_le ha⟩
  · cases h

/-- Every name has its channels in range, the steps of the grey scale included.  The table is
checked entry by entry; a step of grey is at most a hundred, which gives a channel of at most 255. -/
theorem namedChannels?_le {name : String} {r g b : Nat}
    (h : namedChannels? name = some (r, g, b)) : r ≤ 255 ∧ g ≤ 255 ∧ b ≤ 255 := by
  have hnames : ∀ e ∈ names, e.2.1 ≤ 255 ∧ e.2.2.1 ≤ 255 ∧ e.2.2.2 ≤ 255 := by
    decide +kernel
  have hgrey {ds : List Char} {n : Nat} (hn : greyStep? ds = some n) : greyChannel n ≤ 255 := by
    unfold greyStep? at hn
    obtain ⟨_, -, hn⟩ := Option.bind_eq_some_iff.1 hn
    dsimp only at hn
    split at hn
    · next hle =>
      cases hn
      simp only [Bool.and_eq_true, decide_eq_true_eq] at hle
      unfold greyChannel
      split <;> omega
    · cases hn
  unfold namedChannels? at h
  split at h
  · next hlookup =>
    cases h
    obtain ⟨before, after, heq, -⟩ := List.lookup_eq_some_iff.1 hlookup
    exact hnames (name, r, g, b) (heq ▸ List.mem_append_cons_self)
  · split at h
    · split at h
      · obtain ⟨n, hn, heq⟩ := Option.map_eq_some_iff.1 h
        cases heq
        exact ⟨hgrey hn, hgrey hn, hgrey hn⟩
      · cases h
    · cases h

/-- Whichever way the recording host reads a spelling, the colour is in range.  It is read as
digits, behind a sign or two of them, or else as a name. -/
theorem inRange_ofSpelling? {s : String} {c : Color} (h : ofSpelling? s = some c) :
    c.InRange := by
  have hname {cs : List Char} (h : ofName? cs = some c) : c.InRange := by
    obtain ⟨⟨r, g, b⟩, hrgb, rfl⟩ := Option.map_eq_some_iff.1 h
    obtain ⟨hr, hg, hb⟩ := namedChannels?_le hrgb
    exact ⟨hr, hg, hb, Nat.le_refl _⟩
  have hhex {x : Option Color} {cs : List Char} (hx : ∀ c, x = some c → c.InRange)
      (h : (x.orElse fun _ => ofName? cs) = some c) : c.InRange := by
    cases x with
    | none => exact hname h
    | some c' =>
      cases h
      exact hx _ rfl
  unfold ofSpelling? at h
  refine hhex ?_ h
  intro c hc
  split at hc
  · exact inRange_ofHex? hc
  · exact inRange_ofHex? hc
  · cases hc

end Color

/-- A host spells no colour but one whose channels are in range. -/
def Host.InGamut (α : Type) [Host α] : Prop :=
  ∀ s c, Host.color? (α := α) s = some c → c.InRange

/-- So the recording host is one of those that are meant by `Host.InGamut`. -/
theorem Host.inGamut_recording : @Host.InGamut α .recording := fun _ _ => Color.inRange_ofSpelling?

namespace Color

/-! ## 2. What values list

The items of a list, or the keys of a mapping, are channels if each of them stands for a whole
number in range.  They are looked at from the left: the first that stands for none ends it with a
report, and the first that is infinite with a fault. -/

/-- The numbers are the channels of the colour, each in range: three with full opacity, or four. -/
inductive OfNumbers : List Int → Color → Prop
  | three {r g b : Nat} (hr : r ≤ 255) (hg : g ≤ 255) (hb : b ≤ 255) :
      OfNumbers [(r : Int), (g : Int), (b : Int)] { red := r, green := g, blue := b }
  | four {r g b a : Nat} (hr : r ≤ 255) (hg : g ≤ 255) (hb : b ≤ 255) (ha : a ≤ 255) :
      OfNumbers [(r : Int), (g : Int), (b : Int), (a : Int)]
        { red := r, green := g, blue := b, opacity := a }

theorem OfNumbers.inRange {ns : List Int} {c : Color} (h : OfNumbers ns c) : c.InRange := by
  cases h with
  | three hr hg hb => exact ⟨hr, hg, hb, Nat.le_refl _⟩
  | four hr hg hb ha => exact ⟨hr, hg, hb, ha⟩

/-- Four whole numbers are a colour if each of them is a channel. -/
theorem ofRgba?_eq_some {r g b a : Int} {c : Color} (h : ofRgba? r g b a = some c) :
    ∃ r' g' b' a' : Nat, r' ≤ 255 ∧ g' ≤ 255 ∧ b' ≤ 255 ∧ a' ≤ 255 ∧ r = r' ∧ g = g' ∧ b = b' ∧
      a = a' ∧ c = { red := r', green := g', blue := b', opacity := a' } := by
  unfold ofRgba? at h
  split at h
  · next hall =>
    simp only [List.all_cons, List.all_nil, Bool.and_true, Bool.and_eq_true,
      decide_eq_true_eq] at hall
    cases h
    exact ⟨_, _, _, _, by omega, by omega, by omega, by omega, by omega, by omega, by omega,
      by omega, rfl⟩
  · cases h

/-- Three numbers are a colour at full opacity, four say their opacity, and any other count is
none. -/
theorem ofChannels?_iff {ns : List Int} {c : Color} : ofChannels? ns = some c ↔ OfNumbers ns c := by
  constructor
  · intro h
    unfold ofChannels? at h
    split at h
    · obtain ⟨r, g, b, a, hr, hg, hb, -, rfl, rfl, rfl, ha, rfl⟩ := ofRgba?_eq_some h
      obtain rfl : a = 255 := by omega
      exact .three hr hg hb
    · obtain ⟨r, g, b, a, hr, hg, hb, ha, rfl, rfl, rfl, rfl, rfl⟩ := ofRgba?_eq_some h
      exact .four hr hg hb ha
    · cases h
  · intro h
    cases h with
    | three hr hg hb =>
      have hrange : ∀ {n : Nat}, n ≤ 255 → (n : Int) ≤ 255 := by omega
      simp [ofChannels?, ofRgba?, hrange hr, hrange hg, hrange hb]
    | four hr hg hb ha =>
      have hrange : ∀ {n : Nat}, n ≤ 255 → (n : Int) ≤ 255 := by omega
      simp [ofChannels?, ofRgba?, hrange hr, hrange hg, hrange hb, hrange ha]

variable [Scalar α]

/-- The whole numbers that values stand for, one for each. -/
def Stand (vs : List (Value α)) (ns : List Int) : Prop :=
  vs.map Value.toWhole = ns.map .ok

/-- The value is an infinite number. -/
def IsInfinite (v : Value α) : Prop :=
  ∃ x, v = .num x ∧ Scalar.isFinite x = false ∧ Scalar.isUndefined x = false

/-- One of the values is infinite, and all before it stand for whole numbers. -/
def Overflow (vs : List (Value α)) : Prop :=
  ∃ before v after, vs = before ++ v :: after ∧ IsInfinite v ∧
    ∀ u ∈ before, ∃ n, u.toWhole = .ok n

/-- The values give the colour. -/
def Listed (vs : List (Value α)) (c : Color) : Prop := ∃ ns, Stand vs ns ∧ OfNumbers ns c

/-- The one value that has too large a whole part is an infinite number (`int` raises
`OverflowError`). -/
theorem toWhole_eq_tooLarge_iff {v : Value α} : v.toWhole = .error .tooLarge ↔ IsInfinite v := by
  unfold IsInfinite Scalar.isFinite
  cases v with
  | num x =>
    change Value.wholeOf Scalar.trunc? x = _ ↔ _
    unfold Value.wholeOf
    cases ht : Scalar.trunc? x with
    | some n => simp [ht]
    | none => cases hu : Scalar.isUndefined x <;> simp [ht, hu]
  | text s =>
    cases hs : Decimal.Numeral.wholeOfText? s <;> simp [Value.toWhole, hs]
  | _ => simp [Value.toWhole]

/-- All values stand for whole numbers, each for its own. -/
theorem mapM_toWhole_eq_ok {vs : List (Value α)} {ns : List Int} :
    vs.mapM Value.toWhole = .ok ns ↔ Stand vs ns := by
  unfold Stand
  induction vs generalizing ns with
  | nil =>
    cases ns with
    | nil => exact ⟨fun _ => rfl, fun _ => rfl⟩
    | cons n ns => exact ⟨nofun, nofun⟩
  | cons v vs ih =>
    rw [List.mapM_cons]
    cases ns with
    | nil =>
      refine ⟨fun h => ?_, nofun⟩
      cases hv : v.toWhole <;> cases hvs : vs.mapM Value.toWhole <;> rw [hv, hvs] at h <;> cases h
    | cons n ns =>
      rw [List.map_cons, List.map_cons, List.cons.injEq, ← ih]
      cases hv : v.toWhole <;> cases hvs : vs.mapM Value.toWhole <;>
        simp [bind, Except.bind, pure, Except.pure]

/-- Values are looked at from the left: the first that is no whole number ends it. -/
theorem overflow_cons {v : Value α} {vs : List (Value α)} :
    Overflow (v :: vs) ↔ IsInfinite v ∨ (∃ n, v.toWhole = .ok n) ∧ Overflow vs := by
  constructor
  · rintro ⟨before, u, after, heq, hu, hbefore⟩
    cases before with
    | nil =>
      cases heq
      exact .inl hu
    | cons w before =>
      cases heq
      exact .inr ⟨hbefore _ (.head _), before, u, after, rfl, hu,
        fun w hw => hbefore w (.tail _ hw)⟩
  · rintro (hv | ⟨hv, before, u, after, rfl, hu, hbefore⟩)
    · exact ⟨[], v, vs, rfl, hv, nofun⟩
    · exact ⟨v :: before, u, after, rfl, hu, List.forall_mem_cons.2 ⟨hv, hbefore⟩⟩

/-- So the list fails if an infinite one is reached. -/
theorem mapM_toWhole_eq_tooLarge {vs : List (Value α)} :
    vs.mapM Value.toWhole = .error .tooLarge ↔ Overflow vs := by
  induction vs with
  | nil => exact ⟨nofun, fun ⟨_, _, _, h, _⟩ => absurd h (by simp)⟩
  | cons v vs ih =>
    rw [List.mapM_cons, overflow_cons, ← ih, ← toWhole_eq_tooLarge_iff]
    cases hv : v.toWhole <;> cases hvs : vs.mapM Value.toWhole <;>
      simp [bind, Except.bind, pure, Except.pure]

/-! ## 3. What a value gives

`parse_color` tries the readings in a fixed order, and reports a value that none of them accepts. -/

/-- The colour that a value gives: that which a text spells, or that of the numbers which the items
of a list or the keys of a mapping stand for. -/
inductive Given [Host α] : Value α → Color → Prop
  | text {s : String} {c : Color} (h : ofText? α s = some c) : Given (.text s) c
  | list {items : List (Value α)} {c : Color} (h : Listed items c) : Given (.list items) c
  | keys {fields : Fields α} {c : Color} (h : Listed (fields.map (·.1)) c) : Given (.map fields) c

/-- The value lists an infinite channel, and none before it that stands for no whole number. -/
inductive Overflows : Value α → Prop
  | list {items : List (Value α)} (h : Overflow items) : Overflows (.list items)
  | keys {fields : Fields α} (h : Overflow (fields.map (·.1))) : Overflows (.map fields)

/-- A list gives the colour that its items spell. -/
theorem given_list [Host α] {items : List (Value α)} {c : Color} : Given
    (.list items) c ↔ Listed items c :=
  ⟨fun | .list h => h, .list⟩

/-- A mapping gives the colour that its keys spell, since to go through a mapping is to go through
its keys. -/
theorem given_map [Host α] {fields : Fields α} {c : Color} :
    Given (.map fields) c ↔ Listed (fields.map (·.1)) c :=
  ⟨fun | .keys h => h, .keys⟩

theorem overflows_list {items : List (Value α)} : Overflows (.list items) ↔ Overflow items :=
  ⟨fun | .list h => h, .list⟩

theorem overflows_map {fields : Fields α} :
    Overflows (.map fields) ↔ Overflow (fields.map (·.1)) :=
  ⟨fun | .keys h => h, .keys⟩

/-- A colour that a value gives is in range, if those of the host are. -/
theorem Given.inRange [Host α] (hhost : Host.InGamut α) {v : Value α} {c : Color}
    (h : Given v c) : c.InRange := by
  cases h with
  | text h => exact hhost _ _ h
  | list h =>
    obtain ⟨ns, -, h⟩ := h
    exact h.inRange
  | keys h =>
    obtain ⟨ns, -, h⟩ := h
    exact h.inRange

/-- The colour of a list in two steps, as it is computed. -/
theorem listed_iff {vs : List (Value α)} {c : Color} :
    Listed vs c ↔ ∃ ns, vs.mapM Value.toWhole = .ok ns ∧ ofChannels? ns = some c := by
  unfold Listed
  exact exists_congr fun ns => and_congr mapM_toWhole_eq_ok.symm ofChannels?_iff.symm

/-- What values that are listed come to. -/
theorem ofParts?_of_channels {v : Value α} {vs : List (Value α)} (hv : channelValues? v = some vs) :
    (ofParts? v = .error .tooLarge ↔ Overflow vs) ∧
      (∀ c, ofParts? v = .ok (some c) ↔ Listed vs c) ∧
      ∀ e, ofParts? v = .error e → e = .tooLarge := by
  unfold ofParts?
  rw [hv]
  simp only [listed_iff, ← mapM_toWhole_eq_tooLarge]
  cases h : vs.mapM Value.toWhole with
  | ok ns => simp
  | error e => cases e <;> simp

/-- The value is no colour, and cannot be shown in the line that would say so. -/
def Unsayable [Host α] (v : Value α) : Prop :=
  ¬ Overflows v ∧ (∀ c, ¬ Given v c) ∧ v.writable = false

/-- A value that can be written can also be reported. -/
theorem not_unsayable [Host α] {v : Value α} (h : v.writable = true) : ¬ Unsayable v :=
  fun hv => Bool.noConfusion (h.symm.trans hv.2.2)

/-- What comes of asking for the colour of a value with a default: the result, and the log before
and after. -/
structure Answer [Host α] (default : Color) (v : Value α) (log : Log) (r : Except Fault Color)
    (log' : Log) : Prop where
  /-- An infinite channel is a fault. -/
  overflow : Overflows v → r = .error .tooLarge ∧ log' = log
  /-- So is a value that would have to be reported and cannot be written. -/
  unsayable : Unsayable v → r = .error .notANumber ∧ log' = log
  /-- Nothing else is, and all colours are in range. -/
  inRange : ¬ Overflows v → ¬ Unsayable v → ∃ c, r = .ok c ∧ c.InRange
  /-- A colour that is given is the result. -/
  given : ∀ c, Given v c → r = .ok c ∧ log' = log
  /-- No value at all stands for the default. -/
  null : v.isNull = true → r = .ok default ∧ log' = log
  /-- Anything else is reported and replaced by the default. -/
  other : v.isNull = false → ¬ Overflows v → ¬ Unsayable v → (∀ c, ¬ Given v c) →
    r = .ok default ∧ log' = log.push ("[Colors] Warning: unknown color '" ++ v.plain ++ "'")

end Color

namespace Device

open Color

variable [Scalar α] [Host α]

/-- A value that gives a colour, and no other. -/
theorem answer_of_given (hhost : Host.InGamut α) (default : Color) {v : Value α} {c : Color}
    (hc : Given v c) (honly : ∀ c', Given v c' → c' = c) (hno : ¬ Overflows v) (log : Log) :
    Answer default v log (.ok c) log where
  overflow h := (hno h).elim
  unsayable h := (h.2.1 c hc).elim
  inRange _ _ := ⟨c, rfl, hc.inRange hhost⟩
  given c' hc' := by
    rw [honly c' hc']
    exact ⟨rfl, rfl⟩
  null h := by
    cases v with
    | null => cases hc
    | _ => cases h
  other _ _ _ hnone := (hnone c hc).elim

/-- A value that gives no colour is shown in the log, if it can be.  If it cannot be shown the
fault is that of the printing, and the default is not given. -/
theorem answer_of_rejected {default : Color} (hdefault : default.InRange) {v : Value α}
    (hnull : v.isNull = false) (hno : ¬ Overflows v) (hnone : ∀ c, ¬ Given v c) (log : Log) :
    Answer default v log ((rejectColor v default).run log).1
      ((rejectColor v default).after log) := by
  have hvalue {P : Prop} (h : v.isNull = true) : P := Bool.noConfusion (hnull.symm.trans h)
  cases hlong : v.writable with
  | true =>
    have hrun : (rejectColor v default).run log = (.ok default,
        log.push ("[Colors] Warning: unknown color '" ++ v.plain ++ "'")) := by
      unfold rejectColor Value.written
      rw [Value.told_of_writable hlong]
      rfl
    rw [after_eq_of_run hrun, hrun]
    exact ⟨fun h => (hno h).elim, fun h => Bool.noConfusion (hlong.symm.trans h.2.2),
      fun _ _ => ⟨default, rfl, hdefault⟩, fun c hc => (hnone c hc).elim, hvalue,
      fun _ _ _ _ => ⟨rfl, rfl⟩⟩
  | false =>
    have hunsayable : Unsayable v := ⟨hno, hnone, hlong⟩
    have hrun : (rejectColor v default).run log = (.error .notANumber, log) := by
      unfold rejectColor Value.written
      rw [Value.told_of_not_writable hlong]
      rfl
    rw [after_eq_of_run hrun, hrun]
    exact ⟨fun h => (hno h).elim, fun _ => ⟨rfl, rfl⟩, fun _ h => (h hunsayable).elim,
      fun c hc => (hnone c hc).elim, hvalue, fun _ _ h => (h hunsayable).elim⟩

/-- Values that are listed, each as it comes.  Three results are possible for a list: a channel
without bounds, a colour, or none; they are told apart by `ofParts?`, and the two specifications
agree with it. -/
theorem answer_readParts (hhost : Host.InGamut α) {default : Color} (hdefault : default.InRange)
    {v : Value α} {vs : List (Value α)} (hv : channelValues? v = some vs)
    (hnull : v.isNull = false) (hgiven : ∀ c, Given v c ↔ Listed vs c)
    (hoverflows : Overflows v ↔ Overflow vs) (log : Log) :
    Answer default v log ((readParts default v).run log).1 ((readParts default v).after log) := by
  obtain ⟨hover, hlisted, hfault⟩ := ofParts?_of_channels hv
  have hgiven (c : Color) : Given v c ↔ ofParts? v = .ok (some c) :=
    (hgiven c).trans (hlisted c).symm
  have hover : Overflows v ↔ ofParts? v = .error .tooLarge := hoverflows.trans hover.symm
  unfold readParts
  cases hparts : ofParts? v with
  | error e =>
    obtain rfl := hfault e hparts
    have h : Overflows v := hover.2 hparts
    refine ⟨fun _ => ⟨rfl, rfl⟩, fun hno => (hno.1 h).elim, fun hno => (hno h).elim,
      fun c hc => ?_, fun hv => Bool.noConfusion (hnull.symm.trans hv), fun _ hno => (hno h).elim⟩
    rw [(hgiven c).1 hc] at hparts
    cases hparts
  | ok found =>
    have hno : ¬ Overflows v := fun h => absurd (hover.1 h) (by rw [hparts]; exact nofun)
    cases found with
    | some c =>
      refine answer_of_given hhost default ((hgiven c).2 hparts) (fun c' hc' => ?_) hno log
      rw [(hgiven c').1 hc'] at hparts
      cases hparts
      rfl
    | none =>
      refine answer_of_rejected hdefault hnull hno (fun c hc => ?_) log
      rw [(hgiven c).1 hc] at hparts
      cases hparts

/-- What lists nothing is no colour. -/
theorem answer_of_no_channels {default : Color} (hdefault : default.InRange) {v : Value α}
    (hv : channelValues? v = none) (hnull : v.isNull = false) (hgiven : ∀ c, ¬ Given v c)
    (hoverflows : ¬ Overflows v) (log : Log) :
    Answer default v log ((readParts default v).run log).1 ((readParts default v).after log) := by
  have hparts : ofParts? v = .ok none := by
    unfold ofParts?
    rw [hv]
  unfold readParts
  rw [hparts]
  exact answer_of_rejected hdefault hnull hoverflows hgiven log

/-- By cases of the value: nothing, a text, a list, a mapping, or something that lists no
channels. -/
theorem answer_readColor (hhost : Host.InGamut α) {default : Color} (hdefault : default.InRange)
    (v : Value α) (log : Log) : Answer default v log ((readColor default (.value v)).run log).1
      ((readColor default (.value v)).after log) := by
  cases v with
  | null =>
    have hsayable : ¬ Unsayable (.null : Value α) := not_unsayable (by simp [Value.writable])
    exact ⟨fun h => (by cases h), fun h => (hsayable h).elim,
      fun _ _ => ⟨default, rfl, hdefault⟩, fun _ h => (by cases h), fun _ => ⟨rfl, rfl⟩,
      fun h => (by cases h)⟩
  | text s =>
    unfold readColor
    dsimp only
    cases hs : ofText? α s with
    | some c =>
      refine answer_of_given hhost default (.text hs) (fun c' hc' => ?_)
        (fun h => by cases h) log
      cases hc' with
      | text h => exact Option.some.inj (h.symm.trans hs)
    | none =>
      refine answer_of_rejected hdefault rfl (fun h => by cases h) (fun c hc => ?_) log
      cases hc with
      | text h => cases hs.symm.trans h
  | list items =>
    exact answer_readParts hhost hdefault rfl rfl (fun _ => given_list) overflows_list log
  | map fields =>
    exact answer_readParts hhost hdefault rfl rfl (fun _ => given_map) overflows_map log
  | _ =>
    exact answer_of_no_channels hdefault rfl rfl (fun _ h => by cases h) (fun h => by cases h) log

/-! ## 4. Every value has an answer

The cases are exhaustive: of every value it is said what comes of it, without a gap and without
overlap. -/

/-- **Asking for a colour always has an answer, and it is in range.**

For every value and every default in range, on a device that remembers the colours of texts as they
are: the colour is what the value gives, if it is a text that spells one, or a list of three or four
values that stand for numbers from 0 to 255, or a mapping with such keys; the default without a word
if there is no value; and in every other case the default, with one line in the log.  All that stays
behind beside the line are colours that are remembered, again as they are.

It is a fault exactly if a channel is infinite and those before it stand for whole numbers, or if the
value would have to be shown in that line and holds a number of too many digits. -/
theorem answer_color (hhost : Host.InGamut α) {d : Device α} (hd : Truthful α d.colors)
    {default : Color} (hdefault : default.InRange) (v : Value α) :
    ∃ r log colors, (color default (.value v)).run d = (r, { d with log, colors }) ∧
      Truthful α colors ∧ Answer default v d.log r log := by
  obtain ⟨colors, htrue, hrun⟩ := run_color hd default (.value v)
  exact ⟨_, _, colors, hrun, htrue, answer_readColor hhost hdefault v d.log⟩

/-- A number with a fraction, a text and a truth value are channels; a truth value alone is no
colour. -/
theorem answer_color_mixed : letI := Scalar.exact (fun x => x) 57
    letI : Host Rat := .recording
    let v : Value Rat := .list [.num (3 / 2), .text " 12 ", .bool true]
    Host.InGamut Rat ∧ Truthful Rat desk.colors ∧ Color.white.InRange ∧
      ((color .white (.value v)).run desk).1 = .ok { red := 1, green := 12, blue := 1 } ∧
      ((color .white (.value v)).after desk).log = #[] ∧
      ((color .white (.value (.bool true : Value Rat))).run desk).1 = .ok .white ∧
      ((color .white (.value (.bool true : Value Rat))).after desk).log =
        #["[Colors] Warning: unknown color 'True'"] := by
  let _ := Scalar.exact (fun x => x) 57
  let _ : Host Rat := .recording
  intro v
  have hdesk : Truthful Rat desk.colors := fun _ _ h => by cases h
  have hwhite : Color.white.InRange := ⟨by decide, by decide, by decide, by decide⟩
  have hgiven : Given v { red := 1, green := 12, blue := 1 } :=
    .list ⟨[1, 12, 1], mapM_toWhole_eq_ok.1 (eq_ok_of_toOption (by decide +kernel)),
      .three (by decide) (by decide) (by decide)⟩
  obtain ⟨r, log, colors, hrun, -, hanswer⟩ := answer_color Host.inGamut_recording hdesk hwhite v
  obtain ⟨rfl, rfl⟩ := hanswer.given _ hgiven
  obtain ⟨r', log', colors', hrun', -, hanswer'⟩ :=
    answer_color Host.inGamut_recording hdesk hwhite (.bool true : Value Rat)
  have hsayable : ¬ Unsayable (.bool true : Value Rat) := not_unsayable (by simp [Value.writable])
  obtain ⟨rfl, rfl⟩ := hanswer'.other rfl (fun h => by cases h) hsayable fun _ h => by cases h
  refine ⟨Host.inGamut_recording, hdesk, hwhite, congrArg Prod.fst hrun, ?_,
    congrArg Prod.fst hrun', ?_⟩
  · exact congrArg (fun q => q.2.log) hrun
  · exact congrArg (fun q => q.2.log) hrun'

end Device

end Diorama
