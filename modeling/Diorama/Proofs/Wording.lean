/-
# Words, letters and numerals of a text

Three readings of characters, each with what it finds said without it.

* The words of a text are what stands between its blanks: `Spaced` says how a text is laid out, and
  every text has one list of words (`spaced_iff`).
* A text in lower case is a given word of plain letters exactly if its letters are those letters,
  plain capitals taken as small (`lowerAfter_eq_iff`).  A `k` is left out: the sign for kelvin
  becomes one too.
* Digits of any script, with a point among them or not, spell the number that their values spell in
  base ten (`Numeral.ofText?_of_figures`).
-/
import Diorama.Decimal.Numeral
import Diorama.Text.LowerCase
import Mathlib

namespace Diorama

namespace Text

/-! ## 1. Words between blanks

`str.split` without an argument: any run of blanks separates, and blanks at the ends do not
count.  The layout is an inductive relation, so a proof about words follows the layout and not the
loop that collects them. -/

/-- The characters are laid out as these words: a word is not empty and has no blank, and what
follows it, if anything, starts with a blank. -/
inductive Spaced : List Char → List (List Char) → Prop
  | nil : Spaced [] []
  | blank {c : Char} {cs : List Char} {ws : List (List Char)} (hc : isBlank c = true)
      (h : Spaced cs ws) : Spaced (c :: cs) ws
  | word {w cs : List Char} {ws : List (List Char)} (hne : w ≠ [])
      (hw : ∀ c ∈ w, isBlank c = false) (hend : ∀ c ∈ cs.head?, isBlank c = true)
      (h : Spaced cs ws) : Spaced (w ++ cs) (w :: ws)

/-- A word that has been read, in reverse, ends here. -/
theorem Spaced.of_reverse {word cs : List Char} {ws : List (List Char)} (hne : word ≠ [])
    (hword : ∀ c ∈ word, isBlank c = false) (hend : ∀ c ∈ cs.head?, isBlank c = true)
    (h : Spaced cs ws) : Spaced (word.reverse ++ cs) (word.reverse :: ws) :=
  .word (by simpa using hne) (fun c hc => hword c (List.mem_reverse.1 hc)) hend h

/-- Reading on from a word that has begun, in reverse.  By induction on what is still to be
read.  A blank ends the word, if there is one; another character makes it longer. -/
theorem spaced_wordsFrom (word cs : List Char) (hword : ∀ c ∈ word, isBlank c = false) :
    Spaced (word.reverse ++ cs) (wordsFrom word cs) := by
  induction cs generalizing word with
  | nil =>
    cases word with
    | nil => exact .nil
    | cons c word =>
      exact Spaced.of_reverse (List.cons_ne_nil c word) hword (fun _ h => by cases h) .nil
  | cons c cs ih =>
    unfold wordsFrom
    split
    · next hc =>
      have hrest : Spaced (c :: cs) (wordsFrom [] cs) := .blank hc (ih [] fun _ h => by cases h)
      cases word with
      | nil => exact hrest
      | cons d word =>
        exact .of_reverse (List.cons_ne_nil d word) hword (fun _ h => Option.some.inj h ▸ hc) hrest
    · next hc =>
      have hword' : ∀ d ∈ c :: word, isBlank d = false :=
        List.forall_mem_cons.2 ⟨by simpa using hc, hword⟩
      simpa using ih (c :: word) hword'

/-- Letters without a blank among them only make the word that is being read longer. -/
theorem wordsFrom_append {w : List Char} (hw : ∀ c ∈ w, isBlank c = false) (word cs : List Char) :
    wordsFrom word (w ++ cs) = wordsFrom (w.reverse ++ word) cs := by
  induction w generalizing word with
  | nil => rfl
  | cons c w ih =>
    have hc : isBlank c = false := hw c List.mem_cons_self
    have hrest := ih (fun d hd => hw d (List.mem_cons_of_mem _ hd)) (c :: word)
    simpa [wordsFrom, hc] using hrest

/-- A word ends where the blanks begin. -/
theorem wordsFrom_of_end {word cs : List Char} (hne : word ≠ [])
    (hend : ∀ c ∈ cs.head?, isBlank c = true) :
    wordsFrom word cs = word.reverse :: wordsFrom [] cs := by
  cases cs with
  | nil => simp [wordsFrom, hne]
  | cons c cs => simp [wordsFrom, hne, hend c rfl]

/-- **Every text is laid out as one list of words.** -/
theorem spaced_iff {cs : List Char} {ws : List (List Char)} :
    Spaced cs ws ↔ wordsFrom [] cs = ws := by
  refine ⟨fun h => ?_, fun h => h ▸ spaced_wordsFrom [] cs fun _ h => by cases h⟩
  induction h with
  | nil => rfl
  | blank hc _ ih => simpa [wordsFrom, hc] using ih
  | @word w cs ws hne hw hend _ ih =>
    have hne' : w.reverse ≠ [] := by simpa using hne
    rw [wordsFrom_append hw, List.append_nil, wordsFrom_of_end hne' hend, List.reverse_reverse, ih]

/-! ## 2. Plain letters

Lower case is a matter of all scripts: letters of other scripts, and even one sign, can have a
plain letter as their small form.  Letters for which only themselves and their capital do are
called plain, and every word that the program compares with is made of these. -/

/-- A small letter that nothing but itself and its plain capital is lowered to. -/
def Plain (c : Char) : Prop := 97 ≤ c.toNat ∧ c.toNat ≤ 122 ∧ c ≠ 'k'

instance (c : Char) : Decidable (Plain c) := inferInstanceAs (Decidable (_ ∧ _))

/-- Beyond the plain capitals, only the sign for kelvin is lowered to a plain letter. -/
theorem mem_loweredRuns {first last step : Nat} {shift : Int}
    (h : (first, last, step, shift) ∈ loweredRuns) :
    (first, last, step, shift) = (65, 90, 1, 32) ∨
      (first, last, step, shift) = (8490, 8490, 1, -8383) ∨ 128 ≤ first ∧ 128 ≤ first + shift := by
  have htable : ∀ r ∈ loweredRuns.toList, r = (65, 90, 1, 32) ∨ r = (8490, 8490, 1, -8383) ∨
      128 ≤ r.1 ∧ 128 ≤ r.1 + r.2.2.2 := by
    decide +kernel
  exact htable _ (Array.mem_toList_iff.2 h)

/-- The plain capitals are a range of numbers. -/
theorem isUpper_iff {c : Char} : c.isUpper = true ↔ 65 ≤ c.toNat ∧ c.toNat ≤ 90 := by
  simp only [Char.isUpper, decide_eq_true_eq, ge_iff_le, UInt32.le_iff_toNat_le]
  rfl

/-- **A letter is lowered to a plain one** exactly if it is that letter or its capital.  The table
has two runs that can lead to a plain letter: the capitals, and the sign of the kelvin, which
leads to the one letter that is not plain.  All other runs lead beyond them. -/
theorem lowerChar_eq_iff {c t : Char} (ht : Plain t) : lowerChar c = t ↔ c.toLower = t := by
  -- lowering a letter of the other scripts leaves it outside the plain ones
  have hsmall : ¬ c.isUpper = true → 122 < c.toNat → c.toLower ≠ t := fun hupper hc h => by
    have hhigh := ht.2.1
    rw [← h, Char.toLower_eq_of_not_isUpper hupper] at hhigh
    omega
  unfold lowerChar
  split
  · next first last step shift hfind =>
    have hin := Array.find?_some hfind
    simp only [Bool.and_eq_true, decide_eq_true_eq] at hin
    obtain ⟨⟨hfirst, hlast⟩, -⟩ := hin
    rcases mem_loweredRuns (Array.mem_of_find?_eq_some hfind) with hrun | hrun | ⟨hbeyond, hshifted⟩
    · cases hrun
      rw [Char.toLower_eq_of_isUpper (isUpper_iff.2 ⟨hfirst, hlast⟩)]
      rfl
    · cases hrun
      have hc : c.toNat = 8490 := Nat.le_antisymm hlast hfirst
      rw [hc]
      refine iff_of_false (fun h => ht.2.2 h.symm) (hsmall ?_ (by omega))
      rw [isUpper_iff]
      omega
    · refine iff_of_false (fun h => ?_) (hsmall ?_ ?_)
      · have hnat := congrArg Char.toNat h
        rw [Char.toNat_ofNat] at hnat
        obtain ⟨hlow, hhigh, -⟩ := ht
        split at hnat <;> omega
      · rw [isUpper_iff]
        omega
      · omega
  · next hfind =>
    have hout := Array.find?_eq_none.1 hfind (65, 90, 1, 32) (by decide +kernel)
    simp only [Nat.mod_one, beq_self_eq_true, Bool.and_true, Bool.and_eq_true,
      decide_eq_true_eq] at hout
    rw [Char.toLower_eq_of_not_isUpper (isUpper_iff.not.2 hout)]

/-- **A text in lower case is a word of plain letters** exactly if it is that word, plain
capitals taken as small. -/
theorem lowerAfter_eq_iff {target : List Char} (ht : ∀ t ∈ target, Plain t)
    (before cs : List Char) : lowerAfter before cs = target ↔ cs.map Char.toLower = target := by
  induction cs generalizing before target with
  | nil => rfl
  | cons c cs ih =>
    -- A letter that the table does not lower by itself leads to no plain word on either side.
    have hapart {d : Char} {lowered : List Char} (hd : d ∈ lowered) (hd' : ¬ Plain d)
        (hc : ¬ Plain c.toLower) :
        lowered ++ lowerAfter (c :: before) cs = target ↔ (c :: cs).map Char.toLower = target :=
      iff_of_false (fun h => hd' (ht d (h ▸ List.mem_append_left _ hd)))
        fun h => hc (ht _ (h ▸ List.mem_cons_self))
    unfold lowerAfter
    dsimp only
    split
    · next hdot =>
      cases eq_of_beq hdot
      exact hapart (List.mem_cons_of_mem _ List.mem_cons_self) (by decide) (by decide)
    · split
      · next hsigma =>
        cases eq_of_beq hsigma
        refine hapart List.mem_cons_self ?_ (by decide)
        split <;> decide
      · cases target with
        | nil => simp
        | cons t target =>
          obtain ⟨ht, htarget⟩ := List.forall_mem_cons.1 ht
          simp [lowerChar_eq_iff ht, ih htarget]

/-! ## 3. Digits of any script

A digit is worth its distance from the zero of its script.  Figures in any script, and even in
several at once, are therefore values with or without a point among them. -/

/-- A digit has a value below ten, and stands that far behind a zero. -/
theorem digit?_eq_some {c : Char} {d : Nat} (h : digit? c = some d) :
    d < 10 ∧ ∃ z ∈ zeros, c = Char.ofNat (z + d) := by
  have hof {z : Nat} (hz : z + d = c.toNat) : c = Char.ofNat (z + d) := by
    rw [hz, Char.ofNat_toNat]
  unfold digit? at h
  split_ifs at h with hbefore hplain
  · cases h
    exact ⟨by omega, 48, by decide, hof (by omega)⟩
  · obtain ⟨z, hfind, rfl⟩ := Option.map_eq_some_iff.1 h
    have hin := List.find?_some hfind
    simp only [Bool.and_eq_true, decide_eq_true_eq] at hin
    exact ⟨by omega, z, List.mem_of_find?_eq_some hfind, hof (by omega)⟩

/-- No digit is a blank, so figures never fall apart into words. -/
theorem isBlank_of_digit? {c : Char} {d : Nat} (h : digit? c = some d) : isBlank c = false := by
  have htable : ∀ z ∈ zeros, ∀ d < 10, isBlank (Char.ofNat (z + d)) = false := by
    decide +kernel
  obtain ⟨hd, z, hz, rfl⟩ := digit?_eq_some h
  exact htable z hz d hd

/-- The characters are digits with these values. -/
def Digits (cs : List Char) (ds : List Nat) : Prop :=
  List.Forall₂ (fun c d => digit? c = some d) cs ds

/-- Characters that are all digits have values. -/
theorem exists_digits {cs : List Char} (h : ∀ c ∈ cs, (digit? c).isSome = true) :
    ∃ ds, Digits cs ds := by
  induction cs with
  | nil => exact ⟨[], .nil⟩
  | cons c cs ih =>
    obtain ⟨hc, hcs⟩ := List.forall_mem_cons.1 h
    obtain ⟨d, hd⟩ := Option.isSome_iff_exists.1 hc
    obtain ⟨ds, hds⟩ := ih hcs
    exact ⟨d :: ds, .cons hd hds⟩

/-- Every character of a list of digits is one. -/
theorem Digits.exists_of_mem {cs : List Char} {ds : List Nat} (h : Digits cs ds) {c : Char}
    (hc : c ∈ cs) : ∃ d, digit? c = some d := by
  induction h with
  | nil => cases hc
  | cons hd _ ih =>
    rcases List.mem_cons.1 hc with rfl | hc
    · exact ⟨_, hd⟩
    · exact ih hc

/-- All the values are below ten. -/
theorem Digits.lt_ten {cs : List Char} {ds : List Nat} (h : Digits cs ds) : ∀ d ∈ ds, d < 10 := by
  induction h with
  | nil => exact fun _ h => by cases h
  | cons hd _ ih => exact List.forall_mem_cons.2 ⟨(digit?_eq_some hd).1, ih⟩

/-- The characters are digits with these values, at least one before a point, if there is one, and
at least one after it. -/
inductive Figures : List Char → List Nat → List Nat → Prop
  | whole {cs : List Char} {ds : List Nat} (h : Digits cs ds) (hne : cs ≠ []) : Figures cs ds []
  | point {cs fs : List Char} {ds es : List Nat} (h : Digits cs ds) (hne : cs ≠ [])
      (h' : Digits fs es) (hne' : fs ≠ []) : Figures (cs ++ '.' :: fs) ds es

/-- Figures are made of digits and the point, and of nothing else. -/
theorem Figures.digit_or_point {cs : List Char} {whole fraction : List Nat}
    (h : Figures cs whole fraction) {c : Char} (hc : c ∈ cs) :
    (∃ d, digit? c = some d) ∨ c = '.' := by
  cases h with
  | whole h => exact .inl (h.exists_of_mem hc)
  | point h _ h' =>
    rcases List.mem_append.1 hc with hc | hc
    · exact .inl (h.exists_of_mem hc)
    · rcases List.mem_cons.1 hc with rfl | hc
      · exact .inr rfl
      · exact .inl (h'.exists_of_mem hc)

/-- So there is no blank among them. -/
theorem Figures.isBlank {cs : List Char} {whole fraction : List Nat}
    (h : Figures cs whole fraction) : ∀ c ∈ cs, isBlank c = false := fun c hc => by
  rcases h.digit_or_point hc with ⟨d, hd⟩ | rfl
  · exact isBlank_of_digit? hd
  · decide

end Text

/-! ## 4. What figures spell

To read a number, `float` takes digits of any script for plain ones and strips blanks, low lines
and a sign, before it reads digits and a fraction.  Of plain figures nothing is stripped, so each
of these steps has one short equation. -/

namespace Decimal.Numeral

/-- Digits from `0` to `9` with these values. -/
def plain (ds : List Nat) : List Char := ds.map fun d => Char.ofNat (48 + d)

/-- Digits of any script become plain ones with the same values. -/
theorem map_plainDigit {cs : List Char} {ds : List Nat} (h : Text.Digits cs ds) :
    cs.map plainDigit = plain ds := by
  induction h with
  | nil => rfl
  | @cons c d cs ds hd _ ih =>
    have hc : plainDigit c = Char.ofNat (48 + d) := by simp only [plainDigit, hd]
    rw [List.map_cons, ih, hc]
    rfl

/-- A plain digit is read back as its value. -/
theorem plain_spec {ds : List Nat} (h : ∀ d ∈ ds, d < 10) :
    (∀ c ∈ plain ds, c.isDigit = true) ∧ (plain ds).map (fun c => c.toNat - 48) = ds := by
  have hten : ∀ d < 10, (Char.ofNat (48 + d)).isDigit = true ∧
      (Char.ofNat (48 + d)).toNat - 48 = d := by
    decide
  refine ⟨fun c hc => ?_, ?_⟩
  · obtain ⟨d, hd, rfl⟩ := List.mem_map.1 hc
    exact (hten d (h d hd)).1
  · unfold plain
    rw [List.map_map]
    exact (List.map_congr_left fun d hd => (hten d (h d hd)).2).trans (List.map_id ds)

/-- The digits in front are read up to the first character that is none. -/
theorem takeDigits_plain {ds : List Nat} (h : ∀ d ∈ ds, d < 10) {rest : List Char}
    (hrest : ∀ c ∈ rest.head?, c.isDigit = false) : takeDigits (plain ds ++ rest) = (ds, rest) := by
  obtain ⟨hdigit, hvalues⟩ := plain_spec h
  have hend : rest.takeWhile Char.isDigit = [] ∧ rest.dropWhile Char.isDigit = rest := by
    cases rest with
    | nil => exact ⟨rfl, rfl⟩
    | cons c rest => simp [hrest c rfl]
  unfold takeDigits
  rw [List.takeWhile_append_of_pos hdigit, List.dropWhile_append_of_pos hdigit, hend.1, hend.2,
    List.append_nil, hvalues]

/-- Where there is no blank, nothing is stripped. -/
theorem strip_of_forall {cs : List Char} (h : ∀ c ∈ cs, Text.isBlank c = false) :
    strip cs = cs := by
  have hdrop {cs : List Char} (h : ∀ c ∈ cs, Text.isBlank c = false) :
      cs.dropWhile isMargin = cs := by
    cases cs with
    | nil => rfl
    | cons c cs => simp [isMargin, h c List.mem_cons_self]
  unfold strip
  rw [hdrop h, hdrop fun c hc => h c (List.mem_reverse.1 hc), List.reverse_reverse]

/-- Where no digits are grouped by a low line, they stay as they are. -/
theorem joinGroups?_of_forall {cs : List Char} (h : ∀ c ∈ cs, c ≠ '_') (afterDigit : Bool) :
    joinGroups? afterDigit cs = some cs := by
  induction cs generalizing afterDigit with
  | nil => simp [joinGroups?]
  | cons c cs ih =>
    obtain ⟨hc, hcs⟩ := List.forall_mem_cons.1 h
    simp [joinGroups?, hc, ih hcs]

/-- Where there is no sign, none is taken. -/
theorem takeSign_of_forall {cs : List Char} (h : ∀ c ∈ cs, c ≠ '-' ∧ c ≠ '+') :
    takeSign cs = (false, cs) := by
  unfold takeSign
  split
  · exact absurd rfl (h '-' List.mem_cons_self).1
  · exact absurd rfl (h '+' List.mem_cons_self).2
  · rfl

/-- Plain digits with a fraction or without one are read as the number of all their digits,
shifted by those of the fraction. -/
theorem unsigned?_plain {whole fraction : List Nat} (hwhole : ∀ d ∈ whole, d < 10)
    (hfraction : ∀ d ∈ fraction, d < 10) (hne : whole ≠ []) (rest : List Char)
    (hrest : rest = [] ∧ fraction = [] ∨ rest = '.' :: plain fraction) :
    unsigned? false (plain whole ++ rest) =
      some (.decimal false (Text.ofDigits 10 (whole ++ fraction)) (-(fraction.length : Int))) := by
  have hbare : takeDigits (plain fraction ++ []) = (fraction, []) :=
    takeDigits_plain hfraction fun _ h => by cases h
  rw [List.append_nil] at hbare
  unfold unsigned?
  rcases hrest with ⟨rfl, rfl⟩ | rfl
  · rw [takeDigits_plain hwhole fun _ h => by cases h]
    simp [hne]
  · rw [takeDigits_plain hwhole fun _ h => by cases h; decide]
    simp [hbare, hne]

/-- Nothing but digits and a point is left out of a number, so all of it is read.  The reader
looks for blanks at the ends, for underscores between digits and for a sign; none of these is
among digits and a point. -/
theorem ofText?_of_plain {cs rest : List Char} {whole fraction : List Nat}
    (hwhole : ∀ d ∈ whole, d < 10) (hne : whole ≠ []) (hfraction : ∀ d ∈ fraction, d < 10)
    (hrest : rest = [] ∧ fraction = [] ∨ rest = '.' :: plain fraction)
    (hblank : ∀ c ∈ cs, Text.isBlank c = false) (hcs : cs.map plainDigit = plain whole ++ rest) :
    ofText? (String.ofList cs) =
      some (.decimal false (Text.ofDigits 10 (whole ++ fraction)) (-(fraction.length : Int))) := by
  have hclean : ∀ c ∈ plain whole ++ rest, c.isDigit = true ∨ c = '.' := fun c hc => by
    rcases List.mem_append.1 hc with hc | hc
    · exact .inl ((plain_spec hwhole).1 c hc)
    · rcases hrest with ⟨rfl, -⟩ | rfl
      · cases hc
      · rcases List.mem_cons.1 hc with rfl | hc
        · exact .inr rfl
        · exact .inl ((plain_spec hfraction).1 c hc)
  have hno {d : Char} (hd : ¬ (d.isDigit = true ∨ d = '.')) : ∀ c ∈ plain whole ++ rest, c ≠ d :=
    fun c hc heq => hd (heq ▸ hclean c hc)
  have hjoin := joinGroups?_of_forall (hno (d := '_') (by decide)) false
  have hsign := takeSign_of_forall fun c hc =>
    ⟨hno (d := '-') (by decide) c hc, hno (d := '+') (by decide) c hc⟩
  unfold ofText?
  rw [String.toList_ofList, strip_of_forall hblank, hcs, hjoin]
  simp [hsign, unsigned?_plain hwhole hfraction hne rest hrest]

/-- **Figures spell the number that their values make in base ten**, in whatever script. -/
theorem ofText?_of_figures {cs : List Char} {whole fraction : List Nat}
    (h : Text.Figures cs whole fraction) : ofText? (String.ofList cs) =
      some (.decimal false (Text.ofDigits 10 (whole ++ fraction)) (-(fraction.length : Int))) := by
  have hvalues {cs : List Char} {ds : List Nat} (h : Text.Digits cs ds) (hne : cs ≠ []) :
      ds ≠ [] := by
    rintro rfl
    exact hne (List.forall₂_nil_right_iff.1 h)
  have hblank := h.isBlank
  cases h with
  | whole h hne =>
    exact ofText?_of_plain h.lt_ten (hvalues h hne) (fun _ h => by cases h) (.inl ⟨rfl, rfl⟩) hblank
      (by rw [map_plainDigit h, List.append_nil])
  | point h hne h' hne' =>
    refine ofText?_of_plain h.lt_ten (hvalues h hne) h'.lt_ten (.inr rfl) hblank ?_
    rw [List.map_append, List.map_cons, map_plainDigit h, map_plainDigit h']
    rfl

end Decimal.Numeral

end Diorama
