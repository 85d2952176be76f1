/-
# The grammar of typefaces

A typeface is well spelled by words between blanks: any number of style words, each in capitals or
not; then figures followed directly by `px`; then the words of a family.  `Shape` holds the parts of
such a text and `Shape.Of` says that a text has them.

What `Typeface.read` answers is told from the parts alone: the size is the whole part of what the
figures are worth, at least one pixel; the styles are those among the style words; the family is its
words with one space between any two, without the quotes at its ends and in lower case.  Any other
text but the empty one is reported once, and answered with a size and family of its own and the
styles of the style words that it begins with (`read_of_spelling`).

The worth of a scalar is an exact fraction.  Doubles have one by their bits, and exact scalars are
their own (`Scalar.Measured`).
-/
import Diorama.Proofs.Rules
import Diorama.Proofs.Wording
import Diorama.Typeface

namespace Diorama

open Act

/-! ## 1. What scalars are worth

`int(float(size))` is a question about the scalar, not about the text.  The class says for which
scalars it has the expected answer, so that the theorem at the end holds for doubles and for exact
scalars alike. -/

/-- A kind of scalar of which the finite ones are worth a fraction, and have its whole part: the
fraction is cut off towards zero. -/
class Scalar.Measured (α : Type) [Scalar α] where
  worth : α → Option Rat
  trunc?_eq {x : α} {q : Rat} (h : worth x = some q) :
    Scalar.trunc? x = some (if 0 ≤ q then ⌊q⌋ else ⌈q⌉)

/-- A quotient without its fraction is cut off towards zero: the floor of a positive one, the
ceiling of a negative one. -/
theorem Decimal.truncDiv_eq (num : Int) {den : Nat} (h : 0 < den) : truncDiv num den =
    if (0 : Rat) ≤ num / den then ⌊(num / den : Rat)⌋ else ⌈(num / den : Rat)⌉ := by
  have hden : (0 : Rat) < den := Nat.cast_pos.2 h
  have hsign : (0 : Rat) ≤ num / den ↔ 0 ≤ num := by
    rw [le_div_iff₀ hden, zero_mul]
    exact Int.cast_nonneg_iff
  unfold truncDiv
  rw [Rat.floor_intCast_div_natCast, Rat.ceil_intCast_div_natCast]
  split
  · next hnum => exact Int.tdiv_eq_ediv_of_nonneg (hsign.1 hnum)
  · next hnum =>
    have hneg : 0 ≤ -num := by
      have := hsign.not.1 hnum
      omega
    rw [← Int.tdiv_eq_ediv_of_nonneg hneg, Int.neg_tdiv, neg_neg]

/-- The quotient that a double stands for has a denominator that is not zero. -/
theorem Decimal.Binary.quotient_pos (negative : Bool) (m : Nat) (q : Int) :
    0 < (quotient negative m q).2 := by
  unfold quotient
  dsimp only
  split_ifs
  · exact Nat.one_pos
  · exact Nat.one_pos
  · exact Nat.pow_pos (by decide)
  · exact Nat.pow_pos (by decide)

/-- A finite double is worth what its bits say. -/
instance : Scalar.Measured Float where
  worth x :=
    match Decimal.Binary.ofFloat x with
    | .finite negative m q _ =>
      let (num, den) := Decimal.Binary.quotient negative m q
      some (num / den)
    | _ => none
  trunc?_eq {x q} h := by
    show Decimal.wholeOfFloat? Decimal.truncDiv x = _
    unfold Decimal.wholeOfFloat?
    cases hx : Decimal.Binary.ofFloat x with
    | finite negative m e edge =>
      rw [hx] at h
      cases h
      exact congrArg some (Decimal.truncDiv_eq _ (Decimal.Binary.quotient_pos negative m e))
    | infinite => simp [hx] at h
    | undefined => simp [hx] at h

/-- An exact scalar is worth itself. -/
@[reducible] def Scalar.Measured.exact (sine : Rat → Rat) (radian : Rat) :
    @Scalar.Measured Rat (Scalar.exact sine radian) :=
  letI := Scalar.exact sine radian
  { worth := some
    trunc?_eq := fun {x q} h => by
      cases h
      have heq := Decimal.truncDiv_eq x.num x.den_pos
      rw [Rat.num_div_den] at heq
      exact congrArg some heq }

namespace Typeface

/-! ## 2. Well-spelled typefaces

The grammar, without any reading: parts of a text, and what it means for a text to have them. -/

/-- What a word before the size says. -/
inductive Style where
  | bold
  | italic
  | normal
  deriving DecidableEq

/-- The word for a style, in small letters. -/
def Style.name : Style → String
  | bold => "bold"
  | italic => "italic"
  | normal => "normal"

/-- The characters spell the style, in capitals or not. -/
def Style.Spelled (t : Style) (w : List Char) : Prop := w.map Char.toLower = t.name.toList

instance (t : Style) (w : List Char) : Decidable (t.Spelled w) :=
  inferInstanceAs (Decidable (_ = _))

/-- The parts of a typeface: its style words, the digits of its size before and after the point, and
the words of its family. -/
structure Shape where
  styles : List Style
  whole : List Nat
  fraction : List Nat
  family : List (List Char)

/-- The number that the size spells. -/
def Shape.size (p : Shape) : Decimal.Numeral :=
  .decimal false (Text.ofDigits 10 (p.whole ++ p.fraction)) (-(p.fraction.length : Int))

/-- The text is well spelled, of these parts. -/
def Shape.Of (p : Shape) (s : String) : Prop :=
  ∃ (words : List (List Char)) (figures : List Char),
    Text.Spaced s.toList (words ++ (figures ++ ['p', 'x']) :: p.family) ∧
      List.Forall₂ Style.Spelled p.styles words ∧ Text.Figures figures p.whole p.fraction ∧
      p.family ≠ []

/-- Only the quotes around the characters are gone from `cs`. -/
def Unquoted (cs name : List Char) : Prop :=
  ∃ before after : List Char, cs = before ++ name ++ after ∧
    (∀ c ∈ before ++ after, c = '\'' ∨ c = '"') ∧
    (∀ c ∈ name.head?, ¬ (c = '\'' ∨ c = '"')) ∧ ∀ c ∈ name.getLast?, ¬ (c = '\'' ∨ c = '"')

/-- Words for these styles come first, and no more of them. -/
def Leads (styles : List Style) (words rest : List (List Char)) : Prop :=
  List.Forall₂ Style.Spelled styles words ∧ ∀ w ∈ rest.head?, ∀ t : Style, ¬ t.Spelled w

/-! ## 3. Style words

The words at the beginning are compared in lower case.  Since the three names are plain letters,
this comes to comparing letter by letter, capitals or not; no other letter of any script is
lowered to one of them. -/

/-- To spell a style is to be its name in lower case, as the program compares it. -/
theorem spelled_iff {t : Style} {w : List Char} :
    t.Spelled w ↔ Text.lower (String.ofList w) = t.name := by
  have hall : t.name.toList.all (fun c => decide (Text.Plain c)) = true := by
    cases t <;> decide +kernel
  have hplain : ∀ c ∈ t.name.toList, Text.Plain c := by simpa using hall
  unfold Style.Spelled Text.lower
  rw [String.toList_ofList, ← Text.lowerAfter_eq_iff hplain [] w]
  constructor
  · intro h
    rw [h, String.ofList_toList]
  · intro h
    rw [← h, String.toList_ofList]

/-- A style word is taken and adds its style; what follows is taken in the same way. -/
theorem takeStyle_of_spelled {t : Style} {w : List Char} (h : t.Spelled w) (rest : List String) :
    takeStyle (String.ofList w :: rest) =
      (t = .bold || (takeStyle rest).1, t = .italic || (takeStyle rest).2.1,
        (takeStyle rest).2.2) := by
  have hlower := spelled_iff.1 h
  rw [takeStyle]
  simp only [hlower]
  cases t <;> simp [Style.name]

/-- Any other word ends the taking, with no style and all the words left. -/
theorem takeStyle_of_not_spelled {w : List Char} (h : ∀ t : Style, ¬ t.Spelled w)
    (rest : List String) :
    takeStyle (String.ofList w :: rest) = (false, false, String.ofList w :: rest) := by
  have hbold := spelled_iff.not.1 (h .bold)
  have hitalic := spelled_iff.not.1 (h .italic)
  have hnormal := spelled_iff.not.1 (h .normal)
  simp only [Style.name] at hbold hitalic hnormal
  simp [takeStyle, hbold, hitalic, hnormal]

/-- The style words are taken as far as they go. -/
theorem Leads.takeStyle_eq {styles : List Style} {words rest : List (List Char)}
    (h : Leads styles words rest) : takeStyle ((words ++ rest).map String.ofList) =
      (decide (.bold ∈ styles), decide (.italic ∈ styles), rest.map String.ofList) := by
  obtain ⟨hwords, hrest⟩ := h
  induction hwords with
  | nil =>
    cases rest with
    | nil => rfl
    | cons w rest => exact takeStyle_of_not_spelled (hrest w rfl) _
  | cons h _ ih =>
    rw [List.cons_append, List.map_cons, takeStyle_of_spelled h, ih]
    simp [eq_comm]

/-- Any words start with style words, as far as these go. -/
theorem exists_leads (all : List (List Char)) :
    ∃ styles words rest, all = words ++ rest ∧ Leads styles words rest := by
  induction all with
  | nil => exact ⟨[], [], [], rfl, .nil, fun _ h => by cases h⟩
  | cons w all ih =>
    by_cases hw : ∃ t : Style, t.Spelled w
    · obtain ⟨t, ht⟩ := hw
      obtain ⟨styles, words, rest, rfl, hwords, hrest⟩ := ih
      exact ⟨t :: styles, w :: words, rest, rfl, .cons ht hwords, hrest⟩
    · exact ⟨[], [], w :: all, rfl, .nil, fun _ h t ht => hw ⟨t, Option.some.inj h ▸ ht⟩⟩

/-! ## 4. Sizes

A size is a word that ends in `px` and has figures before it.  The first direction of each
equivalence takes such a word apart, the second puts one together. -/

/-- The digits in front are those of the figures, up to the point. -/
theorem span_digits {cs : List Char} {ds : List Nat} (h : Text.Digits cs ds) (rest : List Char)
    (hrest : ∀ c ∈ rest.head?, Text.digit? c = none) :
    (cs ++ rest).takeWhile (fun c => (Text.digit? c).isSome) = cs ∧
      (cs ++ rest).dropWhile (fun c => (Text.digit? c).isSome) = rest := by
  have hcs : ∀ c ∈ cs, (Text.digit? c).isSome = true := fun c hc =>
    Option.isSome_iff_exists.2 (h.exists_of_mem hc)
  rw [List.takeWhile_append_of_pos hcs, List.dropWhile_append_of_pos hcs]
  cases rest with
  | nil => simp
  | cons c rest => simp [hrest c rfl]

/-- `isSize` looks for digits, then possibly a point and digits again: just what `Figures`
says.  One way the digits are those before the first other character; the other way the span of
digits in front of a point is read back whole. -/
theorem isSize_iff {cs : List Char} :
    isSize cs = true ↔ ∃ whole fraction, Text.Figures cs whole fraction := by
  constructor
  · intro h
    have hsplit := List.takeWhile_append_dropWhile (p := fun c => (Text.digit? c).isSome) (l := cs)
    obtain ⟨ds, hds⟩ : ∃ ds, Text.Digits (cs.takeWhile fun c => (Text.digit? c).isSome) ds :=
      Text.exists_digits fun _ hc =>
        List.mem_takeWhile_imp (p := fun c => (Text.digit? c).isSome) hc
    unfold isSize at h
    dsimp only at h
    split at h
    · next hdrop =>
      rw [hdrop, List.append_nil] at hsplit
      rw [hsplit] at h hds
      exact ⟨ds, [], .whole hds (by simpa using h)⟩
    · next fraction hdrop =>
      rw [hdrop] at hsplit
      simp only [Bool.and_eq_true, Bool.not_eq_true', List.isEmpty_eq_false_iff,
        List.all_eq_true] at h
      obtain ⟨⟨hwhole, hfraction⟩, hall⟩ := h
      obtain ⟨es, hes⟩ := Text.exists_digits hall
      exact ⟨ds, es, hsplit ▸ .point hds hwhole hes hfraction⟩
    · cases h
  · rintro ⟨whole, fraction, h⟩
    unfold isSize
    dsimp only
    cases h with
    | whole h hne =>
      obtain ⟨htake, hdrop⟩ := span_digits h [] fun _ h => by cases h
      rw [List.append_nil] at htake hdrop
      rw [htake, hdrop]
      simp [hne]
    | @point cs fs ds es h hne h' hne' =>
      obtain ⟨htake, hdrop⟩ := span_digits h ('.' :: fs) fun c hc => by
        cases hc
        decide
      have hall : ∀ c ∈ fs, (Text.digit? c).isSome = true := fun c hc =>
        Option.isSome_iff_exists.2 (h'.exists_of_mem hc)
      rw [htake, hdrop]
      simpa [hne, hne'] using hall

/-- A word with a size is its figures followed by `px`. -/
theorem sizeText?_eq_some {w : List Char} {size : String} :
    sizeText? (String.ofList w) = some size ↔
      w = size.toList ++ ['p', 'x'] ∧ isSize size.toList = true := by
  unfold sizeText?
  rw [String.toList_ofList]
  constructor
  · intro h
    split at h
    · next digits hrev =>
      split_ifs at h with hsize
      cases h
      rw [String.toList_ofList]
      exact ⟨by simpa using congrArg List.reverse hrev, hsize⟩
    · cases h
  · rintro ⟨rfl, hsize⟩
    simp [hsize]

/-- Figures followed by `px` are such a word. -/
theorem sizeText?_of_figures {figures : List Char} {whole fraction : List Nat}
    (h : Text.Figures figures whole fraction) :
    sizeText? (String.ofList (figures ++ ['p', 'x'])) = some (String.ofList figures) := by
  rw [sizeText?_eq_some, String.toList_ofList]
  exact ⟨rfl, isSize_iff.2 ⟨whole, fraction, h⟩⟩

/-- What has the form of a size is no style word. -/
theorem not_spelled_of_px (t : Style) (figures : List Char) :
    ¬ t.Spelled (figures ++ ['p', 'x']) := fun h => by
  have hlast : (t.name.toList).getLast? = some 'x' := by
    rw [← (h : _ = t.name.toList)]
    simp
  revert hlast
  cases t <;> decide +kernel

/-- The size in pixels is the whole part of what the figures are worth, and never less than
one.  The conversion cuts towards zero, which is the whole part unless the number is negative, and
then both are below one. -/
theorem pixels_of_worth {α : Type} [Scalar α] [Scalar.Measured α] {figures : List Char}
    {whole fraction : List Nat} (h : Text.Figures figures whole fraction) {x : α} {q : Rat}
    (hx : Scalar.ofNumeral? (.decimal false (Text.ofDigits 10 (whole ++ fraction))
      (-(fraction.length : Int))) = some x) (hq : Scalar.Measured.worth x = some q) :
    pixels α (String.ofList figures) = .ok (max 1 ⌊q⌋) := by
  have htext : (Value.text (String.ofList figures) : Value α).toScalar = .ok x := by
    simp [Value.toScalar, Decimal.Numeral.ofText?_of_figures h, hx]
  have hwhole : Scalar.whole x = .ok (if 0 ≤ q then ⌊q⌋ else ⌈q⌉) := by
    simp [Scalar.whole, Value.wholeOf, Scalar.Measured.trunc?_eq hq]
  have hsame : max 1 (if 0 ≤ q then ⌊q⌋ else ⌈q⌉) = max 1 ⌊q⌋ := by
    split
    · rfl
    · next hneg =>
      have hceil : ⌈q⌉ ≤ 0 := Int.ceil_le.2 (by simpa using (not_le.1 hneg).le)
      have hfloor := Int.floor_le_ceil q
      rw [max_eq_left (by omega), max_eq_left (by omega)]
  unfold pixels
  rw [htext]
  show (do let n ← Scalar.whole x; pure (max 1 n)) = _
  rw [hwhole]
  exact congrArg Except.ok hsame

/-! ## 5. The reading

Each text is of one of two kinds, well spelled or not, and which of them is computed by
`readable`.  For each kind there is one run of the reading, and the theorem puts them together. -/

/-- Quotes are taken off at both ends, as many as there are, and nothing else is.  The quotes in
front are dropped first and those behind next, so what is left neither begins nor ends with one. -/
theorem unquoted_unquote (cs : List Char) : Unquoted cs (unquote cs) := by
  let isQuote (c : Char) : Bool := c == '\'' || c == '"'
  let inner := cs.dropWhile isQuote
  have hquote (c : Char) : isQuote c = true ↔ c = '\'' ∨ c = '"' := by simp [isQuote]
  have hback : inner.rdropWhile isQuote ++ inner.rtakeWhile isQuote = inner :=
    List.rdropWhile_append_rtakeWhile
  have hsplit : cs.takeWhile isQuote ++ inner = cs := List.takeWhile_append_dropWhile
  refine ⟨cs.takeWhile isQuote, inner.rtakeWhile isQuote, ?_, fun c hc => ?_, fun c hc => ?_,
    fun c hc => ?_⟩
  · show cs = cs.takeWhile isQuote ++ inner.rdropWhile isQuote ++ inner.rtakeWhile isQuote
    rw [List.append_assoc, hback, hsplit]
  · refine (hquote c).1 ((List.mem_append.1 hc).elim (fun hc => List.mem_takeWhile_imp hc)
      fun hc => List.mem_rtakeWhile_imp hc)
  · have hhead : inner.head? = some c := List.head?_eq_some_iff.2 <| by
      obtain ⟨rest, hname⟩ := List.head?_eq_some_iff.1 hc
      exact ⟨rest ++ inner.rtakeWhile isQuote, by
        rw [← List.cons_append, ← hname]; exact hback.symm⟩
    have hnot := List.head?_dropWhile_not isQuote cs
    rw [show (cs.dropWhile isQuote).head? = some c from hhead] at hnot
    rw [← hquote]
    simpa using hnot
  · obtain ⟨hne, rfl⟩ := List.mem_getLast?_eq_getLast hc
    exact (hquote _).not.1 (List.rdropWhile_last_not isQuote inner hne)

/-- The words of a text are those that it is laid out as. -/
theorem words_of_spaced {s : String} {ws : List (List Char)} (h : Text.Spaced s.toList ws) :
    Text.words s = ws.map String.ofList :=
  congrArg (List.map String.ofList) (Text.spaced_iff.1 h)

/-- A well-spelled typeface names a family. -/
theorem Shape.Of.family_ne_nil {p : Shape} {s : String} (h : p.Of s) : p.family ≠ [] :=
  let ⟨_, _, _, _, _, hfamily⟩ := h
  hfamily

/-- Of no text is there nothing. -/
theorem Shape.Of.ne_empty {p : Shape} {s : String} (h : p.Of s) : s ≠ "" := by
  rintro rfl
  obtain ⟨words, figures, hspaced, -⟩ := h
  have hnone := Text.spaced_iff.1 hspaced
  exact List.append_ne_nil_of_right_ne_nil words (List.cons_ne_nil _ _) hnone.symm

/-- A well-spelled text is taken apart into its parts. -/
theorem Shape.Of.takeStyle_eq {p : Shape} {s : String} (h : p.Of s) :
    ∃ figures, Text.Figures figures p.whole p.fraction ∧ takeStyle (Text.words s) =
      (decide (.bold ∈ p.styles), decide (.italic ∈ p.styles),
        String.ofList (figures ++ ['p', 'x']) :: p.family.map String.ofList) := by
  obtain ⟨words, figures, hspaced, hstyles, hfigures, -⟩ := h
  have hlead : Leads p.styles words ((figures ++ ['p', 'x']) :: p.family) :=
    ⟨hstyles, fun _ hw t => Option.some.inj hw ▸ not_spelled_of_px t figures⟩
  exact ⟨figures, hfigures, by rw [words_of_spaced hspaced, hlead.takeStyle_eq, List.map_cons]⟩

/-- The words after the style words are those of a size and a family. -/
def readable : List String → Bool
  | first :: _ :: _ => (sizeText? first).isSome
  | _ => false

/-- **Being well spelled can be computed.** One way the parts of the spelling are what the reader
finds; the other way what the reader finds are the parts. -/
theorem exists_of_iff {s : String} :
    (∃ p : Shape, p.Of s) ↔ readable (takeStyle (Text.words s)).2.2 = true := by
  constructor
  · rintro ⟨p, h⟩
    obtain ⟨figures, hfigures, hstyle⟩ := h.takeStyle_eq
    obtain ⟨second, rest, hrest⟩ := List.exists_cons_of_ne_nil h.family_ne_nil
    rw [hstyle, hrest]
    exact Option.isSome_iff_exists.2 ⟨_, sizeText?_of_figures hfigures⟩
  · intro h
    obtain ⟨styles, words, rest, hall, hlead⟩ := exists_leads (Text.wordsFrom [] s.toList)
    have hspaced : Text.Spaced s.toList (words ++ rest) := Text.spaced_iff.2 hall
    rw [words_of_spaced hspaced, hlead.takeStyle_eq] at h
    obtain _ | ⟨first, _ | ⟨second, rest⟩⟩ := rest
    · cases h
    · cases h
    · obtain ⟨size, hsize⟩ := Option.isSome_iff_exists.1 h
      obtain ⟨rfl, hfigures⟩ := sizeText?_eq_some.1 hsize
      obtain ⟨whole, fraction, hfigures⟩ := isSize_iff.1 hfigures
      exact ⟨⟨styles, whole, fraction, second :: rest⟩, words, size.toList, hspaced, hlead.1,
        hfigures, List.cons_ne_nil second rest⟩

/-- The family is its words, one space apart, without the quotes around them and in lower case. -/
theorem familyOf_map (family : List (List Char)) : ∃ name,
    Unquoted ([' '].intercalate family) name ∧
      familyOf (family.map String.ofList) = Text.lower (String.ofList name) := by
  refine ⟨_, unquoted_unquote _, ?_⟩
  unfold familyOf
  rw [String.toList_intercalate, List.map_map]
  simp

section Reading

variable {α : Type} [Scalar α] {s : String} {bold italic : Bool} {words : List String}

/-- A text with a size and a family is read without a line in the log. -/
theorem run_read_of_size (hs : s ≠ "") {first second size : String} {n : Int}
    (hstyle : takeStyle (Text.words s) = (bold, italic, first :: second :: words))
    (hsize : sizeText? first = some size) (hn : pixels α size = .ok n) (log : Log) :
    (read α s).run log =
      (.ok { size := n, family := familyOf (second :: words), bold, italic }, log) := by
  unfold read
  rw [if_neg (by simpa using hs)]
  dsimp only
  rw [hstyle]
  dsimp only
  rw [hsize]
  dsimp only
  rw [hn]
  rfl

/-- Any other text is answered with 48 pixels of Arial and reported; the style words in front
still count. -/
theorem run_read_of_unreadable (hs : s ≠ "")
    (hstyle : takeStyle (Text.words s) = (bold, italic, words)) (hnot : readable words = false)
    (log : Log) : (read α s).run log =
      (.ok { size := 48, family := "arial", bold, italic },
        log.push ("[TextRenderer] Warning: unparseable font '" ++ s ++ "', using default")) := by
  unfold read
  rw [if_neg (by simpa using hs)]
  dsimp only
  rw [hstyle]
  obtain _ | ⟨first, _ | ⟨second, rest⟩⟩ := words
  · rfl
  · rfl
  · have hsize : sizeText? first = none :=
      Option.not_isSome_iff_eq_none.1 (Bool.eq_false_iff.1 hnot)
    dsimp only
    rw [hsize]
    rfl

end Reading

/-- **The grammar of typefaces.**  A text of the parts `p`, with a size worth `q`, has the whole
pixels of `q` but at least one, the styles among its style words, and its words for a family;
nothing is reported.  A text of no such parts is reported once, and only its leading style words
count. -/
theorem read_of_spelling {α : Type} [Scalar α] [Scalar.Measured α] (s : String) (log : Log) :
    (∀ (p : Shape) (x : α) (q : Rat), p.Of s → Scalar.ofNumeral? p.size = some x →
      Scalar.Measured.worth x = some q →
      ∃ name, Unquoted ([' '].intercalate p.family) name ∧ (read α s).run log =
        (.ok { size := max 1 ⌊q⌋
               family := Text.lower (String.ofList name)
               bold := decide (.bold ∈ p.styles)
               italic := decide (.italic ∈ p.styles) }, log)) ∧
    (s ≠ "" → (¬ ∃ p : Shape, p.Of s) →
      ∃ styles words rest, Text.Spaced s.toList (words ++ rest) ∧ Leads styles words rest ∧
        (read α s).run log = (.ok { size := 48
                                    family := "arial"
                                    bold := decide (.bold ∈ styles)
                                    italic := decide (.italic ∈ styles) },
          log.push ("[TextRenderer] Warning: unparseable font '" ++ s ++ "', using default"))) := by
  constructor
  · intro p x q h hx hq
    obtain ⟨figures, hfigures, hstyle⟩ := h.takeStyle_eq
    obtain ⟨name, hname, hlower⟩ := familyOf_map p.family
    obtain ⟨second, rest, hrest⟩ := List.exists_cons_of_ne_nil h.family_ne_nil
    refine ⟨name, hname, ?_⟩
    rw [← hlower]
    rw [hrest, List.map_cons] at hstyle ⊢
    exact run_read_of_size h.ne_empty hstyle (sizeText?_of_figures hfigures)
      (pixels_of_worth hfigures hx hq) log
  · intro hne hnot
    obtain ⟨styles, words, rest, hall, hlead⟩ := exists_leads (Text.wordsFrom [] s.toList)
    have hspaced : Text.Spaced s.toList (words ++ rest) := Text.spaced_iff.2 hall
    have hstyle := hlead.takeStyle_eq
    rw [← words_of_spaced hspaced] at hstyle
    rw [exists_of_iff, hstyle] at hnot
    exact ⟨styles, words, rest, hspaced, hlead,
      run_read_of_unreadable hne hstyle (Bool.eq_false_iff.2 hnot) log⟩

/-- A text with style words in three spellings, blanks of several kinds, and digits of two
scripts. -/
def ornate : String := " Bold\titalic  BOLD 1\u0662.5px\u3000'Fira \n  Code' "

def ornateShape : Shape :=
  { styles := [.bold, .italic, .bold], whole := [1, 2], fraction := [5]
    family := ["'Fira".toList, "Code'".toList] }

/-- The ornate text is read as its parts say; one with a blank inside its size is reported.  The
first has weights in several cases, a digit of another script and a quoted family; the second is
no font at all, since nothing but the unit may follow a size. -/
theorem read_of_spelling_ornate :
    letI := Scalar.exact (fun x => x) 57
    (∃ name, Unquoted "'Fira Code'".toList name ∧ (read Rat ornate).run #[] =
      (.ok { size := 12
             family := Text.lower (String.ofList name)
             bold := true
             italic := true }, #[])) ∧
    ∃ styles words rest, Text.Spaced "bold 12 px Fira".toList (words ++ rest) ∧
      Leads styles words rest ∧ (read Rat "bold 12 px Fira").run #[] =
        (.ok { size := 48
               family := "arial"
               bold := decide (.bold ∈ styles)
               italic := decide (.italic ∈ styles) },
         #["[TextRenderer] Warning: unparseable font 'bold 12 px Fira', using default"]) := by
  let _ := Scalar.exact (fun x => x) 57
  let _ := Scalar.Measured.exact (fun x => x) 57
  have hof : ornateShape.Of ornate := by
    refine ⟨["Bold".toList, "italic".toList, "BOLD".toList], "1\u0662.5".toList,
      Text.spaced_iff.2 (by decide +kernel), ?_, ?_, List.cons_ne_nil _ _⟩
    · exact .cons (by decide +kernel) (.cons (by decide +kernel) (.cons (by decide +kernel) .nil))
    · have hwhole : Text.Digits ['1', '\u0662'] [1, 2] := .cons rfl (.cons rfl .nil)
      have hfraction : Text.Digits ['5'] [5] := .cons rfl .nil
      exact .point hwhole (List.cons_ne_nil _ _) hfraction (List.cons_ne_nil _ _)
  have hsize : Scalar.ofNumeral? ornateShape.size = some (25 / 2 : Rat) := by decide +kernel
  have hworth : Scalar.Measured.worth (25 / 2 : Rat) = some (25 / 2 : Rat) := rfl
  have hpixels : max 1 ⌊(25 / 2 : Rat)⌋ = 12 := by decide +kernel
  have hnot : ¬ ∃ p : Shape, p.Of "bold 12 px Fira" := by
    rw [exists_of_iff]
    decide +kernel
  refine ⟨?_, (read_of_spelling "bold 12 px Fira" #[]).2 (by decide) hnot⟩
  have h := (read_of_spelling ornate #[]).1 ornateShape _ _ hof hsize hworth
  rwa [hpixels] at h

end Typeface

end Diorama
