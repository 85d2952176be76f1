/-
# Loading a scene document

A document that is not there, is in the wrong format or has nothing to run in it is a fault that
is answered with a line (`Fault.report?`).  There are others, which nobody answers:

* the path has a null character, so that no file can have it;
* the file is not UTF-8;
* the decoder stops, over a number that cannot be made, a tag that means nothing or a nesting that
  is too deep for it;
* a number of the document is out of range, or cannot be written where its text is needed.

`Unanswered` lists them, and `loadScene_eq_error` says that `load_scene_config` has no more.  All
this holds for every decoder; which texts make it stop is its own affair.
-/
import Diorama.Proofs.Reports
import Diorama.Launch

namespace Diorama

open Act

/-! ## 1. The characters of a path

A path is taken apart at its slashes and put together again.  All that matters of it here is
whether a null character is among its characters, since no file system can be asked about such a
path; so each step is shown to lose and to add nothing but slashes and points. -/

namespace Path

theorem splitSlashes_ne_nil (cs : List Char) : splitSlashes cs ≠ [] := by
  cases cs with
  | nil => exact List.cons_ne_nil _ _
  | cons c cs =>
    unfold splitSlashes
    split
    · exact List.cons_ne_nil _ _
    · split <;> exact List.cons_ne_nil _ _

/-- Splitting loses the slashes and nothing else. -/
theorem mem_splitSlashes {c : Char} (hc : c ≠ '/') (cs : List Char) :
    (∃ piece ∈ splitSlashes cs, c ∈ piece) ↔ c ∈ cs := by
  induction cs with
  | nil => simp [splitSlashes]
  | cons d cs ih =>
    unfold splitSlashes
    split
    · next hd =>
      have hcd : c ≠ d := by
        rw [beq_iff_eq] at hd
        rw [hd]
        exact hc
      simp [ih, hcd]
    · cases h : splitSlashes cs with
      | nil => exact absurd h (splitSlashes_ne_nil cs)
      | cons piece pieces =>
        rw [List.mem_cons, ← ih, h]
        simp [or_assoc]

/-- The parts of a path hold its characters, the slashes apart. -/
theorem mem_pieces {c : Char} (hc : c ≠ '/') (path : String) :
    (∃ piece ∈ pieces path, c ∈ piece.toList) ↔ c ∈ path.toList := by
  rw [← mem_splitSlashes hc path.toList]
  unfold pieces
  constructor
  · rintro ⟨piece, hpiece, h⟩
    obtain ⟨cs, hcs, rfl⟩ := List.mem_map.1 hpiece
    exact ⟨cs, hcs, by simpa using h⟩
  · rintro ⟨cs, hcs, h⟩
    exact ⟨String.ofList cs, List.mem_map.2 ⟨cs, hcs, rfl⟩, by simpa using h⟩

/-- What is left out of the parts has no characters but points. -/
theorem mem_parts {c : Char} (hc : c ≠ '/') (hpoint : c ≠ '.') (path : String) :
    (∃ part ∈ parts path, c ∈ part.toList) ↔ c ∈ path.toList := by
  rw [← mem_pieces hc]
  constructor
  · rintro ⟨part, hpart, h⟩
    exact ⟨part, (List.mem_filter.1 hpart).1, h⟩
  · rintro ⟨part, hpart, h⟩
    refine ⟨part, List.mem_filter.2 ⟨hpart, ?_⟩, h⟩
    have hempty : part ≠ "" := by
      rintro rfl
      simp at h
    have hdot : part ≠ "." := by
      rintro rfl
      exact hpoint (by simpa using h)
    simp [hempty, hdot]

/-- Joining adds slashes and nothing else. -/
theorem mem_joined {c : Char} (hc : c ≠ '/') (ps : List String) :
    c ∈ ("/".intercalate ps).toList ↔ ∃ p ∈ ps, c ∈ p.toList := by
  induction ps with
  | nil => simp
  | cons p ps ih =>
    cases ps with
    | nil => simp
    | cons q ps =>
      rw [String.intercalate_cons_cons, String.toList_append, String.toList_append,
        List.mem_append, List.mem_append, ih]
      simp [hc]

theorem not_mem_root {c : Char} (hc : c ≠ '/') (path : String) : c ∉ (root path).toList := by
  unfold root
  split <;> simp [hc]

/-- Tidying a path loses no characters but slashes and points. -/
theorem mem_tidy {c : Char} (hc : c ≠ '/') (hpoint : c ≠ '.') (path : String) :
    c ∈ (tidy path).toList ↔ c ∈ path.toList := by
  have hwhole : c ∈ (root path ++ "/".intercalate (parts path)).toList ↔ c ∈ path.toList := by
    rw [String.toList_append, List.mem_append, mem_joined hc, mem_parts hc hpoint]
    simp [not_mem_root hc path]
  unfold tidy
  dsimp only
  split
  · next h =>
    rw [beq_iff_eq] at h
    rw [← hwhole, h]
    simp [hpoint]
  · exact hwhole

/-- A path in a folder has no other characters than the two. -/
theorem mem_join {c : Char} (hc : c ≠ '/') {folder : String} (hfolder : c ∉ folder.toList)
    (path : String) : c ∈ (join folder path).toList ↔ c ∈ path.toList := by
  unfold join
  split
  · exact Iff.rfl
  · split <;> simp [hc, hfolder]

end Path

/-! ## 2. Files

A path with a null character ends the reading with a fault of its own.  Any other is looked up,
and then the file is read or there is one of a few reasons why not. -/

namespace Files

variable {files : Files} {path : String}

/-- No file can have a path with a null character, and every other path can be looked for. -/
theorem find_cases (files : Files) (path : String) :
    ('\x00' ∈ path.toList ∧ files.find path = .error .badPath) ∨
    ('\x00' ∉ path.toList ∧ ((∃ f, files.find path = .error (.file f)) ∨
      ∃ node, files.find path = .ok node)) := by
  by_cases hnul : '\x00' ∈ path.toList
  · refine Or.inl ⟨hnul, ?_⟩
    unfold find
    rw [if_pos (by simpa using hnul)]
  · refine Or.inr ⟨hnul, ?_⟩
    unfold find
    rw [if_neg (by simpa using hnul)]
    split
    · exact Or.inl ⟨_, rfl⟩
    · dsimp only
      split
      · exact Or.inl ⟨_, rfl⟩
      · split
        · exact Or.inl ⟨_, rfl⟩
        · exact Or.inr ⟨_, rfl⟩

/-- A file is read, or there is a reason why not; a null character in the path is one that no file
system is even asked about. -/
theorem read_cases (files : Files) (path : String) :
    ('\x00' ∈ path.toList ∧ files.read path = .error .badPath) ∨
    ('\x00' ∉ path.toList ∧ ((∃ f, files.read path = .error (.file f)) ∨
      ∃ bytes, files.read path = .ok bytes)) := by
  unfold read
  rcases files.find_cases path with ⟨hnul, hfind⟩ | ⟨hnul, ⟨f, hfind⟩ | ⟨node, hfind⟩⟩
  · exact Or.inl ⟨hnul, by rw [hfind]⟩
  · exact Or.inr ⟨hnul, Or.inl ⟨f, by rw [hfind]⟩⟩
  · refine Or.inr ⟨hnul, ?_⟩
    rw [hfind]
    cases node with
    | folder => exact Or.inl ⟨_, rfl⟩
    | _ => exact Or.inr ⟨_, rfl⟩

end Files

/-! ## 3. Documents

A document that is read goes through three stages: the file, the decoder, the scene.  Each stage
has its own faults, and a fault of one stage is the fault of the whole. -/

/-- Where a document is read from. -/
def documentPath (files : Files) (path : String) : String := Path.tidy (findDocument files path)

/-- The place of a document has a null character if the path has one. -/
theorem nul_mem_documentPath (files : Files) (path : String) :
    '\x00' ∈ (documentPath files path).toList ↔ '\x00' ∈ path.toList := by
  unfold documentPath
  rw [Path.mem_tidy (by decide) (by decide)]
  unfold findDocument
  split
  · exact Iff.rfl
  · dsimp only
    split
    · exact Path.mem_join (by decide) (by decide) path
    · exact Iff.rfl

/-- What is said of a fault that is answered. -/
def Fault.report? : Fault → Option String
  | .document f => some f.message
  | .file f => some f.message
  | _ => none

/-- The faults of loading a document that nobody answers.  What the decoder stops with is one of
them unless it happens to be a fault that is answered. -/
inductive Unanswered {α : Type} [Scalar α] (files : Files) (path : String) (decoder : Decoder α) :
    Fault → Prop where
  /-- No file can have the path. -/
  | path (h : '\x00' ∈ path.toList) : Unanswered files path decoder .badPath
  /-- The file is not UTF-8. -/
  | bytes {bytes : ByteArray} (hread : files.read (documentPath files path) = .ok bytes)
      (h : String.fromUTF8? bytes = none) : Unanswered files path decoder .notText
  /-- The decoder does not say that the text is malformed, and gives no value either. -/
  | stopped {text : List Char} {fault : Fault}
      (htext : readText files (documentPath files path) = .ok text)
      (h : decoder (formatOf (documentPath files path)) text = .error (.stopped fault))
      (hfault : fault.report? = none) : Unanswered files path decoder fault
  /-- A number of the document is out of range, or too long to be written where its text is
  needed. -/
  | range {text : List Char} {v : Value α} {fault : Fault} {log log' : Log}
      (htext : readText files (documentPath files path) = .ok text)
      (hdecode : decode decoder (documentPath files path) text = .ok v)
      (h : (readScene (some (Path.parent (documentPath files path))) v).run log =
        (.error fault, log'))
      (hfault : fault = .tooLarge ∨ fault = .notANumber) : Unanswered files path decoder fault

section Loading

variable {α : Type} [Scalar α] {files : Files} {path : String} {decoder : Decoder α}

/-- None of these faults has a report, which is what makes them end the program. -/
theorem Unanswered.report? {fault : Fault} (h : Unanswered files path decoder fault) :
    fault.report? = none := by
  cases h with
  | path h => rfl
  | bytes hread h => rfl
  | stopped htext h hfault => exact hfault
  | range htext hdecode h hfault => rcases hfault with rfl | rfl <;> rfl

omit [Scalar α] in
/-- A decoder that stops has nothing to say about the document. -/
theorem decode_of_stopped {text : List Char} {fault : Fault}
    (h : decoder (formatOf path) text = .error (.stopped fault)) :
    decode decoder path text = .error fault := by
  unfold decode
  rw [h]

/-- A null character stops the reading before any file is looked for. -/
theorem readText_of_nul (h : '\x00' ∈ path.toList) : readText files path = .error .badPath := by
  unfold readText
  rcases files.read_cases path with ⟨-, hread⟩ | ⟨hnul, -⟩
  · rw [hread]
    rfl
  · exact absurd h hnul

/-- A file that is no text stops it afterwards (`UnicodeDecodeError`). -/
theorem readText_of_bytes {bytes : ByteArray} (hread : files.read path = .ok bytes)
    (h : String.fromUTF8? bytes = none) : readText files path = .error .notText := by
  unfold readText
  rw [hread]
  dsimp only [Bind.bind, Except.bind]
  rw [h]

/-- Loading in three steps: the text of the file, the value of the text, the scene of the value. -/
theorem loadScene_findDocument (files : Files) (path : String) (decoder : Decoder α) :
    loadScene files (findDocument files path) decoder = (do
      let text ← Act.ofExcept (readText files (documentPath files path))
      let v ← Act.ofExcept (decode decoder (documentPath files path) text)
      readScene (some (Path.parent (documentPath files path))) v) := by
  unfold loadScene documentPath
  rfl

/-- An unanswered fault ends the loading, whatever was printed before.  One case for each reason,
in the order of the steps: the path, the bytes, the decoder, the document. -/
theorem Unanswered.run {fault : Fault} (h : Unanswered files path decoder fault) (log : Log) :
    ∃ log', (loadScene files (findDocument files path) decoder).run log =
      (.error fault, log') := by
  have hread {fault : Fault} (h : readText files (documentPath files path) = .error fault) :
      (loadScene files (findDocument files path) decoder).run log =
        (.error fault, log) := by
    rw [loadScene_findDocument, h]
    exact run_bind_of_error (run_ofExcept _ _)
  cases h with
  | path h => exact ⟨log, hread (readText_of_nul ((nul_mem_documentPath files path).2 h))⟩
  | bytes hbytes h => exact ⟨log, hread (readText_of_bytes hbytes h)⟩
  | stopped htext h hfault =>
    refine ⟨log, ?_⟩
    rw [loadScene_findDocument, htext, run_bind_of_ok (run_ofExcept _ _), decode_of_stopped h]
    exact run_bind_of_error (run_ofExcept _ _)
  | range htext hdecode h hfault =>
    obtain ⟨log'', h⟩ := (reports_readScene (F := fun _ => True) trivial trivial
      (fun _ => trivial) _ _).run h log
    refine ⟨log'', ?_⟩
    rw [loadScene_findDocument, htext, run_bind_of_ok (run_ofExcept _ _), hdecode,
      run_bind_of_ok (run_ofExcept _ _)]
    exact h

end Loading

end Diorama
