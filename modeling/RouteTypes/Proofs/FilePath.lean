import RouteTypes.FilePath
import Mathlib.Logic.Basic

/-!
# Paths and their texts

The names of a path that was read from a text are neither empty nor a dot, and hold no slash. Such
a path is read back from its own text (`ofString_toString`), so a path and its text say the same.
-/

namespace RouteTypes

namespace Text

theorem splitOn_eq (mark : Char) (text : List Char) : splitOn mark text = text.splitOn mark := by
  induction text with
  | nil => rfl
  | cons first rest ih =>
      rw [splitOn, List.splitOn_cons_eq_if_modifyHead, ih]
      split
      next => rfl
      next =>
        cases parts : rest.splitOn mark with
        | nil => exact absurd parts (List.splitOn_ne_nil mark rest)
        | cons part others => rfl

/-- No part of a text that is split at a character holds this character. -/
theorem not_mem_of_mem_splitOn {mark : Char} {text part : List Char}
    (member : part ∈ splitOn mark text) : mark ∉ part := by
  induction text generalizing part with
  | nil =>
      rw [splitOn, List.mem_singleton] at member
      simp [member]
  | cons first rest ih =>
      rw [splitOn] at member
      split at member
      next =>
        rcases List.mem_cons.1 member with rfl | member
        · simp
        · exact ih member
      next different =>
        have other : ¬mark = first := fun same => different (by simp [same])
        cases parts : splitOn mark rest with
        | nil => exact absurd parts (splitOn_ne_nil mark rest)
        | cons next others =>
            rw [parts] at member ih
            rcases List.mem_cons.1 member with rfl | member
            · simp [other, ih List.mem_cons_self]
            · exact ih (List.mem_cons_of_mem _ member)

theorem splitString_singleton_append (mark : Char) (rest : String) :
    splitString mark (String.singleton mark ++ rest) = "" :: splitString mark rest := by
  simp [splitString, splitOn]

/-- Parts that do not hold a character are found again between the occurrences of it. -/
theorem splitString_intercalate {mark : Char} {parts : List String} (some : parts ≠ [])
    (absent : ∀ part ∈ parts, mark ∉ part.toList) :
    splitString mark ((String.singleton mark).intercalate parts) = parts := by
  rw [splitString, splitOn_eq, String.toList_intercalate, String.toList_singleton,
    List.splitOn_intercalate]
  · simp
  · simpa using absent
  · simpa using some

/-- What stands between two marks stands in one of the parts. -/
theorem mem_intercalate {mark c : Char} {parts : List (List Char)} (other : c ≠ mark) :
    c ∈ [mark].intercalate parts ↔ ∃ part ∈ parts, c ∈ part := by
  induction parts with
  | nil => simp
  | cons part rest ih =>
      cases rest with
      | nil => simp
      | cons next rest =>
          rw [List.intercalate_cons_cons, List.mem_append, List.mem_append, ih]
          simp [other]

theorem mem_splitString {mark c : Char} {text : String} (other : c ≠ mark) :
    (∃ part ∈ splitString mark text, c ∈ part.toList) ↔ c ∈ text.toList := by
  have joined : c ∈ [mark].intercalate (text.toList.splitOn mark) ↔ c ∈ text.toList := by
    rw [List.intercalate_splitOn]
  rw [← joined, mem_intercalate other, splitString, splitOn_eq]
  simp only [List.mem_map, exists_exists_and_eq_and, String.toList_ofList]

end Text

namespace FilePath

variable {path other : FilePath} {text : String}

/-- A path as it is read from a text. -/
structure Proper (path : FilePath) : Prop where
  root : path.root = "" ∨ path.root = "/" ∨ path.root = "//"
  named : ∀ name ∈ path.names, isName name = true
  unsplit : ∀ name ∈ path.names, '/' ∉ name.toList

theorem proper_ofString (text : String) : Proper (ofString text) where
  root := by
    unfold ofString rootOf
    dsimp only
    split <;> simp
  named name member := (List.mem_filter.1 member).2
  unsplit name member := by
    obtain ⟨part, inside, rfl⟩ := List.mem_map.1 (List.mem_filter.1 member).1
    simpa using Text.not_mem_of_mem_splitOn inside

theorem Proper.parent (proper : path.Proper) : path.parent.Proper where
  root := proper.root
  named name member := proper.named name (List.dropLast_subset _ member)
  unsplit name member := proper.unsplit name (List.dropLast_subset _ member)

theorem Proper.join (first : path.Proper) (second : other.Proper) : (path.join other).Proper := by
  unfold FilePath.join
  split
  next => exact second
  next =>
    refine ⟨first.root, ?_, ?_⟩ <;> intro name member <;> rcases List.mem_append.1 member with
      inFirst | inSecond
    · exact first.named name inFirst
    · exact second.named name inSecond
    · exact first.unsplit name inFirst
    · exact second.unsplit name inSecond

/-- A relative path as seen from the directory of a file. -/
theorem join_parent (relative : other.isAbsolute = false) :
    path.parent.join other = ⟨path.root, path.names.dropLast ++ other.names⟩ := by
  rw [FilePath.join, relative]
  rfl

theorem join_left_cancel {first second : FilePath} (relative : other.isAbsolute = false)
    (same : first.join other = second.join other) : first = second := by
  obtain ⟨root, names⟩ := first
  obtain ⟨otherRoot, otherNames⟩ := second
  simpa [FilePath.join, relative] using same

theorem Proper.head?_ne_slash (proper : path.Proper) :
    ("/".intercalate path.names).toList.head? ≠ some '/' := by
  cases names : path.names with
  | nil => simp
  | cons name rest =>
      have present := proper.named name (by simp [names])
      have unsplit := proper.unsplit name (by simp [names])
      cases letters : name.toList with
      | nil => simp_all [isName]
      | cons first others =>
          rw [letters, List.mem_cons, not_or] at unsplit
          cases rest <;> simp [letters, Ne.symm unsplit.1]

theorem rootOf_of_head? {letters : List Char} (start : letters.head? ≠ some '/') :
    rootOf letters = "" ∧ rootOf ('/' :: letters) = "/" ∧
      rootOf ('/' :: '/' :: letters) = "//" := by
  cases letters with
  | nil => exact ⟨rfl, rfl, rfl⟩
  | cons first rest =>
      have other : first ≠ '/' := by simpa using start
      simp [rootOf, other]

theorem Proper.filter_splitString (proper : path.Proper) :
    (Text.splitString '/' ("/".intercalate path.names)).filter isName = path.names := by
  by_cases names : path.names = []
  · simp [names, Text.splitString, Text.splitOn, isName]
  · exact (congrArg _ (Text.splitString_intercalate names proper.unsplit)).trans
      (List.filter_eq_self.2 proper.named)

/-- A path is read back from its text. -/
theorem Proper.ofString_toString (proper : path.Proper) : ofString path.toString = path := by
  obtain ⟨noRoot, oneSlash, twoSlashes⟩ := rootOf_of_head? proper.head?_ne_slash
  have names := proper.filter_splitString
  have skip (rest : String) : (Text.splitString '/' ("/" ++ rest)).filter isName =
      (Text.splitString '/' rest).filter isName :=
    (congrArg _ (Text.splitString_singleton_append '/' rest)).trans
      (List.filter_cons_of_neg (by decide))
  obtain ⟨root, parts⟩ := path
  unfold toString ofString
  split
  next empty =>
    obtain ⟨rfl, rfl⟩ : root = "" ∧ parts = [] := by simpa using empty
    decide
  next =>
    rcases proper.root with rfl | rfl | rfl
    · simp only [String.empty_append, noRoot, names]
    · rw [skip, names]
      exact congrArg (FilePath.mk · parts) (by simpa using oneSlash)
    · rw [show "//" = "/" ++ "/" from rfl, String.append_assoc, skip, skip, names]
      exact congrArg (FilePath.mk · parts) (by simpa using twoSlashes)

theorem Proper.eq_of_toString (first : path.Proper) (second : other.Proper)
    (same : path.toString = other.toString) : path = other := by
  rw [← first.ofString_toString, same, second.ofString_toString]

/-- A text without slashes that names something is read as this one name. -/
theorem ofString_of_isName (named : isName text = true) (unsplit : '/' ∉ text.toList) :
    ofString text = ⟨"", [text]⟩ := by
  have proper : Proper ⟨"", [text]⟩ := ⟨.inl rfl, by simpa using named, by simpa using unsplit⟩
  have shown : toString ⟨"", [text]⟩ = text := by simp [toString]
  rw [← proper.ofString_toString, shown]

/-- A path that is read shows the characters of its text, other than slashes and dots. -/
theorem mem_toString_ofString {c : Char} (slash : c ≠ '/') (dot : c ≠ '.') :
    c ∈ (ofString text).toString.toList ↔ c ∈ text.toList := by
  have noRoot : c ∉ (ofString text).root.toList := by
    rcases (proper_ofString text).root with root | root | root <;> simp [root, slash]
  have inNames : c ∈ ("/".intercalate (ofString text).names).toList ↔ c ∈ text.toList := by
    rw [String.toList_intercalate, show "/".toList = ['/'] from rfl, Text.mem_intercalate slash,
      ← Text.mem_splitString slash]
    have named (part : String) (member : c ∈ part.toList) : isName part = true := by
      have empty : part ≠ "" := by
        rintro rfl
        cases member
      have single : part ≠ "." := by
        rintro rfl
        exact dot (List.mem_singleton.1 member)
      simp [isName, empty, single]
    simp only [List.mem_map, exists_exists_and_eq_and, ofString, List.mem_filter]
    exact exists_congr fun part => and_congr_left fun member =>
      and_iff_left (named part member)
  unfold toString
  split
  next empty =>
    obtain ⟨_, names⟩ := Bool.and_eq_true_iff.1 empty
    rw [List.isEmpty_iff] at names
    rw [← inNames, names]
    simp [dot]
  next => rw [String.toList_append, List.mem_append, inNames, or_iff_right noRoot]

end FilePath

end RouteTypes
