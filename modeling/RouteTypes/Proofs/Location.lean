import RouteTypes.Location
import RouteTypes.Proofs.FilePath

/-!
# Locations in the file system

A relative location that is joined to the location of a file gives the text of a path
(`join_of_relative`), and such a text is never the address of a web page (`isWeb_toString`). So a
document that relative locations lead to from a file is in a file, too. From two files a relative
location leads to the same place only if they are in one directory (`join_eq_join_iff`), and every
other location always does (`join_eq_join_of_not_relative`).
-/

namespace RouteTypes.Location

open FilePath

variable {path : FilePath} {base location : String}

/-- A location that is a path without a root. -/
structure Relative (location : String) : Prop where
  notWeb : isWeb location = false
  notFileUrl : isFileUrl location = false
  notAbsolute : (FilePath.ofString location).isAbsolute = false

/-- The first letter of a location tells a page from a file that is written as a URL. -/
theorem isFileUrl_of_isWeb (web : isWeb location = true) : isFileUrl location = false := by
  unfold isWeb Text.startsWith at web
  unfold isFileUrl Text.startsWithAnyCase
  cases characters : location.toList with
  | nil => rfl
  | cons first rest =>
      rw [characters] at web
      have letter : first = 'h' := by
        rcases Bool.or_eq_true_iff.1 web with starts | starts
        · exact ((List.cons_prefix_cons.1 (List.isPrefixOf_iff_prefix.1 starts)).1).symm
        · exact ((List.cons_prefix_cons.1 (List.isPrefixOf_iff_prefix.1 starts)).1).symm
      rw [letter]
      rfl

theorem isWeb_of_isFileUrl (isFile : isFileUrl location = true) : isWeb location = false := by
  rw [← Bool.not_eq_true]
  intro web
  rw [isFileUrl_of_isWeb web] at isFile
  cases isFile

/-- The text of a path does not start with a scheme and two slashes. -/
theorem append_slashes_ne_toString (proper : path.Proper) {first : Char}
    {scheme rest : List Char} (unsplit : '/' ∉ first :: scheme) :
    first :: scheme ++ '/' :: '/' :: rest ≠ path.toString.toList := by
  intro equal
  have different : first ≠ '/' := fun same => unsplit (same ▸ List.mem_cons_self)
  obtain ⟨root, names⟩ := path
  unfold FilePath.toString at equal
  split at equal
  next => simp at equal
  next some =>
    rcases proper.root with rfl | rfl | rfl
    · have named : names ≠ [] := by simpa using some
      have parts : Text.splitString '/' ("/".intercalate names) = names :=
        Text.splitString_intercalate named proper.unsplit
      rw [String.empty_append] at equal
      rw [Text.splitString, ← equal, Text.splitOn_eq,
        List.splitOn_append_cons_self_of_not_mem unsplit] at parts
      have empty : "" ∈ names := by
        rw [← parts, ← Text.splitOn_eq, Text.splitOn]
        simp
      exact absurd (proper.named "" empty) (by decide)
    · simp [different] at equal
    · simp [different] at equal

@[simp] theorem isWeb_toString (proper : path.Proper) : isWeb path.toString = false := by
  have other (first : Char) (scheme : List Char) (unsplit : '/' ∉ first :: scheme) :
      (first :: scheme ++ ['/', '/']).isPrefixOf path.toString.toList = false := by
    rw [Bool.eq_false_iff, ne_eq, List.isPrefixOf_iff_prefix]
    intro starts
    rcases starts with ⟨rest, equal⟩
    exact append_slashes_ne_toString proper unsplit (by simpa using equal)
  rw [isWeb, Bool.or_eq_false_iff]
  exact ⟨other 'h' "ttp:".toList (by decide), other 'h' "ttps:".toList (by decide)⟩

/-- A relative location leads from a file to the text of a path. -/
theorem join_of_relative (relative : Relative location) (notWeb : isWeb base = false) :
    join (some base) location = (basePath base).map fun path =>
      ((FilePath.ofString path).parent.join (FilePath.ofString location)).toString := by
  simp only [join, relative.notWeb, relative.notFileUrl, relative.notAbsolute, Option.any_some,
    notWeb, Bool.false_eq_true, if_false]
  rfl

theorem join_eq_ok {joined : String} (relative : Relative location) (notWeb : isWeb base = false) :
    join (some base) location = .ok joined ↔ ∃ path, basePath base = .ok path ∧
      joined = ((FilePath.ofString path).parent.join (FilePath.ofString location)).toString := by
  rw [join_of_relative relative notWeb]
  cases basePath base with
  | error fault => simp [Except.map]
  | ok path => simp [Except.map, eq_comm]

/-- The directory of the file at a base. -/
def directory (base : String) : Except Url.Fault FilePath :=
  (basePath base).map fun path => (FilePath.ofString path).parent

theorem proper_directory (found : directory base = .ok path) : path.Proper := by
  rw [directory] at found
  cases read : basePath base with
  | error fault =>
      rw [read] at found
      cases found
  | ok text =>
      rw [read] at found
      cases found
      exact (proper_ofString text).parent

/-- From files, a relative location leads to the same place exactly if they are in one
directory. -/
theorem join_eq_join_iff {other : String} (relative : Relative location)
    (notWeb : isWeb base = false) (alsoNotWeb : isWeb other = false) :
    join (some base) location = join (some other) location ↔ directory base = directory other := by
  have reading (base : String) (notWeb : isWeb base = false) : join (some base) location =
      (directory base).map fun path => (path.join (FilePath.ofString location)).toString := by
    rw [join_of_relative relative notWeb, directory]
    cases basePath base <;> rfl
  rw [reading base notWeb, reading other alsoNotWeb]
  constructor
  · intro same
    cases first : directory base <;> cases second : directory other <;> rw [first, second] at same
    case error.error =>
      cases same
      rfl
    case ok.ok path otherPath =>
      have proper := proper_ofString location
      have joined := ((proper_directory first).join proper).eq_of_toString
        ((proper_directory second).join proper) (Except.ok.inj same)
      rw [join_left_cancel relative.notAbsolute joined]
    all_goals cases same
  · intro same
    rw [same]

/-- A location that is not relative to files leads to the same place from everything that is not on
the web. -/
theorem join_eq_join_of_not_relative {base other : Option String} (fixed : ¬Relative location)
    (notWeb : base.any isWeb = false) (alsoNotWeb : other.any isWeb = false) :
    join base location = join other location := by
  unfold join
  split
  next => rfl
  next isNotWeb =>
    split
    next => rfl
    next isNotFileUrl =>
      have absolute : (FilePath.ofString location).isAbsolute = true := by
        rw [← Bool.not_eq_false]
        intro notAbsolute
        exact fixed ⟨by simpa using isNotWeb, by simpa using isNotFileUrl, notAbsolute⟩
      simp [notWeb, alsoNotWeb, absolute]

theorem basePath_of_notFileUrl (notFileUrl : isFileUrl location = false) :
    basePath location = .ok location := by
  rw [basePath, notFileUrl]
  rfl

end RouteTypes.Location
