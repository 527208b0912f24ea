import RouteTypes.FileSystem
import Mathlib.Data.Set.Finite.List

/-!
# Following paths

A path is followed name by name, and every name but a double dot leads one place further down
(`foldlM_enter_eq_ok`). So paths without double dots that start at the same place lead to different
places unless they have the same names.

A path fails as a whole or at the first of its names that cannot be entered
(`locate_eq_error_iff`): it is too long, or a name of it is (`find_eq_nameTooLong_iff`), or a
directory on the way is locked (`find_eq_forbidden_iff`). There are only finitely many texts that
are not too long (`finite_bounded`).
-/

namespace RouteTypes.FileSystem

variable {files : FileSystem} {path : FilePath} {place target : List String} {name : String}
variable {names : List String}

/-- Where a path is followed from. -/
def start (files : FileSystem) (path : FilePath) : List String :=
  if path.isAbsolute then [] else files.directory

theorem locate_eq_ok : files.locate path = .ok place ↔
    '\x00' ∉ path.toString.toList ∧ path.toString.utf8ByteSize ≤ 4095 ∧
      path.names.foldlM files.enter (files.start path) = .ok place := by
  unfold locate
  dsimp only
  split
  next null => simp_all
  next absent =>
    split
    next long => simp [long]
    next short =>
      have fits : path.toString.utf8ByteSize ≤ 4095 := Nat.le_of_not_lt short
      simp_all [start]

theorem find_eq_ok {node : FileNode} : files.find path = .ok node ↔
    ∃ place, files.locate path = .ok place ∧ files.node? place = some node := by
  unfold find
  cases located : files.locate path with
  | error obstacle =>
      constructor
      · intro impossible
        cases impossible
      · intro given
        rcases given with ⟨_, impossible, _⟩
        cases impossible
  | ok place =>
      simp only [bind, Except.bind]
      cases found : files.node? place <;> simp [found]

theorem enter_ne_nullCharacter : files.enter place name ≠ .error .nullCharacter := by
  unfold enter
  split
  · simp
  · simp
  · simp
  · split
    · simp
    · split <;> simp

/-- Names meet an obstacle at the first one that cannot be entered. -/
theorem foldlM_enter_eq_error_iff {obstacle : FileObstacle} :
    names.foldlM files.enter place = .error obstacle ↔
      ∃ before name after middle, names = before ++ name :: after ∧
        before.foldlM files.enter place = .ok middle ∧
          files.enter middle name = .error obstacle := by
  constructor
  · intro failed
    induction names generalizing place with
    | nil => cases failed
    | cons first rest ih =>
        rw [List.foldlM_cons] at failed
        cases entered : files.enter place first with
        | error other =>
            rw [entered] at failed
            cases failed
            exact ⟨[], first, rest, place, rfl, rfl, entered⟩
        | ok next =>
            rw [entered] at failed
            obtain ⟨before, name, after, middle, rfl, leads, stuck⟩ := ih failed
            refine ⟨first :: before, name, after, middle, rfl, ?_, stuck⟩
            rw [List.foldlM_cons, entered]
            exact leads
  · rintro ⟨before, name, after, middle, rfl, leads, stuck⟩
    rw [List.foldlM_append, leads]
    change (name :: after).foldlM files.enter middle = _
    rw [List.foldlM_cons, stuck]
    rfl

/-- Following a path, a name of it is looked for in a place. -/
structure Reaches (files : FileSystem) (path : FilePath) (place : List String) (name : String) :
    Prop where
  noNull : '\x00' ∉ path.toString.toList
  fits : path.toString.utf8ByteSize ≤ 4095
  follows : ∃ before after, path.names = before ++ name :: after ∧
    before.foldlM files.enter (files.start path) = .ok place

theorem locate_eq_error_iff {obstacle : FileObstacle} : files.locate path = .error obstacle ↔
    obstacle = .nullCharacter ∧ '\x00' ∈ path.toString.toList ∨
      obstacle = .nameTooLong ∧ '\x00' ∉ path.toString.toList ∧
        4095 < path.toString.utf8ByteSize ∨
      ∃ place name, files.Reaches path place name ∧ files.enter place name = .error obstacle := by
  have reaches : (∃ place name, files.Reaches path place name ∧
      files.enter place name = .error obstacle) ↔
      '\x00' ∉ path.toString.toList ∧ path.toString.utf8ByteSize ≤ 4095 ∧
        path.names.foldlM files.enter (files.start path) = .error obstacle := by
    rw [foldlM_enter_eq_error_iff]
    constructor
    · rintro ⟨place, name, ⟨noNull, fits, before, after, names, leads⟩, stuck⟩
      exact ⟨noNull, fits, before, name, after, place, names, leads, stuck⟩
    · rintro ⟨noNull, fits, before, name, after, place, names, leads, stuck⟩
      exact ⟨place, name, ⟨noNull, fits, before, after, names, leads⟩, stuck⟩
  rw [reaches]
  unfold locate
  dsimp only
  split
  next null => simp_all [eq_comm]
  next noNull =>
    split
    next long => simp_all [eq_comm]
    next fits =>
      have fits : path.toString.utf8ByteSize ≤ 4095 := Nat.le_of_not_lt fits
      simp_all [start]

/-- What is in the way to a place is in the way of what stands there; nothing may stand there. -/
theorem find_eq_error_iff {obstacle : FileObstacle} : files.find path = .error obstacle ↔
    files.locate path = .error obstacle ∨
      obstacle = .missing ∧ ∃ place, files.locate path = .ok place ∧ files.node? place = none := by
  unfold find
  cases files.locate path with
  | error other => simp [bind, Except.bind]
  | ok place =>
      simp only [bind, Except.bind]
      cases found : files.node? place <;> simp [found, eq_comm]

/-- Only a path that holds a null character is not looked for. -/
theorem find_eq_nullCharacter_iff :
    files.find path = .error .nullCharacter ↔ '\x00' ∈ path.toString.toList := by
  rw [find_eq_error_iff, locate_eq_error_iff]
  simp [enter_ne_nullCharacter]

/-- A path is too long to be followed, or comes to a name that is too long for a directory. -/
inductive IsTooLong (files : FileSystem) (path : FilePath) : Prop where
  | whole (noNull : '\x00' ∉ path.toString.toList) (long : 4095 < path.toString.utf8ByteSize)
  | name {place : List String} {name : String} (reaches : files.Reaches path place name)
      (directory : files.node? place = some .directory) (down : name ≠ "..")
      (long : 255 < name.utf8ByteSize)

theorem find_eq_nameTooLong_iff :
    files.find path = .error .nameTooLong ↔ files.IsTooLong path := by
  have enter_iff {place : List String} {name : String} :
      files.enter place name = .error .nameTooLong ↔
        files.node? place = some .directory ∧ name ≠ ".." ∧ 255 < name.utf8ByteSize := by
    unfold enter
    split <;> grind
  rw [find_eq_error_iff, locate_eq_error_iff]
  simp only [reduceCtorEq, false_and, true_and, false_or, or_false, enter_iff]
  constructor
  · rintro (⟨noNull, long⟩ | ⟨place, name, reaches, directory, down, long⟩)
    · exact .whole noNull long
    · exact .name reaches directory down long
  · rintro (⟨noNull, long⟩ | ⟨reaches, directory, down, long⟩)
    · exact .inl ⟨noNull, long⟩
    · exact .inr ⟨_, _, reaches, directory, down, long⟩

/-- A path leads through a locked directory. -/
def IsLockedOut (files : FileSystem) (path : FilePath) : Prop :=
  ∃ place name, files.Reaches path place name ∧ files.node? place = some .locked

theorem find_eq_forbidden_iff :
    files.find path = .error .forbidden ↔ files.IsLockedOut path := by
  have enter_iff {place : List String} {name : String} :
      files.enter place name = .error .forbidden ↔ files.node? place = some .locked := by
    unfold enter
    split <;> grind
  rw [find_eq_error_iff, locate_eq_error_iff, IsLockedOut]
  simp only [reduceCtorEq, false_and, false_or, or_false, enter_iff]

/-- A name that is no double dot leads down from a directory. -/
theorem enter_eq_ok (down : name ≠ "..") (entered : files.enter place name = .ok target) :
    files.node? place = some .directory ∧ target = place ++ [name] := by
  unfold enter at entered
  split at entered
  next => cases entered
  next => cases entered
  next => cases entered
  next found =>
    rw [if_neg (by simpa using down)] at entered
    split at entered
    next => cases entered
    next =>
      cases entered
      exact ⟨found, rfl⟩

/-- Names that are no double dots lead down. -/
theorem foldlM_enter_eq_ok (down : ".." ∉ names)
    (followed : names.foldlM files.enter place = .ok target) : target = place ++ names := by
  induction names generalizing place with
  | nil =>
      cases followed
      exact (List.append_nil _).symm
  | cons name rest ih =>
      rw [List.mem_cons, not_or] at down
      rw [List.foldlM_cons] at followed
      cases entered : files.enter place name with
      | error obstacle =>
          rw [entered] at followed
          cases followed
      | ok next =>
          rw [entered] at followed
          obtain ⟨_, rfl⟩ := enter_eq_ok (Ne.symm down.1) entered
          rw [ih down.2 followed, List.append_assoc, List.singleton_append]

theorem foldlM_append_eq_ok {front back : List String} :
    (front ++ back).foldlM files.enter place = .ok target ↔
      ∃ middle, front.foldlM files.enter place = .ok middle ∧
        back.foldlM files.enter middle = .ok target := by
  rw [List.foldlM_append]
  cases front.foldlM files.enter place with
  | error obstacle =>
      constructor
      · intro impossible
        cases impossible
      · intro given
        rcases given with ⟨_, impossible, _⟩
        cases impossible
  | ok middle =>
      constructor
      · exact fun onward => ⟨middle, rfl, onward⟩
      · intro given
        rcases given with ⟨_, ⟨⟩, onward⟩
        exact onward

theorem foldlM_singleton : [name].foldlM files.enter place = files.enter place name := by
  simp

/-- Names can only be followed from a directory. -/
theorem directory_of_enter (entered : files.enter place name = .ok target) :
    files.node? place = some .directory := by
  unfold enter at entered
  split at entered
  next => cases entered
  next => cases entered
  next => cases entered
  next found => exact found

/-! ## Trees -/

/-- Everything stands in a directory, and no directory is locked. -/
structure IsTree (files : FileSystem) : Prop where
  root : files.node? [] = some .directory
  working : files.node? files.directory = some .directory
  unlocked : ∀ place, files.node? place ≠ some .locked
  inside : ∀ place name node, files.node? (place ++ [name]) = some node →
    files.node? place = some .directory

/-- Nothing is out of reach where no directory is locked. -/
theorem find_ne_forbidden (unlocked : ∀ place, files.node? place ≠ some .locked) :
    files.find path ≠ .error .forbidden := by
  rw [ne_eq, find_eq_forbidden_iff]
  rintro ⟨place, _, _, locked⟩
  exact unlocked place locked

theorem IsTree.start (tree : files.IsTree) (path : FilePath) :
    files.node? (files.start path) = some .directory := by
  unfold FileSystem.start
  split
  next => exact tree.root
  next => exact tree.working

/-- A double dot leads to a directory. -/
theorem IsTree.directory_of_enter (tree : files.IsTree)
    (entered : files.enter place ".." = .ok target) : files.node? target = some .directory := by
  have found := FileSystem.directory_of_enter entered
  unfold enter at entered
  rw [found] at entered
  cases entered
  rcases List.eq_nil_or_concat place with rfl | ⟨front, last, rfl⟩
  · exact tree.root
  · rw [List.concat_eq_append] at found ⊢
    rw [List.dropLast_concat]
    exact tree.inside front last _ found

/-- The last name of a path to a file is no double dot. -/
theorem IsTree.last_of_file (tree : files.IsTree) {content : Bytes}
    (found : files.find path = .ok (.file content)) :
    ∃ front last, path.names = front ++ [last] ∧ last ≠ ".." := by
  obtain ⟨place, located, node⟩ := find_eq_ok.1 found
  obtain ⟨_, _, followed⟩ := locate_eq_ok.1 located
  rcases List.eq_nil_or_concat path.names with names | ⟨front, last, names⟩
  · rw [names] at followed
    cases followed
    cases node.symm.trans (tree.start path)
  · rw [List.concat_eq_append] at names
    refine ⟨front, last, names, ?_⟩
    intro equal
    subst equal
    rw [names] at followed
    obtain ⟨middle, _, entered⟩ := foldlM_append_eq_ok.1 followed
    rw [foldlM_singleton] at entered
    cases node.symm.trans (tree.directory_of_enter entered)

section Common

variable {root : String} {front first second : List String}

/-- Names without double dots that lead from the same place to the same place are the same. -/
theorem eq_of_locate (leads : files.locate ⟨root, front ++ first⟩ = .ok place)
    (alsoLeads : files.locate ⟨root, front ++ second⟩ = .ok place) (down : ".." ∉ first)
    (alsoDown : ".." ∉ second) : first = second := by
  obtain ⟨_, _, followed⟩ := locate_eq_ok.1 leads
  obtain ⟨_, _, alsoFollowed⟩ := locate_eq_ok.1 alsoLeads
  obtain ⟨middle, reached, onward⟩ := foldlM_append_eq_ok.1 followed
  obtain ⟨_, alsoReached, alsoOnward⟩ := foldlM_append_eq_ok.1 alsoFollowed
  cases reached.symm.trans alsoReached
  have equal := foldlM_enter_eq_ok down onward
  rw [foldlM_enter_eq_ok alsoDown alsoOnward] at equal
  exact (List.append_cancel_left equal).symm

/-- The directory of a file is no file. -/
theorem ne_nil_of_file {last : String} {content other : Bytes}
    (found : files.find ⟨root, front ++ [last]⟩ = .ok (.file content))
    (alsoFound : files.find ⟨root, front ++ first⟩ = .ok (.file other)) : first ≠ [] := by
  intro equal
  subst equal
  obtain ⟨_, located, _⟩ := find_eq_ok.1 found
  obtain ⟨_, _, followed⟩ := locate_eq_ok.1 located
  obtain ⟨middle, reached, entered⟩ := foldlM_append_eq_ok.1 followed
  obtain ⟨place, alsoLocated, node⟩ := find_eq_ok.1 alsoFound
  obtain ⟨_, _, alsoFollowed⟩ := locate_eq_ok.1 alsoLocated
  rw [List.append_nil] at alsoFollowed
  cases reached.symm.trans alsoFollowed
  rw [foldlM_singleton] at entered
  cases node.symm.trans (directory_of_enter entered)

end Common

/-! ## Short texts -/

/-- There are finitely many texts of a bounded length. -/
theorem finite_bounded (bound : Nat) : {text : String | text.utf8ByteSize ≤ bound}.Finite := by
  have bytes : Finite UInt8 := Finite.of_injective UInt8.toFin fun _ _ => UInt8.toFin_inj.1
  have lists : {text : List UInt8 | text.length ≤ bound}.Finite := List.finite_length_le UInt8 bound
  refine Set.Finite.of_finite_image (f := fun text : String => text.toByteArray.data.toList)
    (lists.subset ?_) ?_
  · intro _ given
    rcases given with ⟨text, short, rfl⟩
    exact short
  · intro text _ other _ same
    exact String.toByteArray_inj.1 (ByteArray.ext (Array.toList_inj.1 same))

end RouteTypes.FileSystem
