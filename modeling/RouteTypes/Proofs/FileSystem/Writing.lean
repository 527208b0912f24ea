import Mathlib
import RouteTypes.Output
import RouteTypes.Proofs.FileSystem

/-!
# What writing leaves alone

Writing a file makes the directories around it and changes this one file at most: every other file
keeps its content, and every directory stays one (`evolves_save`). So paths go on leading where they
led before (`Evolves.locate_eq_ok`), and a file that has been written is read as it was written
until another one of the same place is (`Evolves.read_eq_ok`).
-/

namespace RouteTypes.FileSystem

variable {files before between after : FileSystem} {path : FilePath} {place : List String}
variable {content : Bytes}

/-! ## Places -/

theorem lookup_filter_of_ne {κ α : Type} [BEq κ] [LawfulBEq κ] {entries : List (κ × α)}
    {key other : κ} (different : other ≠ key) :
    (entries.filter fun entry => entry.1 != key).lookup other = entries.lookup other := by
  induction entries with
  | nil => rfl
  | cons entry rest ih =>
      obtain ⟨name, value⟩ := entry
      by_cases dropped : name = key
      · simp [dropped, beq_false_of_ne different, List.lookup_cons, ih]
      · simp [dropped, List.lookup_cons, ih]

theorem lookup_filter_self {κ α : Type} [BEq κ] [LawfulBEq κ] (entries : List (κ × α)) (key : κ) :
    (entries.filter fun entry => entry.1 != key).lookup key = none := by
  rw [List.lookup_eq_none_iff]
  intro entry member
  have kept := (List.mem_filter.1 member).2
  simpa using Ne.symm (ne_of_beq_false (by simpa using kept))

/-- What stands at the places after something was put at one of them. -/
theorem node?_set (files : FileSystem) (place other : List String) (node : FileNode) :
    (files.set place node).node? other = if other = place then some node
      else files.node? other := by
  unfold node? set
  rw [List.lookup_append]
  by_cases same : other = place
  · subst same
    simp [lookup_filter_self]
  · simp [lookup_filter_of_ne same, List.lookup_cons, same, beq_false_of_ne same]

/-! ## Files that stay -/

/-- The second file system comes from the first one by making directories and by changing files at
the given places. -/
structure Evolves (touched : Set (List String)) (before after : FileSystem) : Prop where
  working : after.directory = before.directory
  directories : ∀ place node, node.isDirectory = true → before.node? place = some node →
    after.node? place = some node
  files : ∀ place ∉ touched, ∀ content,
    after.node? place = some (.file content) ↔ before.node? place = some (.file content)

variable {touched wider : Set (List String)}

namespace Evolves

theorem refl (files : FileSystem) : Evolves touched files files :=
  ⟨rfl, fun _ _ _ => id, fun _ _ _ => Iff.rfl⟩

theorem trans (first : Evolves touched before between) (second : Evolves touched between after) :
    Evolves touched before after where
  working := second.working.trans first.working
  directories place node isDirectory stands :=
    second.directories place node isDirectory (first.directories place node isDirectory stands)
  files place apart content := (second.files place apart content).trans
    (first.files place apart content)

theorem weaken (evolves : Evolves touched before after) (more : touched ⊆ wider) :
    Evolves wider before after where
  working := evolves.working
  directories := evolves.directories
  files place apart := evolves.files place fun member => apart (more member)

/-- Where no directory stands, anything may be put. -/
theorem set {node : FileNode}
    (free : ∀ standing : FileNode, standing.isDirectory = true →
      files.node? place ≠ some standing)
    (allowed : place ∈ touched ∨ files.node? place = none ∧ node = .directory) :
    Evolves touched files (files.set place node) where
  working := rfl
  directories other standing isDirectory stands := by
    have apart : other ≠ place := fun same => free standing isDirectory (same ▸ stands)
    rw [node?_set, if_neg apart, stands]
  files other apart content := by
    rw [node?_set]
    split
    next same =>
      subst same
      rcases allowed with member | ⟨absent, rfl⟩
      · exact absurd member apart
      · simp [absent]
    next => rfl

theorem enter_eq_ok (evolves : Evolves touched before after) {name : String}
    {target : List String} (entered : before.enter place name = .ok target) :
    after.enter place name = .ok target := by
  have stands := directory_of_enter entered
  rw [← entered, enter, enter, stands, evolves.directories place .directory rfl stands]

theorem foldlM_enter_eq_ok (evolves : Evolves touched before after) {names : List String}
    {target : List String} (followed : names.foldlM before.enter place = .ok target) :
    names.foldlM after.enter place = .ok target := by
  induction names generalizing place with
  | nil => exact followed
  | cons name rest ih =>
      rw [← List.singleton_append, foldlM_append_eq_ok, foldlM_singleton] at followed ⊢
      obtain ⟨middle, entered, onward⟩ := followed
      exact ⟨middle, evolves.enter_eq_ok entered, ih onward⟩

/-- Paths go on leading where they led. -/
theorem locate_eq_ok (evolves : Evolves touched before after)
    (located : before.locate path = .ok place) : after.locate path = .ok place := by
  obtain ⟨clean, short, followed⟩ := FileSystem.locate_eq_ok.1 located
  refine FileSystem.locate_eq_ok.2 ⟨clean, short, ?_⟩
  rw [start, evolves.working]
  exact evolves.foldlM_enter_eq_ok followed

end Evolves

theorem read_eq_ok : files.read path = .ok content ↔
    ∃ place, files.locate path = .ok place ∧ files.node? place = some (.file content) := by
  rw [← find_eq_ok, read]
  split
  next found => simp [found]
  next found => simp [found]
  next found => simp [found]
  next found => simp [found]

/-- A file is read as before unless its place is touched. -/
theorem Evolves.read_eq_ok (evolves : Evolves touched before after)
    (known : before.read path = .ok content)
    (apart : ∀ place, after.locate path = .ok place → place ∉ touched) :
    after.read path = .ok content := by
  obtain ⟨place, located, stands⟩ := FileSystem.read_eq_ok.1 known
  have still := evolves.locate_eq_ok located
  exact FileSystem.read_eq_ok.2
    ⟨place, still, (evolves.files place (apart place still) content).2 stands⟩

/-! ## Making directories -/

/-- A directory is made where nothing stands. -/
theorem makeDirectory_eq_ok (made : files.makeDirectory path = .ok after) :
    ∃ place, files.locate path = .ok place ∧ files.node? place = none ∧
      after = files.set place .directory := by
  unfold makeDirectory at made
  cases located : files.locate path with
  | error obstacle =>
      rw [located] at made
      cases made
  | ok place =>
      rw [located] at made
      simp only [bind, Except.bind] at made
      split at made
      next => cases made
      next absent =>
        split at made
        next =>
          cases made
          exact ⟨place, rfl, absent, rfl⟩
        next => cases made
        next => cases made
        next => cases made

theorem evolves_makeDirectory (made : files.makeDirectory path = .ok after) :
    Evolves touched files after := by
  obtain ⟨place, _, absent, rfl⟩ := makeDirectory_eq_ok made
  exact .set (by simp [absent]) (.inr ⟨absent, rfl⟩)

theorem isDirectory_iff :
    files.isDirectory path = true ↔
      ∃ node, files.find path = .ok node ∧ node.isDirectory = true := by
  unfold FileSystem.isDirectory
  split
  next found => simp [found]
  next found => simp [found]

/-- A directory that was made is there. -/
theorem isDirectory_of_makeDirectory (made : files.makeDirectory path = .ok after) :
    after.isDirectory path = true := by
  obtain ⟨place, located, absent, rfl⟩ := makeDirectory_eq_ok made
  have evolves : Evolves ∅ files (files.set place .directory) := evolves_makeDirectory made
  have found : (files.set place .directory).find path = .ok .directory :=
    find_eq_ok.2 ⟨place, evolves.locate_eq_ok located, by simp [node?_set]⟩
  exact isDirectory_iff.2 ⟨_, found, rfl⟩

/-- Making directories touches no file, and where it succeeds the directory is there. -/
theorem makeDirectoriesFrom_spec (fuel : Nat) (files : FileSystem) (path : FilePath) :
    Evolves ∅ files (files.makeDirectoriesFrom path fuel).1 ∧
      ((files.makeDirectoriesFrom path fuel).2 = .ok () →
        (files.makeDirectoriesFrom path fuel).1.isDirectory path = true) := by
  induction fuel generalizing path with
  | zero => exact ⟨.refl files, fun impossible => by cases impossible⟩
  | succ fuel ih =>
      unfold makeDirectoriesFrom
      split
      next made => exact ⟨evolves_makeDirectory made, fun _ => isDirectory_of_makeDirectory made⟩
      next =>
        split
        next => exact ⟨.refl files, fun impossible => by cases impossible⟩
        next =>
          have around := (ih path.parent).1
          split
          next fault equal =>
            rw [equal] at around
            exact ⟨around, fun impossible => by cases impossible⟩
          next between equal =>
            rw [equal] at around
            split
            next made =>
              exact ⟨around.trans (evolves_makeDirectory made),
                fun _ => isDirectory_of_makeDirectory made⟩
            next obstacle _ =>
              split
              next stands =>
                exact ⟨around, fun _ => (Bool.and_eq_true_iff.1 stands).2⟩
              next => exact ⟨around, fun impossible => by cases impossible⟩
      next =>
        split
        next stands => exact ⟨.refl files, fun _ => (Bool.and_eq_true_iff.1 stands).2⟩
        next => exact ⟨.refl files, fun impossible => by cases impossible⟩

theorem evolves_makeDirectories (files : FileSystem) (path : FilePath) :
    Evolves ∅ files (files.makeDirectories path).1 :=
  (makeDirectoriesFrom_spec _ files path).1

theorem isDirectory_of_makeDirectories (made : files.makeDirectories path = (after, .ok ())) :
    after.isDirectory path = true := by
  have found := (makeDirectoriesFrom_spec (path.names.length + 1) files path).2
  rw [← makeDirectories, made] at found
  exact found rfl

/-! ## Writing files -/

/-- A file is written where a path leads, and no directory stands there. -/
theorem write_eq_ok (written : files.write path content = .ok after) :
    ∃ place, files.locate path = .ok place ∧
      (∀ standing : FileNode, standing.isDirectory = true →
        files.node? place ≠ some standing) ∧
      after = files.set place (.file content) := by
  unfold write at written
  split at written
  next => cases written
  next place located =>
    split at written
    next => cases written
    next => cases written
    next stands =>
      cases written
      refine ⟨place, located, ?_, rfl⟩
      rintro standing isDirectory same
      cases stands.symm.trans same
      cases isDirectory
    next absent =>
      split at written
      next =>
        cases written
        exact ⟨place, located, by simp [absent], rfl⟩
      next => cases written
      next => cases written
      next => cases written

/-- The place that a path leads to. -/
def placesOf (files : FileSystem) (path : FilePath) : Set (List String) :=
  {place | files.locate path = .ok place}

theorem evolves_write (written : files.write path content = .ok after) :
    Evolves (after.placesOf path) files after ∧ after.read path = .ok content := by
  obtain ⟨place, located, free, rfl⟩ := write_eq_ok written
  have evolves : Evolves {place} files (files.set place (.file content)) := .set free (.inl rfl)
  have still := evolves.locate_eq_ok located
  refine ⟨evolves.weaken (Set.singleton_subset_iff.2 still), ?_⟩
  exact read_eq_ok.2 ⟨place, still, by simp [node?_set]⟩

/-- Saving a file touches no other one, and where it succeeds the file is read as it was written. -/
theorem save_spec (files : FileSystem) (path : FilePath) (content : Bytes) :
    Evolves ((files.save path content).1.placesOf path) files (files.save path content).1 ∧
      ((files.save path content).2 = .ok () →
        (files.save path content).1.read path = .ok content) := by
  have around := evolves_makeDirectories files path.parent
  unfold save
  split
  next fault equal =>
    rw [equal] at around
    exact ⟨around.weaken (Set.empty_subset _), fun impossible => by cases impossible⟩
  next between equal =>
    rw [equal] at around
    split
    next written =>
      obtain ⟨evolves, known⟩ := evolves_write written
      exact ⟨(around.weaken (Set.empty_subset _)).trans evolves, fun _ => known⟩
    next => exact ⟨around.weaken (Set.empty_subset _), fun impossible => by cases impossible⟩

theorem writeText_fst (files : FileSystem) (path text : String) :
    (files.writeText path text).1 =
      (files.save (FilePath.ofString path) (Utf8.encodeString text)).1 := by
  unfold writeText
  dsimp only
  split
  next equal => rw [equal]
  next equal =>
    rw [equal]
    split <;> rfl

theorem save_of_writeText {path text : String}
    (written : (files.writeText path text).2 = .ok ()) :
    (files.save (FilePath.ofString path) (Utf8.encodeString text)).2 = .ok () := by
  unfold writeText at written
  dsimp only at written
  split at written
  next equal => rw [equal]
  next => split at written <;> cases written

/-- Writing a text touches no other file, and where it succeeds the file holds the text. -/
theorem writeText_spec (files : FileSystem) (path text : String) :
    Evolves ((files.writeText path text).1.placesOf (FilePath.ofString path)) files
        (files.writeText path text).1 ∧
      ((files.writeText path text).2 = .ok () →
        (files.writeText path text).1.read (FilePath.ofString path) =
          .ok (Utf8.encodeString text)) := by
  rw [writeText_fst]
  have saved := save_spec files (FilePath.ofString path) (Utf8.encodeString text)
  exact ⟨saved.1, fun written => saved.2 (save_of_writeText written)⟩

end RouteTypes.FileSystem
