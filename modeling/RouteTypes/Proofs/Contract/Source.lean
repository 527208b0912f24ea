import RouteTypes.Failure
import RouteTypes.Proofs.FilePath
import RouteTypes.Proofs.FileSystem

/-!
# Documents in files

Loading a document from a file asks what the path leads to before it reads (`ofFile_eq`). Where all
files can be read, it fails with one of the documented categories, except for paths that are too
long to be followed (`category_of_ofFile`).
-/

namespace RouteTypes.Contract

variable {files : FileSystem} {path : String} {content : Bytes}

/-- Bytes that are a text, which is a document or is none for a reason that the user is told. -/
def Readable (content : Bytes) : Prop :=
  ∃ text, Text.ofFile content = .ok text ∧
    ∀ hint fault, read hint text = .error fault → fault.category = .contract

/-- Reads the document that the bytes of a file hold. -/
def ofContent (path : String) (content : Bytes) : Except SourceFault Value := do
  let text ← (Text.ofFile content).mapError .undecodable
  if Text.isAllBlank text.toList then throw (.empty path)
  Draft.read ⟨text, Location.formatOfSuffix (FilePath.ofString path).suffix⟩

/-- A document is loaded from what its path leads to. -/
theorem ofFile_eq (files : FileSystem) (path : String) : ofFile files path =
    match files.find (.ofString path) with
    | .ok (.file content) => ofContent path content
    | .error .nameTooLong => .error (.file ⟨.nameTooLong, (FilePath.ofString path).toString⟩)
    | .error .forbidden => .error (.file ⟨.forbidden, (FilePath.ofString path).toString⟩)
    | _ => .error (.missing path) := by
  unfold ofFile fileText FileSystem.isFile FileSystem.read ofContent
  dsimp only
  cases files.find (.ofString path) with
  | error obstacle => cases obstacle <;> rfl
  | ok node =>
      cases node with
      | directory => rfl
      | locked => rfl
      | file content =>
          simp only [bind, Except.bind, Except.mapError, Bool.not_true, Bool.false_eq_true,
            if_false]
          cases Text.ofFile content with
          | error fault => rfl
          | ok text =>
              dsimp only
              cases Text.isAllBlank text.toList <;> rfl

/-- A document is loaded from a file only. -/
theorem file_of_ofFile {document : Value} (loaded : ofFile files path = .ok document) :
    ∃ content, files.find (.ofString path) = .ok (.file content) := by
  rw [ofFile_eq] at loaded
  split at loaded
  next content found => exact ⟨content, found⟩
  all_goals cases loaded

theorem category_of_ofContent {fault : SourceFault} (readable : Readable content)
    (failed : ofContent path content = .error fault) :
    fault.category = .contract ∨ fault.category = .load := by
  obtain ⟨text, decoded, reasons⟩ := readable
  rw [ofContent, decoded] at failed
  cases blank : Text.isAllBlank text.toList with
  | true =>
      simp only [Except.mapError, bind, Except.bind, blank, if_true] at failed
      cases failed
      exact .inr rfl
  | false =>
      simp only [Except.mapError, bind, Except.bind, blank, Bool.false_eq_true, if_false] at failed
      rw [Draft.read] at failed
      cases result : read (Location.formatOfSuffix (FilePath.ofString path).suffix) text with
      | ok document => simp [result, Except.mapError] at failed
      | error reason =>
          obtain rfl : SourceFault.content reason = fault := by
            simpa [result, Except.mapError] using failed
          exact .inl (reasons _ _ result)

/-- Where all files can be read and no directory is locked, a document that cannot be loaded is
none, is missing, or has a path that is too long. -/
theorem category_of_ofFile {fault : SourceFault}
    (unlocked : ∀ place, files.node? place ≠ some .locked)
    (readable : ∀ place content, files.node? place = some (.file content) → Readable content)
    (failed : ofFile files path = .error fault) :
    fault.category = .contract ∨ fault.category = .load ∨
      ∃ long, fault = .file ⟨.nameTooLong, long⟩ ∧
        files.find (.ofString long) = .error .nameTooLong := by
  rw [ofFile_eq] at failed
  split at failed
  next content found =>
    obtain ⟨place, _, node⟩ := FileSystem.find_eq_ok.1 found
    rcases category_of_ofContent (readable place content node) failed with contract | load
    · exact .inl contract
    · exact .inr (.inl load)
  next long =>
    cases failed
    refine .inr (.inr ⟨_, rfl, ?_⟩)
    rwa [(FilePath.proper_ofString path).ofString_toString]
  next forbidden => exact absurd forbidden (FileSystem.find_ne_forbidden unlocked)
  next =>
    cases failed
    exact .inr (.inl rfl)

end RouteTypes.Contract
