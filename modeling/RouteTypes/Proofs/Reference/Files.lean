import RouteTypes.Proofs.Contract.Source
import RouteTypes.Proofs.Location
import RouteTypes.Proofs.Reference.Ending
import RouteTypes.Proofs.Run

/-!
# Resolutions of files

A resolution that starts with a file and meets relative references only stays in files, whose
locations are the texts of paths (`InFiles.filed`). It ends, because the file system takes no paths
beyond a certain length and so only finitely many documents are known (`InFiles.finite_known`). What
it fails with is one of the documented failures, or such a refusal (`InFiles.category_of_cause`).
-/

namespace RouteTypes.Reference

open Value

variable {host : Host} {document : Value} {base : String} {scope : Scope}

/-- A document in a file of a tree of contract documents, where all references stay in their
document or are relative. -/
structure InFiles (host : Host) (document : Value) (base : String) : Prop where
  tree : host.files.IsTree
  readable : ∀ place content, host.files.node? place = some (.file content) →
    Contract.Readable content
  notWeb : Location.isWeb base = false
  named : ∃ path content, Location.basePath base = .ok path ∧
    host.files.find (.ofString path) = .ok (.file content)
  relative : ∀ scope reference, Known (loads host) ⟨document, some base⟩ scope →
    Refers scope.root reference → Location.Relative (split reference).1
  plain : ∀ scope location, Known (loads host) ⟨document, some base⟩ scope →
    scope.location = some location → location ≠ base → Location.isFileUrl location = false

/-- A document that was loaded from a file: its location is the text of a path to it. -/
structure Filed (host : Host) (scope : Scope) (path : FilePath) : Prop where
  proper : path.Proper
  location : scope.location = some path.toString
  loaded : Contract.ofFile host.files path.toString = .ok scope.root

theorem loads_toString {path : FilePath} (proper : path.Proper) :
    loads host path.toString = Contract.ofFile host.files path.toString := by
  rw [loads, Contract.loadReferenced, Location.isWeb_toString proper]
  rfl

theorem Filed.file {path : FilePath} (filed : Filed host scope path) :
    ∃ content, host.files.find path = .ok (.file content) := by
  rw [← filed.proper.ofString_toString]
  exact Contract.file_of_ofFile filed.loaded

theorem Filed.short {path : FilePath} (filed : Filed host scope path) :
    path.toString.utf8ByteSize ≤ 4095 := by
  obtain ⟨_, found⟩ := filed.file
  obtain ⟨_, located, _⟩ := FileSystem.find_eq_ok.1 found
  exact (FileSystem.locate_eq_ok.1 located).2.1

/-- A document is the one that the resolution started with, or was loaded from a file. -/
def StartsOrFiled (host : Host) (document : Value) (base : String) (scope : Scope) : Prop :=
  scope = ⟨document, some base⟩ ∨ ∃ path, Filed host scope path

/-- The location of every reference is joined to the text of a path. -/
theorem InFiles.join_eq_ok (inFiles : InFiles host document base) {reference : String}
    (known : Known (loads host) ⟨document, some base⟩ scope)
    (filed : StartsOrFiled host document base scope) (refers : Refers scope.root reference) :
    ∃ path : FilePath, path.Proper ∧
      Location.join scope.location (split reference).1 = .ok path.toString := by
  have relative := inFiles.relative scope reference known refers
  obtain ⟨location, text, equal, notWeb, read⟩ : ∃ location text,
      scope.location = some location ∧ Location.isWeb location = false ∧
        Location.basePath location = .ok text := by
    obtain ⟨text, _, read, _⟩ := inFiles.named
    rcases filed with rfl | ⟨path, filed⟩
    · exact ⟨base, text, rfl, inFiles.notWeb, read⟩
    · refine ⟨path.toString, ?_⟩
      by_cases same : path.toString = base
      · exact ⟨text, filed.location, same ▸ inFiles.notWeb, same ▸ read⟩
      · have notFileUrl := inFiles.plain scope _ known filed.location same
        exact ⟨path.toString, filed.location, Location.isWeb_toString filed.proper,
          Location.basePath_of_notFileUrl notFileUrl⟩
  rw [equal]
  exact ⟨_, (FilePath.proper_ofString text).parent.join (FilePath.proper_ofString _),
    (Location.join_eq_ok relative notWeb).2 ⟨text, read, rfl⟩⟩

theorem InFiles.filed (inFiles : InFiles host document base)
    (known : Known (loads host) ⟨document, some base⟩ scope) :
    StartsOrFiled host document base scope := by
  induction known with
  | start => exact .inl rfl
  | follow known refers entered ih =>
      rcases enter_eq_ok.1 entered with ⟨_, rfl⟩ | ⟨_, joined, found, success, loaded, rfl⟩
      · exact ih
      · obtain ⟨path, proper, equal⟩ := inFiles.join_eq_ok known ih refers
        cases success.symm.trans equal
        rw [loads_toString proper] at loaded
        exact .inr ⟨path, proper, rfl, loaded⟩

/-- Only finitely many documents are known. -/
theorem InFiles.finite_known (inFiles : InFiles host document base) :
    {scope | Known (loads host) ⟨document, some base⟩ scope}.Finite := by
  let documents (text : String) : Set Scope :=
    {scope | scope.location = some text ∧ Contract.ofFile host.files text = .ok scope.root}
  have single (text : String) : (documents text).Finite := by
    apply Set.Subsingleton.finite
    rintro ⟨root, _⟩ ⟨rfl, loaded⟩ ⟨other, _⟩ ⟨rfl, alsoLoaded⟩
    cases loaded.symm.trans alsoLoaded
    rfl
  refine Set.Finite.subset ((Set.finite_singleton ⟨document, some base⟩).union
    ((FileSystem.finite_bounded 4095).biUnion fun text _ => single text)) ?_
  intro scope known
  rcases inFiles.filed known with rfl | ⟨path, filed⟩
  · exact .inl rfl
  · exact .inr (Set.mem_biUnion filed.short ⟨filed.location, filed.loaded⟩)

/-- What a resolution of files fails with. -/
theorem InFiles.category_of_cause (inFiles : InFiles host document base)
    {fault : Fault Contract.SourceFault}
    (cause : Cause (loads host) ⟨document, some base⟩ fault) (finished : fault ≠ .tooDeep) :
    fault.category = .contract ∨ fault.category = .load ∨
      ∃ long, fault = .load (.file ⟨.nameTooLong, long⟩) ∧
        host.files.find (.ofString long) = .error .nameTooLong := by
  cases cause with
  | stopped => exact absurd rfl finished
  | pointer => exact .inl rfl
  | address known refers joined =>
      obtain ⟨_, _, success⟩ := inFiles.join_eq_ok known (inFiles.filed known) refers
      cases joined.symm.trans success
  | load known refers joined failed =>
      obtain ⟨path, proper, success⟩ := inFiles.join_eq_ok known (inFiles.filed known) refers
      cases joined.symm.trans success
      rw [loads_toString proper] at failed
      rcases Contract.category_of_ofFile inFiles.tree.unlocked inFiles.readable failed with
        contract | load | ⟨long, rfl, refused⟩
      · exact .inl contract
      · exact .inr (.inl load)
      · exact .inr (.inr ⟨long, rfl, refused⟩)

/-! ## Trees of relative references -/

theorem isFileUrl_of_absolute {path : FilePath} (absolute : path.root = "/") :
    Location.isFileUrl path.toString = false := by
  obtain ⟨root, names⟩ := path
  cases absolute
  simp [Location.isFileUrl, Text.startsWithAnyCase, FilePath.toString, List.isPrefixOf]

section Rooted

variable {path : FilePath} (proper : path.Proper) (absolute : path.root = "/")
variable (relative : ∀ reference, Refers document reference →
  Location.Relative (split reference).1)
variable (allRelative : ∀ text other, Contract.ofFile host.files text = .ok other →
  ∀ reference, Refers other reference → Location.Relative (split reference).1)

include proper absolute relative allRelative

/-- From a file that is named from the root, relative references lead to files that are named from
the root. -/
theorem rooted_of_known (known : Known (loads host) ⟨document, some path.toString⟩ scope) :
    (∀ reference, Refers scope.root reference → Location.Relative (split reference).1) ∧
      ∃ here : FilePath, here.Proper ∧ here.root = "/" ∧
        scope.location = some here.toString := by
  induction known with
  | start => exact ⟨relative, path, proper, absolute, rfl⟩
  | @follow scope target reference known refers entered ih =>
      obtain ⟨isRelative, here, hereProper, hereAbsolute, located⟩ := ih
      rcases enter_eq_ok.1 entered with ⟨_, rfl⟩ | ⟨_, joined, other, success, loaded, rfl⟩
      · exact ⟨isRelative, here, hereProper, hereAbsolute, located⟩
      · have leads := isRelative reference refers
        rw [located, Location.join_eq_ok leads (Location.isWeb_toString hereProper),
          Location.basePath_of_notFileUrl (isFileUrl_of_absolute hereAbsolute)] at success
        obtain ⟨_, ⟨⟩, rfl⟩ := success
        rw [hereProper.ofString_toString] at loaded ⊢
        have joinedProper := hereProper.parent.join (FilePath.proper_ofString (split reference).1)
        rw [loads_toString joinedProper] at loaded
        refine ⟨allRelative _ other loaded, _, joinedProper, ?_, rfl⟩
        rw [FilePath.join_parent leads.notAbsolute]
        exact hereAbsolute

/-- In a tree where all files hold relative references only, a document in a file that is named from
the root stays in files. -/
theorem InFiles.ofTree {content : Bytes} (tree : host.files.IsTree)
    (readable : ∀ place content, host.files.node? place = some (.file content) →
      Contract.Readable content)
    (found : host.files.find path = .ok (.file content)) :
    InFiles host document path.toString where
  tree := tree
  readable := readable
  notWeb := Location.isWeb_toString proper
  named := by
    refine ⟨path.toString, content, ?_, ?_⟩
    · exact Location.basePath_of_notFileUrl (isFileUrl_of_absolute absolute)
    · rwa [proper.ofString_toString]
  relative scope reference known refers :=
    (rooted_of_known proper absolute relative allRelative known).1 reference refers
  plain scope location known located _ := by
    obtain ⟨_, here, _, hereAbsolute, equal⟩ :=
      rooted_of_known proper absolute relative allRelative known
    cases located.symm.trans equal
    exact isFileUrl_of_absolute hereAbsolute

end Rooted

end RouteTypes.Reference
