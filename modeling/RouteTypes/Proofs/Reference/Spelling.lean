import RouteTypes.Proofs.Reference.Files

/-!
# The spelling of locations

A resolution remembers a file by the text of its location. Relative locations are only joined to
each other, so a file has one location as long as no double dots are met, and one for every way
around as soon as they are. A branch that comes back to a file under the same location is stopped
there, and without double dots it can come back in no other way (`InFiles.location_eq`). So
branches come to the same file and pointer again exactly where they return upwards
(`InFiles.oncePerFile_iff`), as a file does that refers to itself around its directory
(`not_oncePerFile_around`).
-/

namespace RouteTypes.Reference

open Value

variable {host : Host} {document : Value} {base : String} {scope : Scope}

namespace Visit

/-- The file that is visited stands at a place. -/
def LeadsTo (files : FileSystem) (visit : Visit) (place : List String) : Prop :=
  ∃ location path, visit.target.location = some location ∧ Location.basePath location = .ok path ∧
    files.locate (.ofString path) = .ok place

/-- Both visits come to the same pointer of the same file. -/
def Same (files : FileSystem) (later earlier : Visit) : Prop :=
  later.pointer = earlier.pointer ∧
    ∃ place, later.LeadsTo files place ∧ earlier.LeadsTo files place

/-- The reference leads upwards somewhere on its way. -/
def Climbs (visit : Visit) : Prop :=
  ".." ∈ (FilePath.ofString (split visit.reference).1).names

end Visit

/-- No branch comes to a pointer of a file twice. -/
def OncePerFile (host : Host) (root : Scope) : Prop :=
  ∀ visits scope value, Branch (loads host) root visits scope value →
    visits.Pairwise fun later earlier => ¬later.Same host.files earlier

/-- A branch comes back to a pointer of a file and has followed a double dot in between. -/
def ReturnsUpwards (host : Host) (root : Scope) : Prop :=
  ∃ later ahead earlier before scope value,
    Branch (loads host) root (later :: ahead ++ earlier :: before) scope value ∧
      later.Same host.files earlier ∧ ∃ visit ∈ later :: ahead, visit.Climbs

/-- A location that is the text of the path that it is read as. -/
structure Canonical (location : String) : Prop where
  spelled : (FilePath.ofString location).toString = location
  notFileUrl : Location.isFileUrl location = false

/-- A document in a file, whose location is read as the path to this file. -/
structure At (host : Host) (scope : Scope) (path : FilePath) : Prop where
  proper : path.Proper
  location : scope.location = some path.toString
  notFileUrl : Location.isFileUrl path.toString = false
  file : ∃ content, host.files.find path = .ok (.file content)

theorem InFiles.known_at (inFiles : InFiles host document base) (canonical : Canonical base)
    (known : Known (loads host) ⟨document, some base⟩ scope) : ∃ path, At host scope path := by
  rcases inFiles.filed known with rfl | ⟨path, filed⟩
  · obtain ⟨path, content, named, found⟩ := inFiles.named
    rw [Location.basePath_of_notFileUrl canonical.notFileUrl] at named
    cases named
    refine ⟨.ofString base, FilePath.proper_ofString base, ?_, ?_, content, found⟩
    · rw [canonical.spelled]
    · rw [canonical.spelled]
      exact canonical.notFileUrl
  · refine ⟨path, filed.proper, filed.location, ?_, filed.file⟩
    by_cases same : path.toString = base
    · exact same ▸ canonical.notFileUrl
    · exact inFiles.plain scope _ known filed.location same

/-- A reference leads from a file to the file itself, or down from its directory. -/
theorem At.follow {target : Scope} {path next : FilePath} {location : String}
    (here : At host scope path) (there : At host target next)
    (relative : Location.Relative location)
    (entered : enter (direct (loads host)) scope location = Except.ok target) :
    target = scope ∨
      next = ⟨path.root, path.names.dropLast ++ (FilePath.ofString location).names⟩ := by
  rcases enter_eq_ok.1 entered with ⟨_, rfl⟩ | ⟨_, joined, found, success, _, rfl⟩
  · exact .inl rfl
  · refine .inr ?_
    rw [here.location, Location.join_eq_ok relative (Location.isWeb_toString here.proper)]
      at success
    obtain ⟨text, read, rfl⟩ := success
    rw [Location.basePath_of_notFileUrl here.notFileUrl] at read
    cases read
    have proper := here.proper.parent.join (FilePath.proper_ofString location)
    have same := Option.some.inj there.location
    rw [here.proper.ofString_toString] at same
    rw [← FilePath.join_parent relative.notAbsolute]
    exact (proper.eq_of_toString there.proper same).symm

/-- As long as no double dots are followed, a branch stays below the directory of a file that it
has come to. -/
theorem InFiles.descend (inFiles : InFiles host document base) (canonical : Canonical base)
    {ahead before : List Visit} {earlier : Visit} {value : Value} {root last : String}
    {front : List String}
    (branch : Branch (loads host) ⟨document, some base⟩ (ahead ++ earlier :: before) scope value)
    (down : ∀ visit ∈ ahead, ¬visit.Climbs)
    (there : At host earlier.target ⟨root, front ++ [last]⟩) (lastDown : last ≠ "..") :
    ∃ names, At host scope ⟨root, front ++ names⟩ ∧ ".." ∉ names := by
  induction ahead generalizing scope value with
  | nil =>
      rw [List.nil_append] at branch
      cases branch
      exact ⟨[last], there, by simpa using Ne.symm lastDown⟩
  | cons visit rest ih =>
      rw [List.cons_append] at branch
      cases branch with
      | @follow _ here _ _ _ reference inner refers entered _ selected =>
      obtain ⟨names, atHere, below⟩ := ih inner fun other member =>
        down other (List.mem_cons_of_mem _ member)
      have stands := inner.stands
      have inside := Refers.ofPart stands.part refers
      obtain ⟨next, atNext⟩ := inFiles.known_at canonical (.follow stands.known inside entered)
      rcases atHere.follow atNext (inFiles.relative _ _ stands.known inside) entered with
        rfl | rfl
      · exact ⟨names, atHere, below⟩
      · obtain ⟨_, found⟩ := there.file
        obtain ⟨_, alsoFound⟩ := atHere.file
        have present := FileSystem.ne_nil_of_file found alsoFound
        have climbs := down _ List.mem_cons_self
        refine ⟨names.dropLast ++ (FilePath.ofString (split reference).1).names, ?_, ?_⟩
        · rw [← List.append_assoc, ← List.dropLast_append_of_ne_nil present]
          exact atNext
        · rw [List.mem_append, not_or]
          exact ⟨fun member => below (List.dropLast_subset _ member), climbs⟩

theorem At.leadsTo {visit : Visit} {path : FilePath} {place : List String}
    (here : At host visit.target path) (leads : visit.LeadsTo host.files place) :
    host.files.locate path = .ok place := by
  obtain ⟨location, text, located, read, found⟩ := leads
  cases here.location.symm.trans located
  rw [Location.basePath_of_notFileUrl here.notFileUrl] at read
  cases read
  rwa [here.proper.ofString_toString] at found

/-- A branch that comes back to a file without a double dot comes back to the same location. -/
theorem InFiles.location_eq (inFiles : InFiles host document base) (canonical : Canonical base)
    {ahead before : List Visit} {later earlier : Visit} {value : Value}
    (branch : Branch (loads host) ⟨document, some base⟩ (later :: ahead ++ earlier :: before)
      scope value)
    (same : later.Same host.files earlier) (down : ∀ visit ∈ later :: ahead, ¬visit.Climbs) :
    later.target.location = earlier.target.location := by
  obtain ⟨_, place, laterLeads, earlierLeads⟩ := same
  obtain ⟨⟨root, parts⟩, there⟩ := inFiles.known_at canonical
    (branch.visit_known earlier (by simp))
  obtain ⟨_, found⟩ := there.file
  obtain ⟨front, last, names, lastDown⟩ := inFiles.tree.last_of_file found
  subst names
  obtain ⟨names, here, below⟩ := inFiles.descend canonical branch down there lastDown
  cases branch
  have equal := FileSystem.eq_of_locate (here.leadsTo laterLeads) (there.leadsTo earlierLeads)
    below (by simpa using Ne.symm lastDown)
  rw [here.location, there.location, equal]

/-- Two visits of a branch are different marks, so they do not come to the same pointer at the same
location. -/
theorem Branch.location_ne {root : Scope} {value : Value} {visits : List Visit}
    (branch : Branch (loads host) root visits scope value) :
    visits.Pairwise fun later earlier => later.Same host.files earlier →
      later.target.location ≠ earlier.target.location := by
  apply (List.pairwise_map.1 branch.distinct).imp
  intro later earlier different same located
  exact different (by rw [Visit.key, Visit.key, located, same.1])

/-- Branches come to the files once where they spell the location of each file in one way. -/
theorem oncePerFile_iff_spelled {root : Scope} : OncePerFile host root ↔
    ∀ visits scope value, Branch (loads host) root visits scope value →
      visits.Pairwise fun later earlier => later.Same host.files earlier →
        later.target.location = earlier.target.location := by
  constructor
  · intro once visits scope value branch
    exact (once visits scope value branch).imp fun different same => absurd same different
  · intro spelled visits scope value branch
    exact (branch.location_ne.and (spelled visits scope value branch)).imp
      fun ⟨different, equal⟩ same => different same (equal same)

/-- Where the location of a document is spelled like the locations that are joined to it, branches
come to the files once unless they return upwards. -/
theorem InFiles.oncePerFile_iff (inFiles : InFiles host document base)
    (canonical : Canonical base) :
    OncePerFile host ⟨document, some base⟩ ↔ ¬ReturnsUpwards host ⟨document, some base⟩ := by
  constructor
  · intro once returns
    rcases returns with ⟨later, ahead, earlier, before, scope, value, branch, same, _⟩
    have different := once _ _ _ branch
    rw [List.cons_append, List.pairwise_cons] at different
    exact different.1 earlier (by simp) same
  · intro straight visits scope value branch
    induction branch with
    | start => exact .nil
    | follow inner refers entered fresh selected ih =>
        refine .cons ?_ ih
        intro earlier member same
        obtain ⟨ahead, before, rfl⟩ := List.append_of_mem member
        have branch := inner.follow refers entered fresh selected
        have down : ∀ visit ∈ _ :: ahead, ¬visit.Climbs := fun visit inside climbs =>
          straight ⟨_, ahead, earlier, before, _, _, branch, same, visit, inside, climbs⟩
        have different := branch.location_ne
        rw [List.pairwise_cons] at different
        exact different.1 earlier member same (inFiles.location_eq canonical branch same down)

/-- The resolution of a document in a file ends: given enough depth it always gives the same, which
is a document, one of the documented failures, or the refusal of a path that is too long. No branch
comes to a pointer of a file twice if and only if all branches spell the location of a file in one
way, which they do if and only if none returns upwards, provided that the location that the
resolution starts with is spelled like those that are joined to it. -/
theorem dereference_between_files (inFiles : InFiles host document base) :
    (∃ outcome bound,
      (∀ depth, bound ≤ depth →
        (dereference (loads host) depth document (some base)).result = outcome) ∧
      ∀ fault, outcome = .error fault →
        fault.category = .contract ∨ fault.category = .load ∨
          ∃ long, fault = .load (.file ⟨.nameTooLong, long⟩) ∧
            host.files.find (.ofString long) = .error .nameTooLong) ∧
    (OncePerFile host ⟨document, some base⟩ ↔
      ∀ visits scope value, Branch (loads host) ⟨document, some base⟩ visits scope value →
        visits.Pairwise fun later earlier => later.Same host.files earlier →
          later.target.location = earlier.target.location) ∧
    (Canonical base →
      (OncePerFile host ⟨document, some base⟩ ↔ ¬ReturnsUpwards host ⟨document, some base⟩)) := by
  refine ⟨?_, oncePerFile_iff_spelled, inFiles.oncePerFile_iff⟩
  obtain ⟨outcome, bound, finished, causes, stable⟩ :=
    dereference_ends (finite_marks inFiles.finite_known)
  refine ⟨outcome, bound, stable, fun fault failed => ?_⟩
  exact inFiles.category_of_cause (causes fault failed) fun stopped => finished (stopped ▸ failed)

/-! ## A way around a directory -/

/-- The text of a document that refers to its own file around the directory of the file. -/
def aroundText : String := "\x7b\"$ref\": \"../d/a.json\"\x7d"

/-- The document that the text holds. -/
def aroundDocument : Value :=
  .mapping [(.text "$ref", .scalar (.text "../d/a.json"))]

/-- A host with this document in a file. -/
def aroundHost : Host :=
  { Host.bare with files := ⟨[], [(["d"], .directory),
      (["d", "a.json"], .file (Utf8.encodeString aroundText))]⟩ }

/-- A document was read, and it is the one of the text. -/
def isAround : Except Contract.ReadFault Value → Bool
  | .ok (.mapping [(.text key, .scalar (.text reference))]) =>
    key == "$ref" && reference == "../d/a.json"
  | _ => false

theorem isAround_iff {result : Except Contract.ReadFault Value} :
    isAround result = true ↔ result = .ok aroundDocument := by
  unfold isAround
  split
  next => simp [aroundDocument]
  next other =>
    simp only [Bool.false_eq_true, false_iff]
    intro equal
    subst equal
    exact other _ _ rfl

theorem read_aroundText (hint : Location.Format) :
    Contract.read hint aroundText = .ok aroundDocument := by
  rw [← isAround_iff]
  cases hint <;> decide +kernel

theorem ofFile_aroundText : Text.ofFile (Utf8.encodeString aroundText) = .ok aroundText := by
  decide +kernel

theorem node_aroundHost {place : List String} {node : FileNode}
    (found : aroundHost.files.node? place = some node) :
    place = ["d", "a.json"] ∧ node = .file (Utf8.encodeString aroundText) ∨
      node = .directory ∧ (place = ["d"] ∨ place = []) := by
  unfold FileSystem.node? aroundHost at found
  by_cases directory : place = ["d"]
  · cases directory
    cases found
    exact .inr ⟨rfl, .inl rfl⟩
  by_cases file : place = ["d", "a.json"]
  · cases file
    cases found
    exact .inl ⟨rfl, rfl⟩
  · simp only [List.lookup_cons, beq_false_of_ne directory, beq_false_of_ne file,
      List.lookup_nil] at found
    cases place with
    | nil =>
        cases found
        exact .inr ⟨rfl, .inr rfl⟩
    | cons name rest => cases found

theorem isTree_aroundHost : aroundHost.files.IsTree where
  root := by decide
  working := by decide
  unlocked place found := by rcases node_aroundHost found with ⟨_, ⟨⟩⟩ | ⟨⟨⟩, _⟩
  inside place name node found := by
    rcases node_aroundHost found with ⟨equal, _⟩ | ⟨_, equal | equal⟩
    · obtain ⟨rfl, _⟩ : place = ["d"] ∧ name = "a.json" := by
        simpa using List.append_inj' (equal.trans (rfl : _ = ["d"] ++ ["a.json"])) rfl
      decide
    · obtain rfl : place = [] := by simpa using congrArg List.dropLast equal
      exact rfl
    · simp at equal

theorem refers_aroundDocument {reference : String} (refers : Refers aroundDocument reference) :
    reference = "../d/a.json" := by
  have found := refers.deep
  unfold aroundDocument at found
  simpa [reference?, Entries.get?, referenceKey, Scalar.same, eq_comm] using found

theorem canonical_around : Canonical "/d/a.json" := ⟨by decide, by decide⟩

/-- Whatever file of the host is loaded, it gives the document. -/
theorem ofFile_aroundHost {path : String} {content : Bytes}
    (found : aroundHost.files.find (.ofString path) = .ok (.file content)) :
    Contract.ofFile aroundHost.files path = .ok aroundDocument := by
  rw [Contract.ofFile_eq, found]
  obtain ⟨place, _, node⟩ := FileSystem.find_eq_ok.1 found
  rcases node_aroundHost node with ⟨_, equal⟩ | ⟨impossible, _⟩
  · cases equal
    dsimp only
    have some : Text.isAllBlank aroundText.toList = false := by decide +kernel
    rw [Contract.ofContent, ofFile_aroundText]
    simp only [Except.mapError, bind, Except.bind, some, Bool.false_eq_true, if_false]
    rw [Contract.Draft.read, read_aroundText]
    rfl
  · cases impossible

theorem readable_aroundHost (place : List String) (content : Bytes)
    (found : aroundHost.files.node? place = some (.file content)) : Contract.Readable content := by
  rcases node_aroundHost found with ⟨_, equal⟩ | ⟨impossible, _⟩
  · cases equal
    refine ⟨aroundText, ofFile_aroundText, fun hint fault failed => ?_⟩
    cases (read_aroundText hint).symm.trans failed
  · cases impossible

theorem relative_aroundDocument (reference : String) (refers : Refers aroundDocument reference) :
    Location.Relative (split reference).1 := by
  cases refers_aroundDocument refers
  exact ⟨by decide, by decide, by decide⟩

theorem inFiles_around : InFiles aroundHost aroundDocument "/d/a.json" := by
  have found : aroundHost.files.find (.ofString "/d/a.json") =
      .ok (.file (Utf8.encodeString aroundText)) := by decide +kernel
  rw [← canonical_around.spelled]
  refine .ofTree (FilePath.proper_ofString _) (by decide) relative_aroundDocument ?_
    isTree_aroundHost readable_aroundHost found
  intro text other loaded
  obtain ⟨content, alsoFound⟩ := Contract.file_of_ofFile loaded
  cases (ofFile_aroundHost alsoFound).symm.trans loaded
  exact relative_aroundDocument

/-- The document at a location. -/
def aroundScope (location : String) : Scope := ⟨aroundDocument, some location⟩

theorem enter_aroundScope (here there : String)
    (joined : Location.join (some here) "../d/a.json" = .ok there)
    (notWeb : Location.isWeb there = false)
    (found : aroundHost.files.find (.ofString there) =
      .ok (.file (Utf8.encodeString aroundText))) :
    enter (direct (loads aroundHost)) (aroundScope here) (split "../d/a.json").1 =
      Except.ok (aroundScope there) := by
  refine enter_eq_ok.2 (.inr ⟨by decide, there, aroundDocument, joined, ?_, rfl⟩)
  rw [loads, Contract.loadReferenced, notWeb]
  exact ofFile_aroundHost found

/-- A reference that leads around its directory comes to the same file under a longer location. -/
theorem not_oncePerFile_around : ¬OncePerFile aroundHost (aroundScope "/d/a.json") := by
  intro once
  have refers : Refers aroundDocument "../d/a.json" := .here (by decide)
  have entered := enter_aroundScope "/d/a.json" "/d/../d/a.json" (by decide +kernel) (by decide)
    (by decide +kernel)
  have again := enter_aroundScope "/d/../d/a.json" "/d/../d/../d/a.json" (by decide +kernel)
    (by decide) (by decide +kernel)
  have branch := (Branch.start.follow refers entered (by simp) rfl).follow refers again
    (by decide +kernel) rfl
  have different := once _ _ _ branch
  rw [List.pairwise_pair] at different
  refine different ⟨rfl, ["d", "a.json"], ?_, ?_⟩
  · exact ⟨_, _, rfl, Location.basePath_of_notFileUrl (by decide), by decide +kernel⟩
  · exact ⟨_, _, rfl, Location.basePath_of_notFileUrl (by decide), by decide +kernel⟩

/-- References between files are not kept from coming to the same file twice. -/
theorem files_visited_again : InFiles aroundHost aroundDocument "/d/a.json" ∧
    ¬OncePerFile aroundHost ⟨aroundDocument, some "/d/a.json"⟩ :=
  ⟨inFiles_around, not_oncePerFile_around⟩

theorem dereference_between_files_around : InFiles aroundHost aroundDocument "/d/a.json" ∧
    Canonical "/d/a.json" ∧
      (∃ outcome bound, ∀ depth, bound ≤ depth →
        (dereference (loads aroundHost) depth aroundDocument (some "/d/a.json")).result =
          outcome) ∧
      ReturnsUpwards aroundHost ⟨aroundDocument, some "/d/a.json"⟩ := by
  obtain ⟨⟨outcome, bound, stable, _⟩, _, upwards⟩ := dereference_between_files inFiles_around
  refine ⟨inFiles_around, canonical_around, ⟨outcome, bound, stable⟩, ?_⟩
  by_contra straight
  exact not_oncePerFile_around ((upwards canonical_around).2 straight)

end RouteTypes.Reference
