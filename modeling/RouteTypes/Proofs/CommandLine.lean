import Mathlib
import RouteTypes.CommandLine
import RouteTypes.Proofs.FilePath
import RouteTypes.Proofs.FileSystem.Writing
import RouteTypes.Proofs.Generator

/-!
# Runs of the command line

Up to the compilation a run has no effect (`quiet_prepare`), so a run that fails there leaves the
output empty and the files as they were, but for the report on a crash. A run that ends well has
gone through all its stages (`prepare_eq_ok`) and has written what was compiled, and nothing else
(`run_deliver_eq_ok`). Both are said of whole runs in `run_all_or_nothing`.
-/

namespace RouteTypes

/-! ## Writing as a part of a run -/

theorem run_write_file (text path : String) (world : World) :
    (Run.write text (.file path)).run.run world =
      ((world.host.files.writeText path text).2.mapError .output,
        world.withFiles (world.host.files.writeText path text).1) := by
  rw [Run.write, run_bind_ok (run_get world)]
  dsimp only
  generalize world.host.files.writeText path text = written
  exact run_ofExcept_eq _ _

theorem run_write_output (text : String) (world : World) :
    (Run.write text .output).run.run world =
      ((world.output.write text).2.mapError .output,
        { world with output := (world.output.write text).1 }) := by
  rw [Run.write, run_bind_ok (run_get world)]
  dsimp only
  generalize world.output.write text = written
  exact run_ofExcept_eq _ _

@[simp] theorem Outlet.write_empty (text : String) :
    Outlet.empty.write text = (⟨text, none, none⟩, .ok ()) := by
  simp [write, empty]

/-- Where a text has been written to a file, the file holds it, and the others are as before. -/
theorem run_write_file_eq_ok {text path : String} {world after : World}
    (ran : (Run.write text (.file path)).run.run world = (.ok (), after)) :
    after.output = world.output ∧
      FileSystem.Evolves (after.host.files.placesOf (FilePath.ofString path)) world.host.files
        after.host.files ∧
      after.host.files.read (FilePath.ofString path) = .ok (Utf8.encodeString text) := by
  have spec := world.host.files.writeText_spec path text
  rw [run_write_file] at ran
  generalize world.host.files.writeText path text = written at ran spec
  rw [Prod.mk.injEq, mapError_eq_ok] at ran
  obtain ⟨succeeded, rfl⟩ := ran
  exact ⟨rfl, spec.1, spec.2 succeeded⟩

namespace CommandLine

open Reference

variable {host : Host} {settings : Settings} {arguments : Arguments} {world after : World}
variable {compiled : Compiled} {words : List String} {read : Words} {failure : Failure}
variable {moment : String} {kind : Programs → Prop}

/-! ## Up to the compilation -/

theorem quiet_settle (arguments : Arguments) : Run.Quiet kind (settle arguments) :=
  .bind .get fun _ => .ofExcept _

theorem quiet_resolve (document : Value) (location : Option String) :
    Run.Quiet kind (Generator.resolve document location) := by
  refine .bind .get fun _ => .bind (.forM fun _ => .say _ _) fun _ => ?_
  exact .bind (.remember _) fun _ => .ofExcept _

theorem quiet_create (document : Value) (location : Option String) :
    Run.Quiet kind (Generator.create document location) := by
  refine .bind (.ofExcept _) fun _ => .bind (quiet_resolve document location) fun _ => ?_
  exact .bind (.ofExcept _) fun _ => .bind (.say _ _) fun _ => .pure _

theorem quiet_compiledBy (generator : Generator) (compiler : Compiler) :
    Run.Quiet Programs.Idle (generator.compiledBy compiler) := by
  unfold Generator.compiledBy
  split
  next => exact .pure _
  next =>
    refine .bind (.forM fun _ => .say _ _) fun _ => .bind (.ofExcept _) fun _ => ?_
    refine .bind (.ofExcept _) fun _ => .bind (.say _ _) fun _ => ?_
    exact .bind (.compile _) fun _ => .bind (.ofExcept _) fun _ => .pure _

theorem quiet_prepare (settings : Settings) : Run.Quiet Programs.Idle (prepare settings) := by
  refine .bind .get fun _ => .bind (.ofExcept _) fun _ => .bind (.load _) fun _ => ?_
  refine .bind (quiet_create _ _) fun _ => .bind (.say _ _) fun _ => ?_
  exact quiet_compiledBy _ _

/-- What settings lead to on a host, stage by stage: rules for the routes, a document of a supported
version, its references resolved, a contract, and what the compiler makes of the part of it that the
rules keep. -/
inductive Prepares (host : Host) (settings : Settings) :
    Contract.Document → Compiled → Prop where
  | intro {rules : List Rule} {document flat : Value} {version : String}
      {contract : Contract.Document} {compiled : Compiled}
      (selected : settings.rules host.files = .ok rules)
      (loaded : (Contract.loadFrom host settings.contractFile settings.contractAddress).outcome =
        .ok document)
      (supported : Contract.version document = .ok version)
      (resolved : (dereference (loads host) depthLimit document (locationOf settings)).result =
        .ok flat)
      (checked : Contract.checkDocument flat = .ok contract)
      (made : compiled.MadeBy (contract.narrow (some (.rules rules))) settings.compiler host) :
      Prepares host settings contract compiled

theorem run_load_eq_ok {source : Host → Contract.Loaded Value} {document : Value}
    (ran : (Run.load source).run.run world = (.ok document, after)) :
    (source world.host).outcome = .ok document := by
  rw [Run.load, run_bind_ok (run_get world)] at ran
  obtain ⟨_, _, _, given⟩ := run_bind_eq_ok (congrArg Prod.fst ran)
  exact (run_ofExcept (Prod.ext given rfl)).1

/-- A generator that has not been compiled is narrowed with its contract. -/
@[simp] theorem narrow_uncompiled (contract : Contract.Document) (filter : Option RouteFilter) :
    (⟨contract, none⟩ : Generator).narrow filter = ⟨contract.narrow filter, none⟩ := by
  unfold Generator.narrow
  split
  next void =>
    cases filter with
    | none => rfl
    | some filter => simp_all [RouteFilter.isVoid, Contract.Document.narrow]
  next => rfl

/-- What has been compiled has gone through all stages. -/
theorem prepare_eq_ok (ran : ((prepare settings).run.run world).1 = .ok compiled) :
    ∃ contract, Prepares world.host settings contract compiled := by
  have loadKeeps (source : Host → Contract.Loaded Value) :
      Run.Quiet (fun _ => True) (Run.load source) := .load source
  have createKeeps (document : Value) (location : Option String) :
      Run.Quiet (fun _ => True) (Generator.create document location) := quiet_create _ _
  rw [prepare, run_bind_ok (run_get world)] at ran
  obtain ⟨rules, selecting, selectRan, onward⟩ := run_bind_eq_ok ran
  obtain ⟨selected, same⟩ := run_ofExcept selectRan
  rw [same] at onward
  obtain ⟨document, loading, loadRan, further⟩ := run_bind_eq_ok onward
  obtain ⟨loadHost, _⟩ := (loadKeeps _).of_ok trivial loadRan
  obtain ⟨generator, creating, createRan, compiling⟩ := run_bind_eq_ok further
  obtain ⟨createHost, _⟩ := (createKeeps _ _).of_ok trivial createRan
  obtain ⟨version, flat, contract, supported, resolved, checked, rfl⟩ :=
    create_stages (congrArg Prod.fst createRan)
  dsimp only at compiling
  rw [run_bind_ok (run_say _ _ _), narrow_uncompiled] at compiling
  have made := Generator.compiledBy_eq_ok.1 compiling
  rw [loadHost] at resolved createHost
  rw [World.told, createHost] at made
  exact ⟨contract, .intro selected (run_load_eq_ok loadRan) supported resolved checked made⟩

/-! ## Delivering -/

/-- Writes the schema, where a file is given for it. -/
def deliverSchema (settings : Settings) (compiled : Compiled) : Run Unit :=
  match filled? settings.schemaOutput with
  | some path => do
    compiled.writeSchema (.file path) (some settings.schemaIndent)
    Run.say .success s!"Wrote JSON schema to {path}"
  | none => pure ()

/-- Writes the declarations. -/
def deliverText (settings : Settings) (compiled : Compiled) : Run Unit :=
  match filled? settings.output with
  | some path => do
    compiled.write (.file path)
    Run.say .success s!"Wrote declarations to {path}"
  | none => compiled.write .output

theorem deliver_eq (settings : Settings) (compiled : Compiled) :
    deliver settings compiled = deliverSchema settings compiled >>= fun _ =>
      deliverText settings compiled := by
  unfold deliver deliverSchema deliverText
  cases filled? settings.schemaOutput with
  | none => rfl
  | some path => exact (bind_assoc _ _ _).symm

/-- The place of a file that may be given. -/
def placesOf? (files : FileSystem) (file : Option String) : Set (List String) :=
  {place | ∃ path, filled? file = some path ∧ place ∈ files.placesOf (FilePath.ofString path)}

theorem run_deliverSchema_eq_ok
    (ran : (deliverSchema settings compiled).run.run world = (.ok (), after)) :
    after.output = world.output ∧
      FileSystem.Evolves (placesOf? after.host.files settings.schemaOutput) world.host.files
        after.host.files ∧
      ∀ path, filled? settings.schemaOutput = some path → ∃ text,
        Json.write (.ofIndent (some settings.schemaIndent)) (.ofFields compiled.schema) =
            .ok text ∧
          after.host.files.read (FilePath.ofString path) = .ok (Utf8.encodeString text) := by
  unfold deliverSchema at ran
  split at ran
  next path given =>
    obtain ⟨_, between, writing, said⟩ := run_bind_eq_ok (congrArg Prod.fst ran)
    rw [run_bind_ok writing, run_say] at ran
    cases ran
    obtain ⟨text, start, shown, written⟩ := run_bind_eq_ok (congrArg Prod.fst writing)
    obtain ⟨isText, same⟩ := run_ofExcept shown
    rw [Compiled.writeSchema, run_bind_ok shown, same] at writing
    obtain ⟨output, evolves, known⟩ := run_write_file_eq_ok writing
    refine ⟨output, evolves.weaken fun place leads => ⟨path, given, leads⟩, ?_⟩
    intro other alsoGiven
    cases given.symm.trans alsoGiven
    exact ⟨text, isText, known⟩
  next absent =>
    cases ran
    refine ⟨rfl, .refl _, fun path given => ?_⟩
    cases absent.symm.trans given

theorem run_deliverText_eq_ok (blank : world.output = .empty)
    (ran : (deliverText settings compiled).run.run world = (.ok (), after)) :
    FileSystem.Evolves (placesOf? after.host.files settings.output) world.host.files
        after.host.files ∧
      (filled? settings.output = none → after.output.content = compiled.text) ∧
      ∀ path, filled? settings.output = some path → after.output.content = "" ∧
        after.host.files.read (FilePath.ofString path) =
          .ok (Utf8.encodeString compiled.text) := by
  unfold deliverText at ran
  split at ran
  next path given =>
    obtain ⟨_, between, writing, said⟩ := run_bind_eq_ok (congrArg Prod.fst ran)
    rw [run_bind_ok writing, run_say] at ran
    cases ran
    obtain ⟨output, evolves, known⟩ := run_write_file_eq_ok writing
    refine ⟨evolves.weaken fun place leads => ⟨path, given, leads⟩, ?_, ?_⟩
    · intro absent
      cases given.symm.trans absent
    · intro other alsoGiven
      cases given.symm.trans alsoGiven
      exact ⟨by simp [World.told, output, blank, Outlet.empty], known⟩
  next absent =>
    rw [Compiled.write, run_write_output, blank, Outlet.write_empty] at ran
    cases ran
    refine ⟨.refl _, fun _ => rfl, fun path given => ?_⟩
    cases absent.symm.trans given

/-- What a run leaves behind that has ended well: the declarations on the output or in their file,
the schema in its file, unless the declarations have been written there, and every other file as
before. -/
structure Delivers (settings : Settings) (compiled : Compiled) (before : FileSystem)
    (after : World) : Prop where
  shown : filled? settings.output = none → after.output.content = compiled.text
  declared : ∀ path, filled? settings.output = some path → after.output.content = "" ∧
    after.host.files.read (FilePath.ofString path) = .ok (Utf8.encodeString compiled.text)
  schema : ∀ path, filled? settings.schemaOutput = some path →
    Disjoint (placesOf? after.host.files settings.schemaOutput)
      (placesOf? after.host.files settings.output) → ∃ text,
      Json.write (.ofIndent (some settings.schemaIndent)) (.ofFields compiled.schema) =
          .ok text ∧
        after.host.files.read (FilePath.ofString path) = .ok (Utf8.encodeString text)
  others : FileSystem.Evolves (placesOf? after.host.files settings.schemaOutput ∪
    placesOf? after.host.files settings.output) before after.host.files

theorem run_deliver_eq_ok (blank : world.output = .empty)
    (ran : (deliver settings compiled).run.run world = (.ok (), after)) :
    Delivers settings compiled world.host.files after := by
  rw [deliver_eq] at ran
  obtain ⟨_, between, schemaRan, _⟩ := run_bind_eq_ok (congrArg Prod.fst ran)
  rw [run_bind_ok schemaRan] at ran
  obtain ⟨output, first, written⟩ := run_deliverSchema_eq_ok schemaRan
  obtain ⟨second, shown, declared⟩ := run_deliverText_eq_ok (output.trans blank) ran
  have still : placesOf? between.host.files settings.schemaOutput ⊆
      placesOf? after.host.files settings.schemaOutput := by
    rintro place ⟨path, given, leads⟩
    exact ⟨path, given, second.locate_eq_ok leads⟩
  refine ⟨shown, declared, ?_, ?_⟩
  · intro path given apart
    obtain ⟨text, isText, known⟩ := written path given
    refine ⟨text, isText, second.read_eq_ok known fun place leads => ?_⟩
    exact Set.disjoint_left.1 apart ⟨path, given, leads⟩
  · exact (first.weaken (still.trans Set.subset_union_left)).trans
      (second.weaken Set.subset_union_right)

/-! ## Reports on crashes -/

/-- The name of the report on a crash. -/
def reportName (moment : String) : String := s!"crash-{moment}.log"

/-- The place of the report on a crash at a moment, below the data directory. -/
def reportPlaces (host : Host) (moment : String) (files : FileSystem) : Set (List String) :=
  {place | ∃ directory, files.locate host.dataPath = .ok directory ∧
    place = directory ++ ["logs", reportName moment]}

theorem toList_reportName (moment : String) :
    (reportName moment).toList = "crash-".toList ++ moment.toList ++ ".log".toList := by
  simp [reportName, toString]

theorem reportName_ne_dots (moment : String) : reportName moment ≠ ".." := by
  intro same
  have letters := toList_reportName moment
  simp [same] at letters

@[simp]
theorem isName_reportName (moment : String) : FilePath.isName (reportName moment) = true := by
  have letters := toList_reportName moment
  have some : reportName moment ≠ "" := by
    intro same
    simp [same] at letters
  have other : reportName moment ≠ "." := by
    intro same
    simp [same] at letters
  simp [FilePath.isName, some, other]

/-- The path of the report on a crash. -/
theorem reportPath_eq (plain : '/' ∉ moment.toList) (directory : FilePath) :
    (directory.join (FilePath.ofString "logs")).join (FilePath.ofString (reportName moment)) =
      ⟨directory.root, directory.names ++ ["logs", reportName moment]⟩ := by
  have logs : FilePath.ofString "logs" = ⟨"", ["logs"]⟩ := by decide
  have unsplit : '/' ∉ (reportName moment).toList := by simp [toList_reportName, plain]
  rw [logs, FilePath.ofString_of_isName (isName_reportName moment) unsplit]
  simp [FilePath.join, FilePath.isAbsolute]

/-- The files once a report was kept in a data directory that could be made. -/
theorem keepReport_files {made : FileSystem} {report : String}
    (making : host.files.makeDirectories host.dataPath = (made, .ok ())) :
    (keepReport host moment report).1 =
      (made.save ((host.dataPath.join (FilePath.ofString "logs")).join
        (FilePath.ofString (reportName moment))) (Utf8.encodeString report)).1 := by
  delta keepReport Host.makeDataDirectory
  rw [making, reportName]
  dsimp only
  generalize made.save _ _ = saved
  obtain ⟨files, outcome⟩ := saved
  cases outcome <;> rfl

/-- The path of the report leads below the data directory. -/
theorem mem_reportPlaces {made files : FileSystem} {touched : Set (List String)}
    {place : List String} (plain : '/' ∉ moment.toList)
    (found : made.isDirectory host.dataPath = true)
    (evolves : FileSystem.Evolves touched made files)
    (leads : files.locate ((host.dataPath.join (FilePath.ofString "logs")).join
      (FilePath.ofString (reportName moment))) = .ok place) :
    place ∈ reportPlaces host moment files := by
  obtain ⟨node, leadsThere, _⟩ := FileSystem.isDirectory_iff.1 found
  obtain ⟨directory, located, _⟩ := FileSystem.find_eq_ok.1 leadsThere
  have still := evolves.locate_eq_ok located
  rw [reportPath_eq plain] at leads
  obtain ⟨_, _, followed⟩ := FileSystem.locate_eq_ok.1 leads
  obtain ⟨middle, reached, onward⟩ := FileSystem.foldlM_append_eq_ok.1 followed
  obtain ⟨_, _, alsoReached⟩ := FileSystem.locate_eq_ok.1 still
  cases reached.symm.trans alsoReached
  have down : ".." ∉ ["logs", reportName moment] := by simp [Ne.symm (reportName_ne_dots moment)]
  exact ⟨_, still, FileSystem.foldlM_enter_eq_ok down onward⟩

/-- Keeping a report on a crash touches no file but the report. -/
theorem evolves_keepReport (plain : '/' ∉ moment.toList) (host : Host) (report : String) :
    FileSystem.Evolves (reportPlaces host moment (keepReport host moment report).1) host.files
      (keepReport host moment report).1 := by
  have around := host.files.evolves_makeDirectories host.dataPath
  cases making : host.files.makeDirectories host.dataPath with
  | mk made outcome =>
      rw [making] at around
      cases outcome with
      | error fault =>
          delta keepReport Host.makeDataDirectory
          rw [making]
          exact around.weaken (Set.empty_subset _)
      | ok =>
          have saved := (made.save_spec ((host.dataPath.join (FilePath.ofString "logs")).join
            (FilePath.ofString (reportName moment))) (Utf8.encodeString report)).1
          rw [keepReport_files making]
          refine (around.weaken (Set.empty_subset _)).trans (saved.weaken fun place leads => ?_)
          exact mem_reportPlaces plain (FileSystem.isDirectory_of_makeDirectories making)
            saved leads

/-- The end of a run that has failed writes nothing but the report on a crash, and its status says
that it has failed. -/
theorem endFailed_spec (plain : '/' ∉ moment.toList) (failure : Failure) (world : World) :
    (endFailed moment failure world).status ≠ .ok 0 ∧
      (endFailed moment failure world).world.output = world.output ∧
      ((∀ kind, failure.category ≠ .crash kind) →
        (endFailed moment failure world).world.host.files = world.host.files) ∧
      FileSystem.Evolves
        (reportPlaces world.host moment (endFailed moment failure world).world.host.files)
        world.host.files (endFailed moment failure world).world.host.files := by
  unfold endFailed
  split
  next endless =>
    exact ⟨nofun, rfl, fun documented => absurd endless (documented .endless), .refl _⟩
  next kind _ isCrash =>
    have kept := evolves_keepReport plain world.host (crashReport failure)
    delta endCrashed
    generalize keepReport world.host moment (crashReport failure) = report at kept
    obtain ⟨files, outcome⟩ := report
    refine ⟨?_, ?_, fun documented => absurd isCrash (documented kind), ?_⟩ <;> cases outcome
    · simp
    · simp
    · rfl
    · rfl
    · exact kept
    · exact kept
  next _ documented =>
    refine ⟨?_, rfl, fun _ => rfl, .refl _⟩
    cases category : failure.category with
    | crash kind => exact absurd category (documented kind)
    | _ => simp [Category.status]

/-! ## Whole runs -/

/-- Words ask for a run: they are understood, and neither the version nor help is asked for. -/
structure Asks (words : List String) (read : Words) : Prop where
  understood : readWords words = .ok read
  silent : read.given.findSome? immediateText = none
  complete : read.extra = []

/-- The world in which a run with words begins. -/
def worldOf (host : Host) (read : Words) : World :=
  .start host (Diagnostics.create host.environment host.emoji (read.has .plain) (read.has .quiet)
    (read.has .verbose))

/-- A run ends before anything is written: the words are wrong, or a stage up to the compilation
fails. -/
inductive EndsEarly (host : Host) (words : List String) : Option Failure → Prop where
  | wrong {fault : UsageFault} (refused : readWords words = .error fault) :
      EndsEarly host words none
  | unexpected {read : Words} (understood : readWords words = .ok read)
      (silent : read.given.findSome? immediateText = none) (extra : read.extra ≠ []) :
      EndsEarly host words none
  | stage {read : Words} {failure : Failure} (asks : Asks words read)
      (failed : ((settle read.arguments >>= prepare).run.run (worldOf host read)).1 =
        .error failure) : EndsEarly host words (some failure)

theorem run_of_asks (asks : Asks words read) :
    run host moment words = runArguments read.arguments moment (worldOf host read) := by
  simp [run, asks.understood, asks.silent, asks.complete, worldOf]

theorem runArguments_of_ok (ran : (generate arguments).run.run world = (.ok (), after)) :
    runArguments arguments moment world = ⟨.ok 0, after⟩ := by
  delta runArguments
  rw [ran]

theorem runArguments_of_error (ran : (generate arguments).run.run world = (.error failure, after)) :
    runArguments arguments moment world = endFailed moment failure after := by
  delta runArguments
  rw [ran]

/-- A failure up to the compilation is one of the whole run. -/
theorem run_generate_of_failed
    (failed : (settle arguments >>= prepare).run.run world = (.error failure, after)) :
    (generate arguments).run.run world = (.error failure, after) := by
  unfold generate
  cases settling : (settle arguments).run.run world with
  | mk outcome between =>
      cases outcome with
      | error fault =>
          rw [run_bind_error settling] at failed ⊢
          cases failed
          rfl
      | ok settings =>
          rw [run_bind_ok settling] at failed ⊢
          exact run_bind_error failed

/-- A whole run that has ended well has settled, prepared and delivered. -/
theorem run_generate_eq_ok (idle : world.host.programs.Idle) (blank : world.output = .empty)
    (ran : (generate arguments).run.run world = (.ok (), after)) :
    ∃ settings contract compiled, Settings.resolve world.host arguments = .ok settings ∧
      Prepares world.host settings contract compiled ∧
      Delivers settings compiled world.host.files after := by
  unfold generate at ran
  obtain ⟨settings, settled, settling, _⟩ := run_bind_eq_ok (congrArg Prod.fst ran)
  rw [run_bind_ok settling] at ran
  obtain ⟨compiled, prepared, preparing, _⟩ := run_bind_eq_ok (congrArg Prod.fst ran)
  rw [run_bind_ok preparing] at ran
  rw [settle, run_bind_ok (run_get world)] at settling
  obtain ⟨resolved, same⟩ := run_ofExcept settling
  subst same
  obtain ⟨host, output⟩ := (quiet_prepare settings).of_ok idle preparing
  have delivered := run_deliver_eq_ok (output.trans blank) ran
  rw [host] at delivered
  obtain ⟨contract, prepares⟩ := prepare_eq_ok (congrArg Prod.fst preparing)
  exact ⟨settings, contract, compiled, resolved, prepares, delivered⟩

/-- A run that fails before writing leaves no trace: nothing stands on the output, and all files are
as they were, but for the report on a crash below the data directory. A run that ends well has gone
through all stages and has written what it has compiled: the declarations to the output or their
file, and the schema to its file, unless the two files are the same. -/
theorem run_all_or_nothing (idle : host.programs.Idle) (plain : '/' ∉ moment.toList)
    (words : List String) :
    (∀ failure?, EndsEarly host words failure? →
      (run host moment words).status ≠ .ok 0 ∧
      (run host moment words).world.output = .empty ∧
      ((∀ failure kind, failure? = some failure → failure.category ≠ .crash kind) →
        (run host moment words).world.host.files = host.files) ∧
      FileSystem.Evolves (reportPlaces host moment (run host moment words).world.host.files)
        host.files (run host moment words).world.host.files) ∧
    ∀ read, Asks words read → (run host moment words).status = .ok 0 →
      ∃ settings contract compiled, Settings.resolve host read.arguments = .ok settings ∧
        Prepares host settings contract compiled ∧
        Delivers settings compiled host.files (run host moment words).world := by
  constructor
  · intro failure? early
    cases early with
    | wrong refused =>
        simp only [run, refused]
        exact ⟨by simp [endUsage], rfl, fun _ => rfl, .refl _⟩
    | @unexpected read understood silent extra =>
        have some : (!read.extra.isEmpty) = true := by simp [extra]
        simp only [run, understood, silent, some, if_true]
        exact ⟨by simp [endUsage], rfl, fun _ => rfl, .refl _⟩
    | @stage read failure asks failed =>
        have quiet := (Run.Quiet.bind (quiet_settle read.arguments) quiet_prepare)
          (worldOf host read) idle
        cases ran : (settle read.arguments >>= prepare).run.run (worldOf host read) with
        | mk outcome after =>
            rw [ran] at failed quiet
            cases failed
            rw [run_of_asks asks, runArguments_of_error (run_generate_of_failed ran)]
            obtain ⟨ended, output, kept, evolves⟩ := endFailed_spec plain failure after
            rw [quiet.1] at kept evolves
            exact ⟨ended, output.trans quiet.2, fun documented =>
              kept fun kind => documented failure kind rfl, evolves⟩
  · intro read asks ended
    rw [run_of_asks asks] at ended ⊢
    cases ran : (generate read.arguments).run.run (worldOf host read) with
    | mk outcome after =>
        cases outcome with
        | error failure =>
            rw [runArguments_of_error ran] at ended
            exact absurd ended (endFailed_spec plain failure after).1
        | ok =>
            rw [runArguments_of_ok ran]
            obtain ⟨settings, contract, compiled, resolved, prepared, delivered⟩ :=
              run_generate_eq_ok idle rfl ran
            exact ⟨settings, contract, compiled, resolved, prepared, delivered⟩

/-- A host with a contract of one route and a compiler that knows one declaration. -/
def storing : Host :=
  { Host.bare with
    files := ⟨[], [(["c.json"], .file (Utf8.encodeString
      "\x7b\"openapi\": \"3.0.0\", \"paths\": \x7b\"/pets\": \x7b\"get\": \x7b\x7d\x7d\x7d\x7d"))]⟩
    programs := fun files _ _ =>
      .ran ⟨files, .exited 0, Utf8.encodeString "type A = 0;", [], 0, .stopped⟩ }

/-- Words that ask for declarations and a schema in files. -/
def wellWords : Words :=
  ⟨[.value .contractFile "c.json", .value .output "a.ts", .value .schemaOutput "s.json"], []⟩

/-- Words with a command that ends within a quotation. -/
def openWords : Words :=
  ⟨[.value .contractFile "c.json", .value .compiler "'"], []⟩

/-- A run writes both files, and one with a command that cannot be read ends in a crash that leaves
the output empty. -/
theorem run_all_or_nothing_storing :
    storing.programs.Idle ∧ '/' ∉ "now".toList ∧
      (∃ failure, EndsEarly storing ["--contracts-file", "c.json", "--compiler", "'"]
          (some failure) ∧
        failure.category = .crash .value ∧
        (run storing "now" ["--contracts-file", "c.json", "--compiler", "'"]).world.output =
          .empty) ∧
      ∃ settings contract compiled, Prepares storing settings contract compiled ∧
        Delivers settings compiled storing.files
          (run storing "now" ["--contracts-file", "c.json", "-o", "a.ts", "--schema-output",
            "s.json"]).world := by
  have idle : storing.programs.Idle := by
    intro files arguments input child launched
    cases launched
    rfl
  have plain : '/' ∉ "now".toList := by decide
  have asks : Asks ["--contracts-file", "c.json", "-o", "a.ts", "--schema-output", "s.json"]
      wellWords := ⟨rfl, rfl, rfl⟩
  have asksOpen : Asks ["--contracts-file", "c.json", "--compiler", "'"] openWords :=
    ⟨rfl, rfl, rfl⟩
  have ended : (run storing "now" ["--contracts-file", "c.json", "-o", "a.ts",
      "--schema-output", "s.json"]).status = .ok 0 := by decide +kernel
  have crashed : (((settle openWords.arguments >>= prepare).run.run
      (worldOf storing openWords)).1.mapError Failure.category).map (fun _ => ()) =
        .error (.crash .value) := by decide +kernel
  refine ⟨idle, plain, ?_, ?_⟩
  · cases ran :
        ((settle openWords.arguments >>= prepare).run.run (worldOf storing openWords)).1 with
    | ok compiled =>
        rw [ran] at crashed
        cases crashed
    | error failure =>
        rw [ran] at crashed
        have early := EndsEarly.stage asksOpen ran
        exact ⟨failure, early, Except.error.inj crashed,
          ((run_all_or_nothing idle plain _).1 _ early).2.1⟩
  · obtain ⟨settings, contract, compiled, _, prepared, delivered⟩ :=
      (run_all_or_nothing idle plain _).2 wellWords asks ended
    exact ⟨settings, contract, compiled, prepared, delivered⟩

end CommandLine

end RouteTypes
