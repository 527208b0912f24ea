import RouteTypes.Generator
import RouteTypes.Proofs.Run

/-!
# Making and compiling generators

A generator is made from a document whose version is supported, once its references are resolved
and its contract is checked; it has not been compiled (`create_eq_ok`). Compiling it shows a
warning for every required parameter without a schema (`messages_compile`), whatever comes of it,
and succeeds exactly where the compiler makes declarations of the schema of the contract
(`compile_eq_ok`).
-/

namespace RouteTypes

open Reference

variable {document flat : Value} {location : Option String} {world after : World}
variable {contract : Contract.Document} {generator : Generator} {compiler : Compiler}
variable {compiled : Compiled}

/-! ## Making a generator -/

/-- Resolving a document as a part of a run gives what resolving it gives. -/
theorem resolve_eq_ok
    (ran : (Generator.resolve document location).run.run world = (.ok flat, after)) :
    (dereference (loads world.host) depthLimit document location).result = .ok flat := by
  unfold Generator.resolve at ran
  obtain ⟨_, _, read, resolved⟩ := run_bind_eq_ok (congrArg Prod.fst ran)
  cases read
  obtain ⟨_, _, _, remembered⟩ := run_bind_eq_ok resolved
  obtain ⟨_, _, _, given⟩ := run_bind_eq_ok remembered
  exact (run_ofExcept (Prod.ext given rfl)).1

/-- Each step of making a generator has succeeded. -/
theorem create_stages
    (accepted : ((Generator.create document location).run.run world).1 = .ok generator) :
    ∃ version flat contract, Contract.version document = .ok version ∧
      (dereference (loads world.host) depthLimit document location).result = .ok flat ∧
      Contract.checkDocument flat = .ok contract ∧ generator = ⟨contract, none⟩ := by
  obtain ⟨version, _, versionRan, resolving⟩ := run_bind_eq_ok accepted
  obtain ⟨supported, rfl⟩ := run_ofExcept versionRan
  obtain ⟨flat, _, resolved, checking⟩ := run_bind_eq_ok resolving
  obtain ⟨contract, _, checkRan, saying⟩ := run_bind_eq_ok checking
  obtain ⟨_, _, _, finished⟩ := run_bind_eq_ok saying
  cases finished
  exact ⟨version, flat, contract, supported, resolve_eq_ok resolved, (run_ofExcept checkRan).1, rfl⟩

/-- A generator is made from a document that could be resolved. -/
theorem create_eq_ok
    (accepted : ((Generator.create document location).run.run world).1 = .ok generator) :
    ∃ flat, (dereference (loads world.host) depthLimit document location).result = .ok flat ∧
      Contract.checkDocument flat = .ok generator.contract := by
  obtain ⟨_, flat, _, _, resolved, checked, rfl⟩ := create_stages accepted
  exact ⟨flat, resolved, checked⟩

/-! ## Compiling a generator -/

/-- There are declarations only where the compiler has given any. -/
@[simp] theorem declarations_eq_ok {output text : String} :
    Generator.declarations output = .ok text ↔
      output ≠ "" ∧ output ++ "\n\n" ++ Lookup.declarations Generator.rootName = text := by
  by_cases empty : output = ""
  · simp [Generator.declarations, Lookup.appendTo, empty]
  · simp [Generator.declarations, Lookup.appendTo, empty]

/-- What has been compiled belongs to a contract and comes from a compiler on a host: its schema is
that of the contract, and its text is what the compiler gives for this schema, which is not empty,
with the lookup types behind it. -/
structure Compiled.MadeBy (compiled : Compiled) (contract : Contract.Document)
    (compiler : Compiler) (host : Host) : Prop where
  schema : Generator.schemaFields contract = .ok compiled.schema
  text : ∃ job output, compiler.job compiled.schema Generator.rootName = .ok job ∧
    (job.run host.programs host.files).2 = .ok output ∧ output ≠ "" ∧
    output ++ "\n\n" ++ Lookup.declarations Generator.rootName = compiled.text

namespace Generator

/-- Compiling a contract succeeds exactly where there is a schema that the compiler makes
declarations of. -/
theorem compiledBy_eq_ok :
    ((compiledBy ⟨contract, none⟩ compiler).run.run world).1 = .ok compiled ↔
      compiled.MadeBy contract compiler world.host := by
  have warned := run_forM_say .warning UntypedParameter.message
    (UntypedParameter.ofDocument contract) world
  unfold compiledBy
  rw [run_bind_ok warned]
  constructor
  · intro succeeded
    obtain ⟨schema, _, found, succeeded⟩ := run_bind_eq_ok succeeded
    obtain ⟨built, rfl⟩ := run_ofExcept_eq_ok.1 found
    obtain ⟨job, _, made, succeeded⟩ := run_bind_eq_ok succeeded
    obtain ⟨isJob, rfl⟩ := run_ofExcept made
    rw [run_bind_ok (run_say _ _ _)] at succeeded
    obtain ⟨output, _, ran, succeeded⟩ := run_bind_eq_ok succeeded
    obtain ⟨text, _, declared, succeeded⟩ := run_bind_eq_ok succeeded
    obtain ⟨outcome, rfl⟩ := run_compile_eq_ok.1 ran
    obtain ⟨filled, rfl⟩ := declarations_eq_ok.1 (run_ofExcept_eq_ok.1 declared).1
    cases succeeded
    exact ⟨built, job, output, isJob, outcome, filled, rfl⟩
  · intro made
    obtain ⟨built, job, output, isJob, outcome, filled, isText⟩ := made
    have making := congrArg (Except.mapError Failure.compiler) isJob
    have declaring := declarations_eq_ok.2 ⟨filled, isText⟩
    -- the messages before it have not changed the host
    have running (told : World) (same : told.host = world.host) :
        (Run.compile job).run.run told = (.ok output,
          told.withFiles (job.run told.host.programs told.host.files).1) :=
      run_compile_eq_ok.2 ⟨same ▸ outcome, rfl⟩
    rw [run_bind_ok (run_ofExcept_eq_ok.2 ⟨built, rfl⟩),
      run_bind_ok (run_ofExcept_eq_ok.2 ⟨making, rfl⟩), run_bind_ok (run_say _ _ _),
      run_bind_ok (running ((world.told _ _).told _ _) rfl),
      run_bind_ok (run_ofExcept_eq_ok.2 ⟨declaring, rfl⟩)]
    rfl

/-- Compiling shows a warning for every required parameter without a schema, and fails, if it does,
only after that. -/
theorem messages_compiledBy (contract : Contract.Document) (compiler : Compiler) (world : World) :
    ∃ shown, ((compiledBy ⟨contract, none⟩ compiler).run.run world).2.messages =
      (world.told .warning
        ((UntypedParameter.ofDocument contract).map UntypedParameter.message)).messages ++
        shown := by
  unfold compiledBy
  rw [run_bind_ok (run_forM_say .warning UntypedParameter.message
    (UntypedParameter.ofDocument contract) world)]
  refine Run.Adds.bind (.ofExcept _) (fun schema => ?_) _
  refine .bind (.ofExcept _) fun job => .bind (.say _ _) fun _ => ?_
  refine .bind (.compile job) fun output => .bind (.ofExcept _) fun text => ?_
  exact .of_unchanged fun _ => rfl

theorem messages_compile (contract : Contract.Document) (compiler : Compiler) (world : World) :
    ∃ shown, ((compile ⟨contract, none⟩ compiler).run.run world).2.messages =
      (world.told .warning
        ((UntypedParameter.ofDocument contract).map UntypedParameter.message)).messages ++
        shown := by
  obtain ⟨shown, said⟩ := messages_compiledBy contract compiler world
  refine ⟨shown, said ▸ ?_⟩
  unfold compile
  cases ran : (compiledBy ⟨contract, none⟩ compiler).run.run world with
  | mk outcome after =>
      cases outcome with
      | error failure => rw [run_bind_error ran]
      | ok compiled =>
          rw [run_bind_ok ran]
          rfl

end Generator

/-! ## A contract with one response -/

/-- A contract with one response, whose schema is given. -/
def respond (schema : Value) (others : Entries) : Value :=
  .mapping ([(.text "openapi", .text "3.0.0"),
    (.text "paths", .mapping [(.text "/n", .mapping [(.text "get", .mapping
      [(.text "responses", .mapping [(.text "200", .mapping [(.text "content", .mapping
        [(.text "application/json", .mapping [(.text "schema", schema)])])])])])])])] ++ others)

/-- An operation with one response, whose schema is given. -/
def answering (schema : Fields) : Contract.Operation where
  description := none
  parameters := []
  requestBody := none
  responses := some [("200", some
    { description := none
      content := some [("application/json", some { schema := some schema, extras := [] })]
      extras := [] })]
  extras := []

/-- The contract with one response once it is checked. -/
def responding (schema : Fields) (components : Option Fields) : Contract.Document where
  openapi := "3.0.0"
  info := Contract.Info.default
  paths := [("/n", some
    { operations := [(.get, some (answering schema))]
      extras := [] })]
  components := components
  extras := []

/-- The tree of a contract with one response. -/
def responseTree (schema : Fields) : Schema :=
  .closed none [("/n", .closed none [("get", .closed (some "GET /n")
    [("responses", .closed (some "Response(s) for GET /n")
      [("200", .fragment schema (some "200 response for GET /n"))])])])]

end RouteTypes
