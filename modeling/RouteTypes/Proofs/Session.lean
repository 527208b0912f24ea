import Mathlib
import RouteTypes.Proofs.Generator
import RouteTypes.Proofs.Json.Writable
import RouteTypes.Session

/-!
# Generators of a session

A step of a session leaves the generators that are there and adds one at most (`step_eq_ok`). So
after any run every generator that has been compiled holds the schema of its own contract, and what
a compiler has given for this schema in a step of this run (`generators_current`).
-/

namespace RouteTypes

variable {session next : Session} {world after : World} {generator : Generator}
variable {compiled : Compiled} {compiler : Compiler} {given : Step} {name source : String}

/-! ## Generators that stay the same -/

theorem Generator.narrow_of_void {filter : Option RouteFilter}
    (void : RouteFilter.isVoid filter) : generator.narrow filter = generator :=
  if_pos void

theorem Generator.narrow_of_not_void {filter : Option RouteFilter}
    (selects : ¬RouteFilter.isVoid filter) :
    generator.narrow filter = ⟨generator.contract.narrow filter, none⟩ :=
  if_neg selects

/-- What has been compiled is not compiled again. -/
theorem Generator.compile_of_compiled (isCompiled : generator.compiled = some compiled) :
    (generator.compile compiler).run.run world = (.ok generator, world) := by
  obtain ⟨contract, _⟩ := generator
  cases isCompiled
  rfl

namespace Session

/-! ## One step -/

theorem mem_of_lookup (known : session.lookup name = some generator) :
    (name, generator) ∈ session := by
  obtain ⟨before, behind, rfl, _⟩ := List.lookup_eq_some_iff.1 known
  simp

theorem run_find (known : session.lookup source = some generator) :
    (session.find source).run.run world = (.ok generator, world) := by
  rw [find, known]
  rfl

/-- A name is found where it is the name of a generator. -/
theorem find_eq_ok (found : (session.find source).run.run world = (.ok generator, after)) :
    session.lookup source = some generator ∧ world = after := by
  unfold find at found
  split at found
  next known =>
      cases found
      exact ⟨known, rfl⟩
  next => cases found

theorem run_ofRun {α : Type} (run : Run α) (world : World) :
    (ofRun run).run.run world =
      ((run.run.run world).1.mapError .failed, (run.run.run world).2) :=
  rfl

theorem run_ofRun_eq_ok {α : Type} {run : Run α} {value : α}
    (ran : (ofRun run).run.run world = (.ok value, after)) :
    (run.run.run world).1 = .ok value := by
  rw [run_ofRun] at ran
  cases outcome : (run.run.run world).1 <;> rw [outcome] at ran <;> cases ran
  rfl

/-- A generator is what a step adds to a session in a world: one that is made from a document, or
one of the session that is narrowed or compiled. -/
inductive Adds (session : Session) (world : World) : Step → Generator → Prop where
  | create {document : Value} {location : Option String} {generator : Generator}
      (name : String)
      (made : ((Generator.create document location).run.run world).1 = .ok generator) :
      Adds session world (.create name document location) generator
  | narrow {source : String} {generator : Generator} (name : String)
      (filter : Option RouteFilter) (known : session.lookup source = some generator) :
      Adds session world (.narrow name source filter) (generator.narrow filter)
  | compile {source : String} {generator : Generator} {compiler : Compiler} {compiled : Compiled}
      (name : String) (known : session.lookup source = some generator)
      (made : ((generator.compiledBy compiler).run.run world).1 = .ok compiled) :
      Adds session world (.compile name source compiler)
        { generator with compiled := some compiled }

/-- A step keeps all generators of a session and adds one at most. -/
theorem step_eq_ok (ran : (session.step given).run.run world = (.ok next, after)) :
    next = session ∨ ∃ name generator, next = (name, generator) :: session ∧
      Adds session world given generator := by
  have success := congrArg Prod.fst ran
  cases given with
  | create name document location =>
      obtain ⟨generator, _, made, added⟩ := run_bind_eq_ok success
      cases added
      exact .inr ⟨name, generator, rfl, .create name (run_ofRun_eq_ok made)⟩
  | narrow name source filter =>
      obtain ⟨generator, _, found, added⟩ := run_bind_eq_ok success
      cases added
      exact .inr ⟨name, _, rfl, .narrow name filter (find_eq_ok found).1⟩
  | compile name source compiler =>
      obtain ⟨generator, _, found, compiling⟩ := run_bind_eq_ok success
      obtain ⟨known, rfl⟩ := find_eq_ok found
      obtain ⟨result, _, compiledRan, added⟩ := run_bind_eq_ok compiling
      cases added
      obtain ⟨compiled, _, made, finished⟩ := run_bind_eq_ok (run_ofRun_eq_ok compiledRan)
      cases finished
      exact .inr ⟨name, _, rfl, .compile name known (congrArg Prod.fst made)⟩
  | write source target =>
      obtain ⟨_, _, _, writing⟩ := run_bind_eq_ok success
      obtain ⟨_, _, _, unchanged⟩ := run_bind_eq_ok writing
      cases unchanged
      exact .inl rfl
  | writeSchema source target indent =>
      obtain ⟨_, _, _, writing⟩ := run_bind_eq_ok success
      obtain ⟨_, _, _, unchanged⟩ := run_bind_eq_ok writing
      cases unchanged
      exact .inl rfl

theorem run_step_narrow (known : session.lookup source = some generator) (name : String)
    (filter : Option RouteFilter) :
    (session.step (.narrow name source filter)).run.run world =
      (.ok ((name, generator.narrow filter) :: session), world) :=
  run_bind_ok (run_find known)

theorem run_step_compile (known : session.lookup source = some generator)
    (isCompiled : generator.compiled = some compiled) (name : String) (compiler : Compiler) :
    (session.step (.compile name source compiler)).run.run world =
      (.ok ((name, generator) :: session), world) := by
  have same : (ofRun (generator.compile compiler)).run.run world = (.ok generator, world) := by
    rw [run_ofRun, Generator.compile_of_compiled isCompiled]
    rfl
  exact (run_bind_ok (run_find known)).trans (run_bind_ok same)

/-! ## A whole run -/

theorem steps_of_ok (ran : (session.step given).run.run world = (.ok next, after)) :
    steps session world [given] = (next, after) := by
  simp only [steps, ran]

@[simp] theorem steps_append (session : Session) (world : World) (first rest : List Step) :
    steps session world (first ++ rest) =
      steps (steps session world first).1 (steps session world first).2 rest := by
  induction first generalizing session world with
  | nil => rfl
  | cons given first ih =>
      cases ran : (session.step given).run.run world with
      | mk outcome after => cases outcome <;> simp only [List.cons_append, steps, ran, ih]

theorem steps_compile (known : session.lookup source = some generator)
    (made : ((generator.compiledBy compiler).run.run world).1 = .ok compiled) (name : String) :
    (steps session world [.compile name source compiler]).1 =
      (name, { generator with compiled := some compiled }) :: session := by
  cases ran : (generator.compiledBy compiler).run.run world with
  | mk outcome after =>
      rw [ran] at made
      cases made
      have compiling : (ofRun (generator.compile compiler)).run.run world =
          (.ok { generator with compiled := some compiled }, after) := by
        rw [run_ofRun, Generator.compile, run_bind_ok ran]
        rfl
      rw [steps_of_ok ((run_bind_ok (run_find known)).trans (run_bind_ok compiling))]

/-- A step that fails keeps all generators, too. -/
theorem steps_singleton (session : Session) (world : World) (given : Step) :
    (steps session world [given]).1 = session ∨
      ∃ name generator, (steps session world [given]).1 = (name, generator) :: session ∧
        Adds session world given generator := by
  cases ran : (session.step given).run.run world with
  | mk outcome after =>
      cases outcome with
      | error fault => exact .inl (by simp only [steps, ran])
      | ok next =>
          simp only [steps, ran]
          exact step_eq_ok ran

/-- A run keeps the generators that are there, in their order. -/
theorem suffix_steps (session : Session) (world : World) (given : List Step) :
    session <:+ (steps session world given).1 := by
  induction given generalizing session world with
  | nil => exact List.suffix_rfl
  | cons first rest ih =>
      rw [← List.singleton_append, steps_append]
      refine .trans ?_ (ih _ _)
      rcases steps_singleton session world first with same | ⟨name, generator, grown, _⟩
      · exact same.symm ▸ List.suffix_rfl
      · exact grown ▸ List.suffix_cons _ _

/-- What a contract has been compiled to comes from a step of a run. The step has found a generator
for this very contract that had not been compiled. -/
def CompiledIn (world : World) (given : List Step) (contract : Contract.Document)
    (compiled : Compiled) : Prop :=
  ∃ earlier name source compiler later, given = earlier ++ .compile name source compiler :: later ∧
    (steps [] world earlier).1.lookup source = some ⟨contract, none⟩ ∧
    compiled.MadeBy contract compiler (steps [] world earlier).2.host

theorem CompiledIn.append {earlier later : List Step} {contract : Contract.Document}
    (comes : CompiledIn world earlier contract compiled) :
    CompiledIn world (earlier ++ later) contract compiled := by
  obtain ⟨before, name, source, compiler, behind, rfl, found, made⟩ := comes
  exact ⟨before, name, source, compiler, behind ++ later, by simp, found, made⟩

/-- All that has been compiled by the end of a run has been compiled in it. -/
theorem compiledIn_of_mem (given : List Step)
    (member : (name, generator) ∈ (steps [] world given).1)
    (isCompiled : generator.compiled = some compiled) :
    CompiledIn world given generator.contract compiled := by
  induction given using List.reverseRecOn generalizing name generator compiled with
  | nil => cases member
  | append_singleton given last ih =>
      have old {name : String} {generator : Generator} {compiled : Compiled}
          (member : (name, generator) ∈ (steps [] world given).1)
          (isCompiled : generator.compiled = some compiled) :
          CompiledIn world (given ++ [last]) generator.contract compiled :=
        (ih member isCompiled).append
      rw [steps_append] at member
      rcases steps_singleton (steps [] world given).1 (steps [] world given).2 last with
        same | ⟨_, _, grown, added⟩
      · rw [same] at member
        exact old member isCompiled
      rw [grown] at member
      rcases List.mem_cons.1 member with equal | member
      · cases equal
        cases added with
        | create name made =>
            obtain ⟨_, _, _, _, _, _, rfl⟩ := create_stages made
            cases isCompiled
        | @narrow _ generator _ filter found =>
            by_cases void : RouteFilter.isVoid filter
            · rw [Generator.narrow_of_void void] at isCompiled ⊢
              exact old (mem_of_lookup found) isCompiled
            · rw [Generator.narrow_of_not_void void] at isCompiled
              cases isCompiled
        | @compile source generator compiler result name found made =>
            cases isCompiled
            obtain ⟨contract, before⟩ := generator
            cases before with
            | some before =>
                cases made
                exact old (mem_of_lookup found) rfl
            | none =>
                exact ⟨given, name, source, compiler, [], rfl, found,
                  Generator.compiledBy_eq_ok.1 made⟩
      · exact old member isCompiled

/-- Whatever steps have been taken and whichever of them have failed: every generator that has been
compiled holds the schema of its own contract and what a compiler gave for this schema, and all
generators of any earlier time are still there as they were. Narrowing a generator gives the same
one where there is nothing to select by, and otherwise one that has not been compiled; compiling one
that has been compiled gives the same one and does nothing else. -/
theorem generators_current (world : World) (given : List Step) :
    (∀ name generator compiled, (name, generator) ∈ (steps [] world given).1 →
      generator.compiled = some compiled → CompiledIn world given generator.contract compiled) ∧
    (∀ earlier later, earlier ++ later = given →
      (steps [] world earlier).1 <:+ (steps [] world given).1) ∧
    ∀ source generator, (steps [] world given).1.lookup source = some generator → ∀ name,
      (∀ filter, steps [] world (given ++ [.narrow name source filter]) =
        ((name, if RouteFilter.isVoid filter then generator
          else ⟨generator.contract.narrow filter, none⟩) :: (steps [] world given).1,
          (steps [] world given).2)) ∧
      ∀ compiled compiler, generator.compiled = some compiled →
        steps [] world (given ++ [.compile name source compiler]) =
          ((name, generator) :: (steps [] world given).1, (steps [] world given).2) := by
  refine ⟨?_, ?_, ?_⟩
  · intro name generator compiled member isCompiled
    exact compiledIn_of_mem given member isCompiled
  · intro earlier later equal
    rw [← equal, steps_append]
    exact suffix_steps _ _ _
  · intro source generator known name
    constructor
    · intro filter
      rw [steps_append, steps_of_ok (run_step_narrow known name filter)]
      rfl
    · intro compiled compiler isCompiled
      rw [steps_append, steps_of_ok (run_step_compile known isCompiled name compiler)]

/-- What a compiler that knows one declaration makes of a contract with one response. -/
def declared (fields : Fields) : Compiled :=
  ⟨(responseTree fields).toFields,
    "type A = 0;" ++ "\n\n" ++ Lookup.declarations Generator.rootName⟩

/-- A world whose only program is this compiler. -/
def declaring : World :=
  .start { Host.bare with
    programs := fun files _ _ =>
      .ran ⟨files, .exited 0, Utf8.encodeString "type A = 0;", [], 0, .stopped⟩ }
    ⟨true, false, false, 80, []⟩

/-- In this world a contract with one response is compiled where its schema can be written. -/
theorem steps_declaring {fields : Fields}
    (created : steps [] declaring [.create "made" (respond (.ofFields fields) []) none] =
      ([("made", ⟨responding fields none, none⟩)], declaring))
    (built : Generator.schemaFields (responding fields none) = .ok (responseTree fields).toFields)
    (writable : Json.Writable (.ofFields (responseTree fields).toFields))
    (whole : (Value.ofFields (responseTree fields).toFields).isWhole = true) :
    (steps [] declaring [.create "made" (respond (.ofFields fields) []) none,
        .compile "compiled" "made" .default]).1 =
      [("compiled", ⟨responding fields none, some (declared fields)⟩),
        ("made", ⟨responding fields none, none⟩)] := by
  obtain ⟨payload, isPayload⟩ : ∃ payload,
      Compiler.payload (responseTree fields).toFields Generator.rootName = .ok payload := by
    refine Json.exists_write_iff.2 ⟨Json.writable_ofFields.2 ?_, Value.isWhole_ofFields.2 ?_⟩
    · intro field member
      obtain rfl | member := Fields.mem_of_mem_put member
      · exact .scalar ⟨_, rfl⟩
      · exact Json.writable_ofFields.1 writable field member
    · intro field member
      obtain rfl | member := Fields.mem_of_mem_put member
      · rfl
      · exact Value.isWhole_ofFields.1 whole field member
  have job : Compiler.default.job (responseTree fields).toFields Generator.rootName =
      .ok ⟨Compiler.default.arguments, .ok payload, Compiler.default.timeout⟩ := by
    rw [Compiler.job, isPayload]
    rfl
  have made : (declared fields).MadeBy (responding fields none) .default declaring.host :=
    { schema := built
      text := ⟨_, "type A = 0;", job, by rfl, by decide, rfl⟩ }
  have parts : [.create "made" (respond (.ofFields fields) []) none,
      .compile "compiled" "made" .default] =
        [Step.create "made" (respond (.ofFields fields) []) none] ++
          [.compile "compiled" "made" .default] := rfl
  rw [parts, steps_append, created]
  exact steps_compile (by rfl) (Generator.compiledBy_eq_ok.2 made) "compiled"

/-- The fields of the schema of a text. -/
def wordFields : Fields := [("type", .text "string")]

/-- A generator for a contract with one response is compiled, and compiling the result again adds
the same one. -/
theorem generators_current_declared :
    let run : List Step := [.create "made" (respond (.ofFields wordFields) []) none,
      .compile "compiled" "made" .default]
    (steps [] declaring run).1 =
        [("compiled", ⟨responding wordFields none, some (declared wordFields)⟩),
          ("made", ⟨responding wordFields none, none⟩)] ∧
      CompiledIn declaring run (responding wordFields none) (declared wordFields) ∧
      steps [] declaring (run ++ [.compile "again" "compiled" .default]) =
        (("again", ⟨responding wordFields none, some (declared wordFields)⟩) ::
          (steps [] declaring run).1, (steps [] declaring run).2) := by
  intro run
  have compiled : (steps [] declaring run).1 =
      [("compiled", ⟨responding wordFields none, some (declared wordFields)⟩),
        ("made", ⟨responding wordFields none, none⟩)] := by
    refine steps_declaring (by cbv) (by cbv) ?_ ?_
    · simp [responseTree, Schema.closed, Schema.toFields, Schema.propertiesToFields,
        Schema.describe, wordFields, Fields.put, Json.scalarText]
    · decide +kernel
  have current := generators_current declaring run
  refine ⟨compiled, ?_, ?_⟩
  · exact current.1 "compiled" ⟨responding wordFields none, some (declared wordFields)⟩ _
      (by simp [compiled]) rfl
  · refine (current.2.2 "compiled" ⟨responding wordFields none, some (declared wordFields)⟩ ?_
      "again").2 _ _ rfl
    rw [compiled]
    rfl

end Session

end RouteTypes
