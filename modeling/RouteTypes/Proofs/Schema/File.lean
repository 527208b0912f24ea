import RouteTypes.Proofs.Schema.Payload
import RouteTypes.Proofs.Session

/-!
# The schema file

The schema of a generator is sent to the compiler in one line and with a title, and may be written
to a file in another layout and without one. Whoever reads the two finds the same schema
(`Session.schemaFile_agrees`): it can be written in every layout, as the compiler has got it in one,
and what JSON does not keep of it is lost in both.
-/

namespace RouteTypes

variable {contract : Contract.Document} {schema : Fields}

/-! ## Texts of one schema -/

/-- What a reader of a schema finds: its fields, and what JSON keeps of each. -/
def readFields (schema : Fields) : Entries :=
  schema.map fun field => (.text field.1, Json.decoded field.2)

theorem decoded_ofFields (distinct : (schema.map Prod.fst).Nodup) :
    Json.decoded (.ofFields schema) = .mapping (readFields schema) := by
  rw [Value.ofFields, Json.decoded_mapping (textual_ofFields.2 distinct), List.map_map]
  rfl

theorem readFields_titled :
    readFields (titled schema) =
      readFields schema ++ [(.text "title", .text Generator.rootName)] := by
  simp [readFields, titled, Json.decoded]

/-- Reading the schema with a title and taking the title away gives what is read without one. -/
theorem filter_readFields_titled (absent : "title" ∉ schema.map Prod.fst) :
    (readFields (titled schema)).filter (fun entry => entry.1 != .text "title") =
      readFields schema := by
  have others : ∀ entry ∈ readFields schema, (entry.1 != .text "title") = true := by
    intro entry member
    obtain ⟨field, inside, rfl⟩ := List.mem_map.1 member
    simp only [bne_iff_ne, ne_eq, Scalar.text.injEq]
    exact fun same => absent (same ▸ List.mem_map_of_mem inside)
  rw [readFields_titled, List.filter_append, List.filter_eq_self.2 others]
  simp

/-- Where there is an input for the compiler, the schema has a text in every layout. -/
theorem written_of_payload {payload : String}
    (built : Generator.schemaFields contract = .ok schema)
    (isPayload : Compiler.payload schema Generator.rootName = .ok payload) (layout : Json.Layout) :
    ∃ text, Json.write layout (.ofFields schema) = .ok text := by
  obtain ⟨writable, whole⟩ := Json.exists_write_iff.1 ⟨payload, payload_eq built ▸ isPayload⟩
  rw [Json.exists_write_iff, Json.writable_ofFields, Value.isWhole_ofFields]
  constructor
  · intro field member
    exact Json.writable_ofFields.1 writable field (List.mem_append_left _ member)
  · intro field member
    exact Value.isWhole_ofFields.1 whole field (List.mem_append_left _ member)

/-- The input of the compiler and the text of the schema in any layout are read as the same fields,
apart from the title. -/
theorem read_payload_and_text {payload : String}
    (built : Generator.schemaFields contract = .ok schema)
    (isPayload : Compiler.payload schema Generator.rootName = .ok payload)
    (floats : Json.FloatsReadBack (.ofFields schema)) :
    Json.read payload = .ok (.mapping (readFields (titled schema))) ∧
      ∀ layout, ∃ text, Json.write layout (.ofFields schema) = .ok text ∧
        Json.read text = .ok (.mapping ((readFields (titled schema)).filter fun entry =>
          entry.1 != .text "title")) := by
  have names := names_schemaFields built
  have both : ((titled schema).map Prod.fst).Nodup := by
    rw [titled, List.map_append, names]
    decide
  have absent : "title" ∉ schema.map Prod.fst := by
    rw [names]
    decide
  constructor
  · rw [Json.read_write (payload_eq built ▸ isPayload) (floatsReadBack_titled.2 floats),
      decoded_ofFields both]
  · intro layout
    obtain ⟨text, written⟩ := written_of_payload built isPayload layout
    refine ⟨text, written, ?_⟩
    rw [Json.read_write written floats, decoded_ofFields (names ▸ by decide),
      filter_readFields_titled absent]

/-- A schema that has a text is written as this text. -/
theorem Compiled.writeSchema_eq {compiled : Compiled} {indent : Option Int} {text : String}
    (written : Json.write (.ofIndent indent) (.ofFields compiled.schema) = .ok text)
    (target : Target) : compiled.writeSchema target indent = Run.write text target := by
  rw [Compiled.writeSchema, written]
  rfl

/-! ## The compiler of a run -/

/-- A program that makes a text of a job has been started with the input of the job, which could be
encoded. -/
theorem Compiler.run_job_eq_ok {job : Compiler.Job} {programs : Programs} {files : FileSystem}
    {output : String} :
    (job.run programs files).2 = .ok output ↔
      ∃ text child, job.payload = .ok text ∧
        programs files job.arguments (Utf8.encodeString text) = .ran child ∧
        Compiler.outcome job.timeout child = .ok output := by
  obtain ⟨arguments, payload, timeout⟩ := job
  unfold Compiler.Job.run Compiler.Job.input Compiler.Job.outcome
  cases payload with
  | ok text =>
      dsimp only
      split <;> simp_all
  | error fault =>
      dsimp only
      split <;> simp

namespace Session

variable {world : World} {given : List Step} {name : String} {generator : Generator}
variable {compiled : Compiled}

/-- A text has been sent to the compiler: in a step of a run that has found a generator for a
contract, not compiled yet, a program was started with this text as its input, and from its output
comes what the contract has been compiled to. -/
def Sent (world : World) (given : List Step) (contract : Contract.Document) (compiled : Compiled)
    (payload : String) : Prop :=
  ∃ earlier name source compiler later, given = earlier ++ .compile name source compiler :: later ∧
    (steps [] world earlier).1.lookup source = some ⟨contract, none⟩ ∧
    Compiler.payload compiled.schema Generator.rootName = .ok payload ∧
    ∃ child output, (steps [] world earlier).2.host.programs (steps [] world earlier).2.host.files
        compiler.arguments (Utf8.encodeString payload) = .ran child ∧
      Compiler.outcome compiler.timeout child = .ok output ∧
      output ++ "\n\n" ++ Lookup.declarations Generator.rootName = compiled.text

/-- What has been compiled has been sent. -/
theorem CompiledIn.sent {contract : Contract.Document}
    (comes : CompiledIn world given contract compiled) :
    Generator.schemaFields contract = .ok compiled.schema ∧
      ∃ payload, Sent world given contract compiled payload := by
  obtain ⟨earlier, name, source, compiler, later, parts, found, made⟩ := comes
  obtain ⟨job, output, isJob, ran, _, isText⟩ := made.text
  obtain ⟨_, input, isPayload, rfl⟩ := job_eq_ok.1 isJob
  obtain ⟨payload, child, encodable, started, outcome⟩ := Compiler.run_job_eq_ok.1 ran
  obtain rfl : input = .ok payload := encodable
  exact ⟨made.schema, payload, earlier, name, source, compiler, later, parts, found, isPayload,
    child, output, started, outcome, isText⟩

/-- Whatever steps have been taken: for every generator that has been compiled a text has been sent
to the compiler, and what is written as its schema, with any indentation and wherever it is written,
is a text that is read as the text for the compiler is, without the title. Mappings are read with
their keys in order, so this order, too, is the same at every depth. -/
theorem schemaFile_agrees (member : (name, generator) ∈ (steps [] world given).1)
    (isCompiled : generator.compiled = some compiled)
    (floats : Json.FloatsReadBack (.ofFields compiled.schema)) :
    ∃ payload entries, Sent world given generator.contract compiled payload ∧
      Json.read payload = .ok (.mapping entries) ∧
      ∀ indent, ∃ text, (∀ target, compiled.writeSchema target indent = Run.write text target) ∧
        Json.read text = .ok (.mapping (entries.filter fun entry => entry.1 != .text "title")) := by
  obtain ⟨built, payload, sent⟩ := (compiledIn_of_mem given member isCompiled).sent
  obtain ⟨_, _, _, _, _, _, _, isPayload, _⟩ := id sent
  obtain ⟨readPayload, readText⟩ := read_payload_and_text built isPayload floats
  refine ⟨payload, readFields (titled compiled.schema), sent, readPayload, fun indent => ?_⟩
  obtain ⟨text, written, same⟩ := readText (.ofIndent indent)
  exact ⟨text, Compiled.writeSchema_eq written, same⟩

/-- The fields of a schema with a number as a key, which JSON does not keep, and the number one half
below it. -/
def keyedFields : Fields :=
  [("example", .mapping [(.int 1, .scalar (.float (.finite false 4503599627370496 (-53))))])]

/-- The schema of a contract that has been compiled is written with a negative indentation. -/
theorem schemaFile_agrees_keyed :
    let run : List Step := [.create "made" (respond (.ofFields keyedFields) []) none,
      .compile "compiled" "made" .default]
    ("compiled", ⟨responding keyedFields none, some (declared keyedFields)⟩) ∈
        (steps [] declaring run).1 ∧
      Json.FloatsReadBack (.ofFields (declared keyedFields).schema) ∧
      ∃ payload entries text,
        Sent declaring run (responding keyedFields none) (declared keyedFields) payload ∧
        Json.read payload = .ok (.mapping entries) ∧
        (declared keyedFields).writeSchema (.file "schema.json") (some (-3)) =
          Run.write text (.file "schema.json") ∧
        Json.read text = .ok (.mapping (entries.filter fun entry => entry.1 != .text "title")) := by
  intro run
  have half : Json.ReadsBack (.finite false 4503599627370496 (-53)) := by
    unfold Json.ReadsBack
    decide +kernel
  have floats : Json.FloatsReadBack (.ofFields (responseTree keyedFields).toFields) := by
    simp [responseTree, Schema.closed, Schema.toFields, Schema.propertiesToFields,
      Schema.describe, keyedFields, Fields.put, Value.ofFields, half]
  have compiled : (steps [] declaring run).1 =
      [("compiled", ⟨responding keyedFields none, some (declared keyedFields)⟩),
        ("made", ⟨responding keyedFields none, none⟩)] := by
    have named : ∃ name, Json.keyText (.int 1) = .ok name :=
      exists_ok_of_isSome (by decide +kernel)
    refine steps_declaring (by cbv) (by cbv) ?_ (by decide +kernel)
    simp [responseTree, Schema.closed, Schema.toFields, Schema.propertiesToFields,
      Schema.describe, keyedFields, Fields.put, Json.scalarText, named]
  have member : ("compiled", ⟨responding keyedFields none, some (declared keyedFields)⟩) ∈
      (steps [] declaring run).1 := by simp [compiled]
  obtain ⟨payload, entries, sent, readPayload, written⟩ := schemaFile_agrees member rfl floats
  obtain ⟨text, isWritten, readText⟩ := written (some (-3))
  exact ⟨member, floats, payload, entries, text, sent, readPayload, isWritten _, readText⟩

end Session

end RouteTypes
