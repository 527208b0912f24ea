import RouteTypes.Proofs.Failure
import RouteTypes.Proofs.Schema.File
import RouteTypes.Proofs.Text.Utf8

/-!
# How the compiler fails

The declarations for a schema are the output of a program that ended in time with status zero, and
most of what keeps a program from this is answered for as a fault of the compiler. What is not is
listed in full (`Compiler.Escapes`): a part of the schema that has no JSON form or cannot be
encoded, a host that does not start the program for some other reason than that it is missing or
forbidden, a program that is gone or holds on when it is to be stopped, or that never ends, and an
output that is no text. All but the first do not depend on the schema
(`Compiler.refused_and_undecodable_escape`).
-/

namespace RouteTypes.Compiler

variable {compiler : Compiler} {schema : Fields} {root : String} {programs : Programs}
variable {files : FileSystem}

/-- The declarations that the programs of a host make of a schema. -/
def declarations (compiler : Compiler) (schema : Fields) (root : String) (programs : Programs)
    (files : FileSystem) : Except Fault String := do
  ((← compiler.job schema root).run programs files).2

/-- A program ended in time and with status zero. -/
structure Finished (compiler : Compiler) (child : Child) : Prop where
  inTime : isLate compiler.timeout child = false
  zero : child.ending = .exited 0

/-- An obstacle is known to the host as a program that is missing or may not be run. -/
def IsAnswered (obstacle : FileObstacle) : Prop :=
  obstacle.number? = some 1 ∨ obstacle.number? = some 2 ∨ obstacle.number? = some 13

/-- A program is not started, for some other reason than that it is missing or may not be run. -/
inductive LaunchEscapes (launch : Launch) : Crash → Prop where
  | refused {fault : FileFault} {kind : Crash} (refused : launch = .refused fault)
      (other : ¬IsAnswered fault.obstacle) (crash : fault.obstacle.category = .crash kind) :
      LaunchEscapes launch kind

/-- What is found of a program that has got its input and that nobody answers for. It is late, and
when it is to be stopped, it is gone, or its outputs are kept open. It never ends and may take all
the time. Or it has finished and its output is no text. -/
inductive ChildEscapes (compiler : Compiler) (child : Child) : Crash → Prop where
  | gone (late : isLate compiler.timeout child = true) (gone : child.remains = .gone) :
      ChildEscapes compiler child .lookup
  | held (late : isLate compiler.timeout child = true) (held : child.remains = .held) :
      ChildEscapes compiler child .endless
  | endless (inTime : isLate compiler.timeout child = false) (never : child.ending = .never) :
      ChildEscapes compiler child .endless
  | output (finished : Finished compiler child)
      (undecodable : ∀ text, Utf8.encode text ≠ child.output) :
      ChildEscapes compiler child .undecodable

/-- What is to be written as the input of a compiler: a schema with a title. -/
def titledValue (schema : Fields) (root : String) : Value :=
  .ofFields (Fields.put schema "title" (.text root))

/-- A schema has a JSON form, but a half of a pair stands alone in it. -/
structure Broken (schema : Fields) (root : String) : Prop where
  writable : Json.Writable (titledValue schema root)
  broken : (titledValue schema root).isWhole = false

/-- What a program is started with: the input that is made of the schema, and nothing where this
cannot be encoded. -/
inductive Offers (schema : Fields) (root : String) : Bytes → Prop where
  | text {input : String} (written : payload schema root = .ok input) :
      Offers schema root (Utf8.encodeString input)
  | nothing (broken : Broken schema root) : Offers schema root []

/-- What keeps a compiler from its declarations that nobody answers for: a part of the schema has no
JSON form, or the program is not started, or it is started and its input cannot be encoded, or
something is found of the program that has got its input. -/
inductive Escapes (compiler : Compiler) (schema : Fields) (root : String) (programs : Programs)
    (files : FileSystem) : Crash → Prop where
  | input {cause : Json.Unwritable} {kind : Crash} (configured : compiler.command ≠ [])
      (stops : Json.Stops cause (titledValue schema root)) (crash : cause.category = .crash kind) :
      Escapes compiler schema root programs files kind
  | start {input : Bytes} {kind : Crash} (configured : compiler.command ≠ [])
      (offers : Offers schema root input)
      (escapes : LaunchEscapes (programs files compiler.arguments input) kind) :
      Escapes compiler schema root programs files kind
  | half {child : Child} (configured : compiler.command ≠ []) (broken : Broken schema root)
      (ran : programs files compiler.arguments [] = .ran child) :
      Escapes compiler schema root programs files .unencodable
  | child {input : String} {child : Child} {kind : Crash} (configured : compiler.command ≠ [])
      (written : payload schema root = .ok input)
      (ran : programs files compiler.arguments (Utf8.encodeString input) = .ran child)
      (escapes : ChildEscapes compiler child kind) :
      Escapes compiler schema root programs files kind

/-! ## The output of a program -/

theorem decoded_eq_ok {output : Bytes} {text : String} :
    ((Utf8.decode output).mapError Fault.undecodable).map String.ofList = .ok text ↔
      Utf8.encodeString text = output := by
  rw [Utf8.encodeString, ← Utf8.decode_eq_ok_iff]
  cases Utf8.decode output with
  | error fault => simp [Except.mapError, Except.map]
  | ok decoded =>
      simp only [Except.mapError, Except.map, Except.ok.injEq]
      exact ⟨fun same => by rw [← same, String.toList_ofList], fun same => by
        rw [same, String.ofList_toList]⟩

theorem outcome_of_late {child : Child} (late : isLate compiler.timeout child = true) :
    outcome compiler.timeout child = .error (stop compiler.timeout child.remains) :=
  if_pos late

theorem outcome_of_finished {child : Child} (finished : Finished compiler child) :
    outcome compiler.timeout child =
      ((Utf8.decode child.output).mapError .undecodable).map String.ofList := by
  rw [outcome, finished.inTime, finished.zero]
  rfl

@[simp] theorem outcome_eq_ok {child : Child} {text : String} :
    outcome compiler.timeout child = .ok text ↔
      Finished compiler child ∧ Utf8.encodeString text = child.output := by
  constructor
  · intro gave
    have finished : Finished compiler child := by
      unfold outcome at gave
      split at gave
      next => cases gave
      next inTime =>
        split at gave
        next => cases gave
        next => cases gave
        next zero => exact ⟨Bool.eq_false_iff.2 inTime, zero⟩
        next => cases gave
    rw [outcome_of_finished finished, decoded_eq_ok] at gave
    exact ⟨finished, gave⟩
  · rintro ⟨finished, same⟩
    rw [outcome_of_finished finished, decoded_eq_ok, same]

/-- A program that is late is answered for where it can be stopped. -/
theorem failsAs_late {child : Child} (late : isLate compiler.timeout child = true) :
    FailsAs Fault.category (· = .compiler) (ChildEscapes compiler child)
      (outcome compiler.timeout child) := by
  have only (kind : Crash) : ChildEscapes compiler child kind ↔
      child.remains = .gone ∧ kind = .lookup ∨ child.remains = .held ∧ kind = .endless := by
    constructor
    · intro escapes
      cases escapes with
      | gone _ gone => exact .inl ⟨gone, rfl⟩
      | held _ held => exact .inr ⟨held, rfl⟩
      | endless inTime => simp [inTime] at late
      | output finished => simp [finished.inTime] at late
    · rintro (⟨gone, rfl⟩ | ⟨held, rfl⟩)
      · exact .gone late gone
      · exact .held late held
  rw [outcome_of_late late]
  cases remains : child.remains with
  | gone => exact .of_crash rfl fun kind => by simp [only, remains]
  | stopped => exact .of_fault rfl (by rintro _ ⟨⟩) fun kind => by simp [only, remains]
  | held => exact .of_crash rfl fun kind => by simp [only, remains]

/-- A program that is in time is answered for where it ends and has not finished. -/
theorem failsAs_inTime {child : Child} (inTime : isLate compiler.timeout child = false) :
    FailsAs Fault.category (· = .compiler) (ChildEscapes compiler child)
      (outcome compiler.timeout child) := by
  have only (kind : Crash) : ChildEscapes compiler child kind ↔
      child.ending = .never ∧ kind = .endless ∨
        child.ending = .exited 0 ∧ kind = .undecodable ∧
          ∀ text, Utf8.encode text ≠ child.output := by
    constructor
    · intro escapes
      cases escapes with
      | gone late => simp [inTime] at late
      | held late => simp [inTime] at late
      | endless _ never => exact .inl ⟨never, rfl⟩
      | output finished undecodable => exact .inr ⟨finished.zero, rfl, undecodable⟩
    · rintro (⟨never, rfl⟩ | ⟨zero, rfl, undecodable⟩)
      · exact .endless inTime never
      · exact .output ⟨inTime, zero⟩ undecodable
  cases ending : child.ending with
  | never =>
      rw [outcome, inTime, ending]
      exact .of_crash rfl fun kind => by simp [only, ending]
  | killed signal =>
      rw [outcome, inTime, ending]
      exact .of_fault rfl (by rintro _ ⟨⟩) fun kind => by simp [only, ending]
  | exited status =>
      cases status with
      | zero =>
          rw [outcome_of_finished ⟨inTime, ending⟩]
          cases decoded : Utf8.decode child.output with
          | ok text =>
              refine .of_ok _ fun kind => ?_
              simp [only, ending, ← Utf8.exists_decode_eq_error_iff, decoded]
          | error fault =>
              refine .of_crash rfl fun kind => ?_
              simp [only, ending, ← Utf8.exists_decode_eq_error_iff, decoded]
      | succ status =>
          rw [outcome, inTime, ending]
          exact .of_fault rfl (by rintro _ ⟨⟩) fun kind => by simp [only, ending]

theorem failsAs_outcome (child : Child) :
    FailsAs Fault.category (· = .compiler) (ChildEscapes compiler child)
      (outcome compiler.timeout child) := by
  cases late : isLate compiler.timeout child with
  | true => exact failsAs_late late
  | false => exact failsAs_inTime late

/-! ## Starting a program -/

theorem failsAs_refusal (command : String) (fault : FileFault) :
    FailsAs Fault.category (· = .compiler) (LaunchEscapes (.refused fault))
      (.error (.ofRefusal command fault) : Except Fault String) := by
  have answered {result : Fault} (isCompiler : result.category = .compiler)
      (known : IsAnswered fault.obstacle) :
      FailsAs Fault.category (· = .compiler) (LaunchEscapes (.refused fault))
        (.error result : Except Fault String) := by
    refine .of_fault isCompiler (by rw [isCompiler]; rintro _ ⟨⟩) ?_
    rintro _ ⟨⟨⟩, other, _⟩
    exact other known
  unfold Fault.ofRefusal
  split
  next missing => exact answered rfl (.inr (.inl missing))
  next forbidden => exact answered rfl (.inl forbidden)
  next forbidden => exact answered rfl (.inr (.inr forbidden))
  next two one thirteen =>
    have other : ¬IsAnswered fault.obstacle := by
      rintro (isOne | isTwo | isThirteen)
      · exact one isOne
      · exact two isTwo
      · exact thirteen isThirteen
    obtain ⟨kind, crash⟩ : ∃ kind, fault.obstacle.category = .crash kind := by
      cases fault.obstacle <;> exact ⟨_, rfl⟩
    refine .of_crash crash fun another => ?_
    constructor
    · rintro ⟨⟨⟩, _, same⟩
      exact Category.crash.inj (same.symm.trans crash)
    · rintro rfl
      exact .refused rfl other crash

/-- What is found of a program that has been started and that nobody answers for. -/
def StartedEscapes (compiler : Compiler) (payload : Except Utf8.HalfFault String) (child : Child)
    (kind : Crash) : Prop :=
  match payload with
  | .ok _ => ChildEscapes compiler child kind
  | .error _ => kind = .unencodable

theorem failsAs_run (payload : Except Utf8.HalfFault String) :
    let job : Job := ⟨compiler.arguments, payload, compiler.timeout⟩
    FailsAs Fault.category (· = .compiler)
      (fun kind => LaunchEscapes (programs files compiler.arguments job.input) kind ∨
        ∃ child, programs files compiler.arguments job.input = .ran child ∧
          StartedEscapes compiler payload child kind)
      (job.run programs files).2 := by
  intro job
  have none {launch : Launch} (answered : ∀ fault, launch ≠ .refused fault)
      (unstarted : ∀ child, launch ≠ .ran child) (kind : Crash) :
      ¬(LaunchEscapes launch kind ∨
        ∃ child, launch = .ran child ∧ StartedEscapes compiler payload child kind) := by
    rintro (⟨refused, _⟩ | ⟨child, ran, _⟩)
    · exact answered _ refused
    · exact unstarted _ ran
  unfold Job.run
  dsimp only [job]
  cases programs files compiler.arguments job.input with
  | missing => exact .of_fault rfl (by rintro _ ⟨⟩) (none nofun nofun)
  | forbidden => exact .of_fault rfl (by rintro _ ⟨⟩) (none nofun nofun)
  | refused fault => exact (failsAs_refusal _ fault).congr fun kind => by simp
  | ran child =>
      have started : FailsAs Fault.category (· = .compiler)
          (StartedEscapes compiler payload child) (job.outcome child) := by
        cases payload with
        | ok => exact failsAs_outcome child
        | error fault => exact .of_crash rfl fun _ => Iff.rfl
      refine started.congr fun kind => ?_
      constructor
      · exact fun escapes => .inr ⟨child, rfl, escapes⟩
      · rintro (⟨⟨⟩, _⟩ | ⟨_, ⟨⟩, escapes⟩)
        exact escapes

/-! ## The whole -/

theorem failsAs_job :
    FailsAs Fault.category (· = .compiler)
      (fun kind => compiler.command ≠ [] ∧ ∃ cause, Json.Stops cause (titledValue schema root) ∧
        cause.category = .crash kind) (compiler.job schema root) := by
  cases configured : compiler.command with
  | nil =>
      have job : compiler.job schema root = .error .noCommand := by
        rw [job, configured]
        rfl
      rw [job]
      exact .of_fault rfl (by rintro _ ⟨⟩) (by simp)
  | cons word words =>
      have command : compiler.command ≠ [] := configured ▸ List.cons_ne_nil word words
      -- Whatever stops the writing is what the writing fails with.
      have fails {cause : Json.Unwritable} (stops : Json.Stops cause (titledValue schema root)) :
          payload schema root = .error cause := stops.write
      cases written : payload schema root with
      | ok input =>
          rw [job_eq_ok.2 ⟨command, .ok input, written, rfl⟩]
          refine .of_ok _ ?_
          rintro _ ⟨_, _, stops, _⟩
          cases written.symm.trans (fails stops)
      | error cause =>
          obtain stops | ⟨fault, rfl, _⟩ := Json.stops_or_half written
          · have job : compiler.job schema root = .error (.unwritable cause) := by
              rw [job, configured, written]
              cases cause with
              | half fault => exact absurd rfl (stops.ne_half fault)
              | _ => rfl
            obtain ⟨kind, crash⟩ : ∃ kind, cause.category = .crash kind := by
              cases cause <;> exact ⟨_, rfl⟩
            rw [job]
            refine .of_crash crash fun other => ?_
            constructor
            · rintro ⟨_, another, also, same⟩
              cases written.symm.trans (fails also)
              exact Category.crash.inj (same.symm.trans crash)
            · rintro rfl
              exact ⟨List.cons_ne_nil word words, cause, stops, crash⟩
          · rw [job_eq_ok.2 ⟨command, .error fault, written, rfl⟩]
            refine .of_ok _ ?_
            rintro _ ⟨_, _, stops, _⟩
            cases written.symm.trans (fails stops)
            exact stops.ne_half fault rfl

/-- What a job offers to its program. -/
theorem offers_iff (compiler : Compiler) {input : Bytes} :
    Offers schema root input ↔ ∃ payload, Compiler.payload schema root = payload.mapError .half ∧
      Job.input ⟨compiler.arguments, payload, compiler.timeout⟩ = input := by
  constructor
  · intro offers
    cases offers with
    | text written => exact ⟨.ok _, written, rfl⟩
    | nothing broken =>
        obtain ⟨fault, failed⟩ := Json.exists_write_eq_half_iff.2 ⟨broken.writable, broken.broken⟩
        exact ⟨.error fault, failed, rfl⟩
  · rintro ⟨payload, made, rfl⟩
    cases payload with
    | ok text => exact .text made
    | error fault =>
        obtain ⟨writable, broken⟩ := Json.exists_write_eq_half_iff.1 ⟨fault, made⟩
        exact .nothing ⟨writable, broken⟩

/-- Declarations are the output of a program that got the input and finished. -/
theorem declarations_eq_ok {text : String} :
    declarations compiler schema root programs files = .ok text ↔
      compiler.command ≠ [] ∧ ∃ input, payload schema root = .ok input ∧
        ∃ child, programs files compiler.arguments (Utf8.encodeString input) = .ran child ∧
          Finished compiler child ∧ Utf8.encodeString text = child.output := by
  rw [declarations, except_bind_eq_ok]
  constructor
  · rintro ⟨_, made, ran⟩
    obtain ⟨configured, payload, written, rfl⟩ := job_eq_ok.1 made
    obtain ⟨input, child, encodable, launched, gave⟩ := run_job_eq_ok.1 ran
    obtain rfl : payload = .ok input := encodable
    exact ⟨configured, input, written, child, launched, outcome_eq_ok.1 gave⟩
  · rintro ⟨configured, input, written, child, launched, gave⟩
    exact ⟨_, job_eq_ok.2 ⟨configured, .ok input, written, rfl⟩,
      run_job_eq_ok.2 ⟨input, child, rfl, launched, outcome_eq_ok.2 gave⟩⟩

/-- What escapes is found before there is a job, when its program is started, or of the program that
has been started. -/
theorem escapes_iff {kind : Crash} : Escapes compiler schema root programs files kind ↔
    (compiler.command ≠ [] ∧ ∃ cause, Json.Stops cause (titledValue schema root) ∧
      cause.category = .crash kind) ∨
    ∃ job, compiler.job schema root = .ok job ∧
      (LaunchEscapes (programs files compiler.arguments job.input) kind ∨
        ∃ child, programs files compiler.arguments job.input = .ran child ∧
          StartedEscapes compiler job.payload child kind) := by
  constructor
  · intro escapes
    cases escapes with
    | input configured stops crash => exact .inl ⟨configured, _, stops, crash⟩
    | start configured offers refused =>
        obtain ⟨payload, written, rfl⟩ := (offers_iff compiler).1 offers
        exact .inr ⟨_, job_eq_ok.2 ⟨configured, payload, written, rfl⟩, .inl refused⟩
    | half configured broken ran =>
        obtain ⟨fault, failed⟩ := Json.exists_write_eq_half_iff.2 ⟨broken.writable, broken.broken⟩
        exact .inr ⟨_, job_eq_ok.2 ⟨configured, .error fault, failed, rfl⟩, .inr ⟨_, ran, rfl⟩⟩
    | child configured written ran found =>
        exact .inr ⟨_, job_eq_ok.2 ⟨configured, .ok _, written, rfl⟩, .inr ⟨_, ran, found⟩⟩
  · rintro (⟨configured, cause, stops, crash⟩ | ⟨_, made, escapes⟩)
    · exact .input configured stops crash
    · obtain ⟨configured, payload, written, rfl⟩ := job_eq_ok.1 made
      rcases escapes with refused | ⟨child, ran, started⟩
      · exact .start configured ((offers_iff compiler).2 ⟨payload, written, rfl⟩) refused
      · cases payload with
        | ok input => exact .child configured written ran started
        | error fault =>
            obtain rfl : kind = .unencodable := started
            obtain ⟨writable, broken⟩ := Json.exists_write_eq_half_iff.1 ⟨fault, written⟩
            exact .half configured ⟨writable, broken⟩ ran

theorem failsAs_declarations :
    FailsAs Fault.category (· = .compiler) (Escapes compiler schema root programs files)
      (declarations compiler schema root programs files) := by
  have later (job : Job) (made : compiler.job schema root = .ok job) :
      FailsAs Fault.category (· = .compiler)
        (fun kind => LaunchEscapes (programs files compiler.arguments job.input) kind ∨
          ∃ child, programs files compiler.arguments job.input = .ran child ∧
            StartedEscapes compiler job.payload child kind)
        (job.run programs files).2 := by
    obtain ⟨_, payload, _, rfl⟩ := job_eq_ok.1 made
    exact failsAs_run payload
  exact (failsAs_job.bind _ later).congr fun kind => escapes_iff.symm

end RouteTypes.Compiler
