import RouteTypes.Run

/-!
# Computations with effects and failures

What is known of the parts of a computation once its outcome is known. The lemmas are about any
state and any type of failures, so they serve the resolution of references as well as runs.
-/

namespace RouteTypes

section Computation

variable {σ ε α β : Type} {step : ExceptT ε (StateM σ) α} {next : α → ExceptT ε (StateM σ) β}
variable {before after : σ}

theorem run_bind_ok {value : α} (ran : step.run.run before = (.ok value, after)) :
    (step >>= next).run.run before = (next value).run.run after := by
  rw [ExceptT.run_bind, StateT.run_bind, ran]
  rfl

theorem run_bind_error {fault : ε} (ran : step.run.run before = (.error fault, after)) :
    (step >>= next).run.run before = (.error fault, after) := by
  rw [ExceptT.run_bind, StateT.run_bind, ran]
  rfl

theorem run_get (state : σ) :
    (get : ExceptT ε (StateM σ) σ).run.run state = (.ok state, state) :=
  rfl

/-- What succeeds does so in each of its steps. -/
theorem run_bind_eq_ok {result : β} (success : ((step >>= next).run.run before).1 = .ok result) :
    ∃ value between, step.run.run before = (.ok value, between) ∧
      ((next value).run.run between).1 = .ok result := by
  cases ran : step.run.run before with
  | mk outcome between =>
      cases outcome with
      | error fault =>
          rw [run_bind_error ran] at success
          cases success
      | ok value =>
          rw [run_bind_ok ran] at success
          exact ⟨value, between, rfl, success⟩

end Computation

theorem run_ofExcept_eq {α : Type} (result : Except Failure α) (world : World) :
    (Run.ofExcept result).run.run world = (result, world) := by
  cases result <;> rfl

theorem run_ofExcept_eq_ok {α : Type} {result : Except Failure α} {value : α}
    {world after : World} :
    (Run.ofExcept result).run.run world = (.ok value, after) ↔
      result = .ok value ∧ world = after := by
  rw [run_ofExcept_eq, Prod.mk.injEq]

/-- Compiling changes nothing but the files. -/
theorem run_compile (job : Compiler.Job) (world : World) :
    (Run.compile job).run.run world =
      ((job.run world.host.programs world.host.files).2.mapError .compiler,
        world.withFiles (job.run world.host.programs world.host.files).1) :=
  run_ofExcept_eq _ _

theorem mapError_eq_ok {ε γ α : Type} {result : Except ε α} {cause : ε → γ} {value : α} :
    result.mapError cause = .ok value ↔ result = .ok value := by
  cases result with
  | error fault => constructor <;> rintro ⟨⟩
  | ok found => constructor <;> rintro ⟨⟩ <;> rfl

theorem eq_ok_of_toOption {ε α : Type} {result : Except ε α} {value : α}
    (given : result.toOption = some value) : result = .ok value := by
  cases result with
  | error fault => cases given
  | ok found =>
      cases given
      rfl

theorem exists_ok_of_isSome {ε α : Type} {result : Except ε α}
    (given : result.toOption.isSome = true) : ∃ value, result = .ok value :=
  (Option.isSome_iff_exists.1 given).imp fun _ => eq_ok_of_toOption

theorem run_compile_eq_ok {job : Compiler.Job} {world after : World} {output : String} :
    (Run.compile job).run.run world = (.ok output, after) ↔
      (job.run world.host.programs world.host.files).2 = .ok output ∧
        world.withFiles (job.run world.host.programs world.host.files).1 = after := by
  rw [run_compile, Prod.mk.injEq, mapError_eq_ok]

/-- A partial result that a run goes on with is there, and the world is as before. -/
theorem run_ofExcept {ε α : Type} {result : Except ε α} {cause : ε → Failure}
    {world after : World} {value : α}
    (ran : (Run.ofExcept (result.mapError cause)).run.run world = (.ok value, after)) :
    result = .ok value ∧ after = world := by
  cases result with
  | error failure => cases ran
  | ok found =>
      cases ran
      exact ⟨rfl, rfl⟩

/-! ## Messages -/

/-- The world once messages of a level have been shown. -/
def World.told (world : World) (level : Level) (messages : List String) : World :=
  { world with messages :=
      world.messages ++ String.join (messages.map (world.diagnostics.render level)) }

@[simp] theorem World.told_nil (world : World) (level : Level) : world.told level [] = world := by
  simp [told]

theorem World.told_cons (world : World) (level : Level) (message : String)
    (messages : List String) :
    world.told level (message :: messages) = (world.told level [message]).told level messages := by
  simp [told, String.append_assoc]

theorem run_say (level : Level) (message : String) (world : World) :
    (Run.say level message).run.run world = (.ok (), world.told level [message]) := by
  simp only [World.told, List.map_cons, List.map_nil, String.join_cons, String.join_nil,
    String.append_empty]
  rfl

/-- A message for each of several things. -/
theorem run_forM_say {α : Type} (level : Level) (message : α → String) (items : List α)
    (world : World) :
    (items.forM fun item => Run.say level (message item)).run.run world =
      (.ok (), world.told level (items.map message)) := by
  induction items generalizing world with
  | nil =>
      rw [List.map_nil, World.told_nil]
      rfl
  | cons item rest ih =>
      rw [List.map_cons, World.told_cons, ← ih]
      exact run_bind_ok (run_say level (message item) world)

/-- A run shows its messages behind what has been shown before, whether it fails or not. -/
def Run.Adds {α : Type} (run : Run α) : Prop :=
  ∀ world, ∃ shown, (run.run.run world).2.messages = world.messages ++ shown

namespace Run.Adds

variable {α β : Type}

theorem of_unchanged {run : Run α}
    (unchanged : ∀ world, (run.run.run world).2.messages = world.messages) : run.Adds :=
  fun world => ⟨"", by rw [unchanged, String.append_empty]⟩

theorem say (level : Level) (message : String) : (Run.say level message).Adds :=
  fun world => ⟨_, congrArg (·.2.messages) (run_say level message world)⟩

theorem ofExcept (result : Except Failure α) : (Run.ofExcept result).Adds :=
  of_unchanged fun world => by rw [run_ofExcept_eq]

theorem compile (job : Compiler.Job) : (Run.compile job).Adds :=
  of_unchanged fun world => by rw [run_compile]; rfl

theorem bind {run : Run α} {next : α → Run β} (first : run.Adds)
    (then_ : ∀ value, (next value).Adds) : (run >>= next).Adds := by
  intro world
  obtain ⟨shown, ended⟩ := first world
  cases ran : run.run.run world with
  | mk outcome between =>
      rw [ran] at ended
      cases outcome with
      | error failure => exact ⟨shown, by rw [run_bind_error ran]; exact ended⟩
      | ok value =>
          obtain ⟨more, finished⟩ := then_ value between
          exact ⟨shown ++ more, by
            rw [run_bind_ok ran, finished, ended, String.append_assoc]⟩

end Run.Adds

/-! ## Runs without effects -/

/-- No program changes files. -/
def Programs.Idle (programs : Programs) : Prop :=
  ∀ files arguments input child, programs files arguments input = .ran child → child.files = files

theorem Programs.Idle.files_run {programs : Programs} (idle : programs.Idle) (job : Compiler.Job)
    (files : FileSystem) : (job.run programs files).1 = files := by
  unfold Compiler.Job.run
  dsimp only
  split
  next => rfl
  next => rfl
  next => rfl
  next child launched => exact idle _ _ _ child launched

/-- With programs of a kind, a run leaves the host and the output as they are, whether it fails or
not. -/
def Run.Quiet {α : Type} (kind : Programs → Prop) (run : Run α) : Prop :=
  ∀ world, kind world.host.programs →
    (run.run.run world).2.host = world.host ∧ (run.run.run world).2.output = world.output

namespace Run.Quiet

variable {α β : Type} {kind : Programs → Prop}

theorem pure (value : α) : Run.Quiet kind (pure value) := fun _ _ => ⟨rfl, rfl⟩

theorem get : Run.Quiet kind get := fun _ _ => ⟨rfl, rfl⟩

theorem ofExcept (result : Except Failure α) : Run.Quiet kind (Run.ofExcept result) := by
  intro world _
  simp [run_ofExcept_eq]

theorem say (level : Level) (message : String) : Run.Quiet kind (Run.say level message) := by
  intro world _
  simp [run_say, World.told]

theorem remember (requests : List String) : Run.Quiet kind (Run.remember requests) :=
  fun _ _ => ⟨rfl, rfl⟩

theorem compile (job : Compiler.Job) : Run.Quiet Programs.Idle (Run.compile job) := by
  intro world idle
  rw [run_compile, idle.files_run]
  exact ⟨rfl, rfl⟩

theorem bind {run : Run α} {next : α → Run β} (first : Run.Quiet kind run)
    (then_ : ∀ value, Run.Quiet kind (next value)) : Run.Quiet kind (run >>= next) := by
  intro world isKind
  obtain ⟨host, output⟩ := first world isKind
  cases ran : run.run.run world with
  | mk outcome between =>
      rw [ran] at host output
      cases outcome with
      | error failure =>
          rw [run_bind_error ran]
          exact ⟨host, output⟩
      | ok value =>
          rw [run_bind_ok ran, ← host, ← output]
          exact then_ value between (host ▸ isKind)

theorem load (source : Host → Contract.Loaded Value) : Run.Quiet kind (Run.load source) :=
  .bind .get fun _ => .bind (.remember _) fun _ => .ofExcept _

theorem forM {items : List α} {each : α → Run Unit} (quiet : ∀ item, Run.Quiet kind (each item)) :
    Run.Quiet kind (items.forM each) := by
  induction items with
  | nil => exact .pure ()
  | cons item rest ih => exact .bind (quiet item) fun _ => ih

/-- Where a run without effects succeeds, the host and the output are as before. -/
theorem of_ok {run : Run α} (quiet : Run.Quiet kind run) {world after : World} {value : α}
    (isKind : kind world.host.programs) (ran : run.run.run world = (.ok value, after)) :
    after.host = world.host ∧ after.output = world.output := by
  simpa [ran] using quiet world isKind

end Run.Quiet

/-- What references of the document of a contract lead to, as a host loads it. -/
def loads (host : Host) (location : String) : Except Contract.SourceFault Value :=
  (Contract.loadReferenced host true location).outcome

/-- A host that has nothing to offer. -/
def Host.bare : Host := ⟨⟨[], []⟩, [], [], [], "Linux", [], fun _ _ _ => .missing⟩

/-- A world around nothing, in which nothing has been done. -/
def World.bare : World := .start .bare ⟨true, false, false, 80, []⟩

end RouteTypes
