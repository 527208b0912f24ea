import RouteTypes.Proofs.Check.Success
import RouteTypes.Proofs.Run
import RouteTypes.Settings.Layer

/-!
# What settings come from

Settings are about several topics, and each topic is settled on its own: by the highest of the
arguments and the environment that names it, and where neither does by the project
(`resolve_layered`). So nothing that stands below the layer that settles a topic matters for this
topic. What the project says is the value of a key of its file, or the default.
-/

namespace RouteTypes

/-! ## Topics -/

/-- What settings are about. The file and the address of the contract are one topic, and each
setting of the compiler is one of its own. -/
inductive Topic where
  | contract
  | output
  | routesFile
  | routes
  | patterns
  | schemaOutput
  | schemaIndent
  | command
  | ignoresBounds
  | banner
  | timeout

namespace Topic

/-- What settings hold about a topic. -/
def Content : Topic → Type
  | .contract => Option String × Option String
  | .output | .routesFile | .schemaOutput | .banner => Option String
  | .routes | .patterns | .command => List String
  | .schemaIndent => Int
  | .ignoresBounds => Bool
  | .timeout => Binary64

/-- What a layer above the project can name about a topic. The command is one line there. -/
def Wording : Topic → Type
  | .contract => Option String × Option String
  | .output | .routesFile | .schemaOutput | .command => String
  | .routes | .patterns => List String
  | .schemaIndent | .ignoresBounds | .banner | .timeout => Empty

/-- What is named about a topic means some content. A line has to be a command. -/
def Means : (topic : Topic) → topic.Wording → topic.Content → Prop
  | .contract, pair, content => content = pair
  | .output, path, content => content = some path
  | .routesFile, path, content => content = some path
  | .routes, listed, content => content = listed
  | .patterns, listed, content => content = listed
  | .schemaOutput, path, content => content = some path
  | .command, line, words => Text.commandWords line = .ok words ∧ words ≠ []

theorem Means.unique {topic : Topic} {wording : topic.Wording} {content other : topic.Content}
    (means : topic.Means wording content) (also : topic.Means wording other) : content = other := by
  cases topic with
  | command => exact Except.ok.inj (means.1.symm.trans also.1)
  | schemaIndent | ignoresBounds | banner | timeout => cases wording
  | _ => exact means.trans also.symm

end Topic

/-- What settings hold about a topic. -/
def Settings.about (settings : Settings) : (topic : Topic) → topic.Content
  | .contract => (settings.contractFile, settings.contractAddress)
  | .output => settings.output
  | .routesFile => settings.routesFile
  | .routes => settings.routes
  | .patterns => settings.patterns
  | .schemaOutput => settings.schemaOutput
  | .schemaIndent => settings.schemaIndent
  | .command => settings.compiler.command
  | .ignoresBounds => settings.compiler.ignoresBounds
  | .banner => settings.compiler.banner
  | .timeout => settings.compiler.timeout

/-- The topics are all that settings hold. -/
theorem Settings.ext_about {settings other : Settings}
    (same : ∀ topic, settings.about topic = other.about topic) : settings = other := by
  obtain ⟨_, _, _, _, _, _, _, _, _, _, _, _⟩ := settings
  obtain ⟨_, _, _, _, _, _, _, _, _, _, _, _⟩ := other
  cases same .contract
  cases same .output
  cases same .routesFile
  cases same .routes
  cases same .patterns
  cases same .schemaOutput
  cases same .schemaIndent
  cases same .command
  cases same .ignoresBounds
  cases same .banner
  cases same .timeout
  rfl

/-! ## What layers name -/

/-- A text is there and is not empty. -/
def Filled (text : Option String) : Prop :=
  ∃ word, text = some word ∧ word ≠ ""

/-- What a layer names about each topic. -/
abbrev Naming := (topic : Topic) → topic.Wording → Prop

/-- What arguments name. One of the two arguments for the contract has to be filled, and both count
then. The arguments for files beside the contract may be empty texts. -/
def Arguments.Names (arguments : Arguments) : Naming
  | .contract, pair =>
      (Filled arguments.contractFile ∨ Filled arguments.contractAddress) ∧
        pair = (arguments.contractFile, arguments.contractAddress)
  | .output, path => arguments.output = some path
  | .routesFile, path => arguments.routesFile = some path
  | .routes, listed => listed ≠ [] ∧ arguments.routes = listed
  | .patterns, listed => listed ≠ [] ∧ arguments.patterns = listed
  | .schemaOutput, path => arguments.schemaOutput = some path
  | .command, line => line ≠ "" ∧ arguments.compiler = some line

/-- What an environment names: the contract, the output and the command of the compiler, where a
variable for it is filled. -/
def Environment.Names (environment : Environment) : Naming
  | .contract, pair =>
      (Filled (environment.lookup "APITYPES_CONTRACTS_FILE") ∨
        Filled (environment.lookup "APITYPES_CONTRACTS_URL")) ∧
        pair = (filled? (environment.lookup "APITYPES_CONTRACTS_FILE"),
          filled? (environment.lookup "APITYPES_CONTRACTS_URL"))
  | .output, path => path ≠ "" ∧ environment.lookup "APITYPES_OUTPUT" = some path
  | .command, line => line ≠ "" ∧ environment.lookup "APITYPES_COMPILER" = some line
  | _, _ => False

variable {project otherProject settings : Settings} {topic : Topic} {content other : topic.Content}

/-- Layers above a project settle a topic with some content: the highest of them that names the
topic does, and where none does the project. -/
inductive Settles (project : Settings) (topic : Topic) : List Naming → topic.Content → Prop where
  | project : Settles project topic [] (project.about topic)
  | named {layer : Naming} {wording : topic.Wording} {content : topic.Content}
      (names : layer topic wording) (means : topic.Means wording content) (below : List Naming) :
      Settles project topic (layer :: below) content
  | silent {layer : Naming} {below : List Naming} {content : topic.Content}
      (silent : ∀ wording, ¬layer topic wording) (settled : Settles project topic below content) :
      Settles project topic (layer :: below) content

/-- A layer names one thing at most about each topic. -/
def Naming.Single (layer : Naming) : Prop :=
  ∀ topic first second, layer topic first → layer topic second → first = second

/-- What stands below a layer that names a topic does not matter for it. -/
theorem Settles.eq_of_named (layers : List Naming) {below otherBelow : List Naming}
    (single : ∀ layer ∈ layers, layer.Single)
    (named : ∃ layer ∈ layers, ∃ wording, layer topic wording)
    (settled : Settles project topic (layers ++ below) content)
    (alsoSettled : Settles otherProject topic (layers ++ otherBelow) other) : content = other := by
  -- both are settled at the first of the layers that names the topic, and none above it matters
  induction layers with
  | nil =>
      obtain ⟨_, impossible, _⟩ := named
      cases impossible
  | cons layer layers ih =>
      cases settled with
      | named names means =>
          cases alsoSettled with
          | named alsoNames alsoMeans =>
              cases single layer List.mem_cons_self topic _ _ names alsoNames
              exact means.unique alsoMeans
          | silent silent => exact absurd names (silent _)
      | silent silent settled =>
          cases alsoSettled with
          | named names => exact absurd names (silent _)
          | silent _ alsoSettled =>
              refine ih (fun other member => single other (List.mem_cons_of_mem _ member)) ?_
                settled alsoSettled
              obtain ⟨other, member, wording, names⟩ := named
              rcases List.mem_cons.1 member with rfl | member
              · exact absurd names (silent wording)
              · exact ⟨other, member, wording, names⟩

/-! ## Layers -/

@[simp] theorem filled?_eq_some {text : Option String} {word : String} :
    filled? text = some word ↔ word ≠ "" ∧ text = some word := by
  simp [filled?, Option.filter_eq_some_iff, and_comm]

theorem isSome_filled? {text : Option String} : (filled? text).isSome = true ↔ Filled text := by
  simp only [Option.isSome_iff_exists, filled?_eq_some, Filled, and_comm]

namespace Layer

variable {layer : Layer} {arguments : Arguments} {environment : Environment}

/-- What a layer holds about a topic. -/
def on (layer : Layer) : (topic : Topic) → Option topic.Wording
  | .contract => layer.contract
  | .output => layer.output
  | .routesFile => layer.routesFile
  | .routes => layer.routes
  | .patterns => layer.patterns
  | .schemaOutput => layer.schemaOutput
  | .command => layer.compiler
  | .schemaIndent | .ignoresBounds | .banner | .timeout => none

@[simp]
theorem pair?_eq_some {file address : Option String} {pair : Option String × Option String} :
    pair? file address = some pair ↔
      (Filled file ∨ Filled address) ∧ pair = (file, address) := by
  have either : ((filled? file).isSome || (filled? address).isSome) = true ↔
      Filled file ∨ Filled address := by
    rw [Bool.or_eq_true, isSome_filled?, isSome_filled?]
  rw [← either, pair?]
  split
  next named => simp [named, @eq_comm _ pair]
  next unnamed => simp [unnamed]

@[simp] theorem items?_eq_some {list items : List String} :
    items? list = some items ↔ items ≠ [] ∧ list = items := by
  cases list with
  | nil => simp [items?, @eq_comm _ []]
  | cons item rest =>
      simp only [items?, List.isEmpty_cons, Bool.false_eq_true, if_false, Option.some.injEq]
      exact ⟨fun same => ⟨same ▸ List.cons_ne_nil _ _, same⟩, And.right⟩

@[simp] theorem on_ofArguments {wording : topic.Wording} :
    (ofArguments arguments).on topic = some wording ↔ arguments.Names topic wording := by
  cases topic with
  | contract => exact pair?_eq_some
  | output | routesFile | schemaOutput => exact Iff.rfl
  | routes | patterns => exact items?_eq_some
  | command => exact filled?_eq_some
  | schemaIndent | ignoresBounds | banner | timeout => cases wording

@[simp] theorem filled_filled? {text : Option String} : Filled (filled? text) ↔ Filled text := by
  simp only [Filled, filled?_eq_some]
  grind

@[simp] theorem on_ofEnvironment {wording : topic.Wording} :
    (ofEnvironment environment).on topic = some wording ↔
      Environment.Names environment topic wording := by
  cases topic with
  | contract =>
      refine pair?_eq_some.trans ?_
      rw [filled_filled?, filled_filled?]
      rfl
  | output | command => exact filled?_eq_some
  | routesFile | routes | patterns | schemaOutput => exact iff_of_false nofun id
  | schemaIndent | ignoresBounds | banner | timeout => cases wording

/-- One layer above another holds what the upper one holds, and otherwise what the lower one
does. -/
@[simp] theorem on_above (upper lower : Layer) (topic : Topic) :
    (upper.above lower).on topic = (upper.on topic).or (lower.on topic) := by
  cases topic <;> rfl

/-- A topic has some content under a layer: what is said about it means this, and where nothing is
said the project has it. -/
def Gives (project : Settings) (topic : Topic) : Option topic.Wording → topic.Content → Prop
  | some wording, content => topic.Means wording content
  | none, content => content = project.about topic

theorem Gives.unique {wording : Option topic.Wording} (gives : Gives project topic wording content)
    (also : Gives project topic wording other) : content = other := by
  cases wording with
  | some wording => exact Topic.Means.unique gives also
  | none => exact gives.trans also.symm

/-- The command under a layer is what the layer names as a line, or that of the project. -/
@[simp] theorem command_eq_ok {words : List String} :
    layer.command project.compiler.command = .ok words ↔
      Gives project .command (layer.on .command) words := by
  unfold command
  change _ ↔ Gives project .command layer.compiler words
  cases layer.compiler with
  | none => exact ⟨fun same => (Except.ok.inj same).symm, fun same => congrArg _ same.symm⟩
  | some line =>
      change _ ↔ Text.commandWords line = .ok words ∧ words ≠ []
      dsimp only
      split <;> grind

theorem gives_of_apply (success : layer.apply project = .ok settings) (topic : Topic) :
    Gives project topic (layer.on topic) (settings.about topic) := by
  obtain ⟨words, isCommand, same⟩ := except_bind_eq_ok.1 success
  cases same
  rw [command_eq_ok] at isCommand
  obtain ⟨contract, output, routesFile, routes, patterns, schemaOutput, compiler⟩ := layer
  cases topic with
  | contract => cases contract <;> rfl
  | output => cases output <;> rfl
  | routesFile => cases routesFile <;> rfl
  | routes => cases routes <;> rfl
  | patterns => cases patterns <;> rfl
  | schemaOutput => cases schemaOutput <;> rfl
  | command => exact isCommand
  | schemaIndent | ignoresBounds | banner | timeout => rfl

/-- Settings under a layer have everything that they have about a topic under this layer. -/
@[simp] theorem apply_eq_ok :
    layer.apply project = .ok settings ↔
      ∀ topic, Gives project topic (layer.on topic) (settings.about topic) := by
  refine ⟨gives_of_apply, fun gives => ?_⟩
  obtain ⟨result, success⟩ : ∃ result, layer.apply project = .ok result :=
    ⟨_, except_bind_eq_ok.2 ⟨_, command_eq_ok.2 (gives .command), rfl⟩⟩
  rw [success]
  exact congrArg _ (Settings.ext_about fun topic =>
    (gives_of_apply success topic).unique (gives topic))

@[simp]
theorem settles_nil_iff : Settles project topic [] content ↔ content = project.about topic := by
  constructor
  · rintro ⟨⟩
    rfl
  · rintro rfl
    exact .project

/-- The highest of several layers settles a topic that it names. -/
theorem settles_cons_iff {naming : Naming} {below : List Naming} {said : Option topic.Wording}
    (names : ∀ wording, said = some wording ↔ naming topic wording) :
    Settles project topic (naming :: below) content ↔
      said.elim (Settles project topic below content) fun wording =>
        topic.Means wording content := by
  cases said with
  | some wording =>
      have isNamed := (names wording).1 rfl
      constructor
      · intro settled
        cases settled with
        | named alsoNames means =>
            cases (names _).2 alsoNames
            exact means
        | silent silent => exact absurd isNamed (silent wording)
      · exact fun means => .named isNamed means below
  | none =>
      have silent (wording : topic.Wording) : ¬naming topic wording := fun named => by
        cases (names wording).2 named
      constructor
      · intro settled
        cases settled with
        | named named => exact absurd named (silent _)
        | silent _ settled => exact settled
      · exact .silent silent

/-- The arguments and the environment settle a topic as the layer does that is made of them. -/
theorem settles_iff_gives :
    Settles project topic [arguments.Names, Environment.Names environment] content ↔
      Gives project topic (((ofArguments arguments).above (ofEnvironment environment)).on topic)
        content := by
  rw [on_above, settles_cons_iff fun _ => on_ofArguments]
  cases (ofArguments arguments).on topic with
  | some wording => exact Iff.rfl
  | none =>
      rw [settles_cons_iff fun _ => on_ofEnvironment]
      cases (ofEnvironment environment).on topic with
      | some wording => exact Iff.rfl
      | none => exact settles_nil_iff

theorem single_arguments (arguments : Arguments) : arguments.Names.Single := by
  intro topic first second names alsoNames
  exact Option.some.inj ((on_ofArguments.2 names).symm.trans (on_ofArguments.2 alsoNames))

theorem single_environment (environment : Environment) :
    Naming.Single (Environment.Names environment) := by
  intro topic first second names alsoNames
  exact Option.some.inj ((on_ofEnvironment.2 names).symm.trans (on_ofEnvironment.2 alsoNames))

end Layer

/-! ## The project -/

/-- The settings of the compiler are those of a record. -/
structure Compiler.Chosen (entries : Entries) (compiler : Compiler) : Prop where
  command : Check.Chosen default.command entries "command" (Check.list Check.text) compiler.command
  ignoresBounds : Check.Chosen default.ignoresBounds entries "ignore_min_and_max_items" Check.truth
    compiler.ignoresBounds
  banner : Check.Chosen default.banner entries "banner_comment" (Check.optional Check.text)
    compiler.banner
  timeout : Check.Chosen default.timeout entries "timeout" Check.number compiler.timeout

theorem Compiler.check_eq_ok {value : Value} {compiler : Compiler} :
    Compiler.check value = .ok compiler ↔
      ∃ entries, value = .mapping entries ∧ Compiler.Chosen entries compiler := by
  simp only [Compiler.check, Checked.bind_eq_ok, Checked.both_eq_ok, Checked.pure_eq_ok,
    Check.record_eq_ok_iff, Check.fieldOr_eq_ok_iff, Prod.exists]
  constructor
  · rintro ⟨entries, rfl, _, _, _, _, ⟨command, ignoresBounds, banner, timeout⟩, rfl⟩
    exact ⟨entries, rfl, command, ignoresBounds, banner, timeout⟩
  · rintro ⟨entries, rfl, chosen⟩
    exact ⟨entries, rfl, _, _, _, _,
      ⟨chosen.command, chosen.ignoresBounds, chosen.banner, chosen.timeout⟩, rfl⟩

namespace Settings

/-- The settings are those of a record. -/
structure Chosen (entries : Entries) (settings : Settings) : Prop where
  contractFile : Check.Chosen none entries "contracts_file" (Check.optional Check.text)
    settings.contractFile
  contractAddress : Check.Chosen none entries "contracts_url" (Check.optional Check.text)
    settings.contractAddress
  output : Check.Chosen none entries "output" (Check.optional Check.text) settings.output
  routesFile : Check.Chosen none entries "paths_file" (Check.optional Check.text)
    settings.routesFile
  routes : Check.Chosen [] entries "paths" (Check.list Check.text) settings.routes
  patterns : Check.Chosen [] entries "path_patterns" (Check.list Check.text) settings.patterns
  schemaOutput : Check.Chosen none entries "schema_output" (Check.optional Check.text)
    settings.schemaOutput
  schemaIndent : Check.Chosen 2 entries "schema_indent" Check.integer settings.schemaIndent
  compiler : Check.Chosen .default entries "compiler" Compiler.check settings.compiler

@[simp] theorem check_eq_ok {value : Value} :
    check value = .ok settings ↔ ∃ entries, value = .mapping entries ∧ Chosen entries settings := by
  simp only [check, Checked.bind_eq_ok, Checked.both_eq_ok, Checked.pure_eq_ok,
    Check.record_eq_ok_iff, Check.fieldOr_eq_ok_iff, Prod.exists]
  constructor
  · rintro ⟨entries, rfl, _, _, _, _, _, _, _, _, _, ⟨contractFile, contractAddress, output,
      routesFile, routes, patterns, schemaOutput, schemaIndent, compiler⟩, rfl⟩
    exact ⟨entries, rfl, contractFile, contractAddress, output, routesFile, routes, patterns,
      schemaOutput, schemaIndent, compiler⟩
  · rintro ⟨entries, rfl, chosen⟩
    exact ⟨entries, rfl, _, _, _, _, _, _, _, _, _, ⟨chosen.contractFile, chosen.contractAddress,
      chosen.output, chosen.routesFile, chosen.routes, chosen.patterns, chosen.schemaOutput,
      chosen.schemaIndent, chosen.compiler⟩, rfl⟩

variable {host : Host} {arguments : Arguments}

/-- Where the settings of a project stand. -/
def projectFile (host : Host) : FilePath :=
  host.directory.join (.ofString projectFileName)

/-- The settings of a project: those of the object in its file, or the defaults where there is no
such file. -/
inductive OfFile (host : Host) (project : Settings) : Prop where
  | absent (missing : host.files.isFile (projectFile host) = .ok false)
      (isDefault : project = .default)
  | present {bytes : Bytes} {text : String} {entries : Entries}
      (isFile : host.files.isFile (projectFile host) = .ok true)
      (content : host.files.read (projectFile host) = .ok bytes)
      (decoded : Text.ofFile bytes = .ok text) (object : Json.read text = .ok (.mapping entries))
      (chosen : Chosen entries project)

/-- There is an object in the file of a project where there is a value, and only then. -/
theorem projectValue_eq_ok {found : Option Value} :
    projectValue host = .ok found ↔
      host.files.isFile (projectFile host) = .ok false ∧ found = none ∨
      host.files.isFile (projectFile host) = .ok true ∧ ∃ bytes text entries,
        host.files.read (projectFile host) = .ok bytes ∧ Text.ofFile bytes = .ok text ∧
          Json.read text = .ok (.mapping entries) ∧ found = some (.mapping entries) := by
  unfold projectValue
  rw [except_bind_eq_ok]
  constructor
  · rintro ⟨isFile, asked, success⟩
    cases isFile with
    | false =>
        cases success
        exact .inl ⟨mapError_eq_ok.1 asked, rfl⟩
    | true =>
        simp only [Bool.not_true, Bool.false_eq_true, if_false, except_bind_eq_ok,
          mapError_eq_ok] at asked success
        obtain ⟨bytes, content, text, decoded, success⟩ := success
        split at success
        case h_3 entries object =>
          cases success
          exact .inr ⟨asked, bytes, text, entries, content, decoded, object, rfl⟩
        all_goals cases success
  · rintro (⟨missing, rfl⟩ | ⟨isFile, bytes, text, entries, content, decoded, object, rfl⟩)
    · exact ⟨false, mapError_eq_ok.2 missing, rfl⟩
    · refine ⟨true, mapError_eq_ok.2 isFile, ?_⟩
      simp only [Bool.not_true, Bool.false_eq_true, if_false, except_bind_eq_ok,
        mapError_eq_ok]
      refine ⟨bytes, content, text, decoded, ?_⟩
      rw [object]
      rfl

@[simp] theorem ofProject_eq_ok : ofProject host = .ok project ↔ OfFile host project := by
  unfold ofProject
  rw [except_bind_eq_ok]
  constructor
  · rintro ⟨_, found, success⟩
    rcases projectValue_eq_ok.1 found with
      ⟨missing, rfl⟩ | ⟨isFile, _, _, entries, content, decoded, object, rfl⟩
    · cases success
      exact .absent missing rfl
    · obtain ⟨_, ⟨⟩, chosen⟩ := check_eq_ok.1 (mapError_eq_ok.1 success)
      exact .present isFile content decoded object chosen
  · intro ofFile
    cases ofFile with
    | absent missing isDefault =>
        subst isDefault
        exact ⟨none, projectValue_eq_ok.2 (.inl ⟨missing, rfl⟩), rfl⟩
    | present isFile content decoded object chosen =>
        exact ⟨_, projectValue_eq_ok.2 (.inr ⟨isFile, _, _, _, content, decoded, object, rfl⟩),
          mapError_eq_ok.2 (check_eq_ok.2 ⟨_, rfl, chosen⟩)⟩

/-! ## All layers -/

theorem resolve_eq_ok :
    resolve host arguments = .ok settings ↔ ∃ project, OfFile host project ∧ ∀ topic,
      Settles project topic [arguments.Names, Environment.Names host.environment]
        (settings.about topic) := by
  unfold resolve
  simp only [except_bind_eq_ok, ofProject_eq_ok, Layer.apply_eq_ok, Layer.settles_iff_gives]

/-- Settings result from arguments on a host exactly if each topic of theirs is settled by the
highest layer that names it: by the arguments, by the environment, or else by the project, which
has it from its file or from the defaults. So all that results from the same arguments is the same
about a topic that these name, and so it is, in the same environment, about one that this names. -/
theorem resolve_layered (host : Host) (arguments : Arguments) :
    (∀ settings, resolve host arguments = .ok settings ↔ ∃ project, OfFile host project ∧ ∀ topic,
      Settles project topic [arguments.Names, Environment.Names host.environment]
        (settings.about topic)) ∧
      ∀ settings other otherSettings topic, resolve host arguments = .ok settings →
        resolve other arguments = .ok otherSettings →
          (∃ wording, arguments.Names topic wording) ∨
            host.environment = other.environment ∧
              (∃ wording, Environment.Names host.environment topic wording) →
            settings.about topic = otherSettings.about topic := by
  refine ⟨fun settings => resolve_eq_ok, ?_⟩
  intro settings other otherSettings topic resolved alsoResolved named
  obtain ⟨project, _, settled⟩ := resolve_eq_ok.1 resolved
  obtain ⟨otherProject, _, alsoSettled⟩ := resolve_eq_ok.1 alsoResolved
  rcases named with byArguments | ⟨same, byEnvironment⟩
  · refine Settles.eq_of_named [arguments.Names] ?_ ?_ (settled topic) (alsoSettled topic)
    · simp [Layer.single_arguments]
    · simpa using byArguments
  · rw [← same] at alsoSettled
    refine Settles.eq_of_named [arguments.Names, Environment.Names host.environment] ?_ ?_
      (settled topic) (alsoSettled topic)
    · simp [Layer.single_arguments, Layer.single_environment]
    · exact ⟨_, List.mem_cons_of_mem _ List.mem_cons_self, byEnvironment⟩

/-- A project with an address, an output and a time for the compiler, in an environment with a file,
another output and a command. -/
def layeredHost : Host :=
  { Host.bare with
    files := ⟨[], [(["apitypes.json"], .file (Utf8.encodeString
      ("\x7b\"contracts_url\": \"https://a.test/x\", \"output\": \"p.ts\", " ++
        "\"compiler\": \x7b\"timeout\": 9\x7d\x7d")))]⟩
    environment := [("APITYPES_CONTRACTS_FILE", "local.json"), ("APITYPES_OUTPUT", "env.ts"),
      ("APITYPES_COMPILER", "npx json2ts")] }

/-- Arguments with an empty output and a route. -/
def layeredArguments : Arguments := ⟨none, none, some "", none, ["/a"], [], none, none⟩

/-- What results from `layeredArguments` on `layeredHost`. -/
def layeredSettings : Settings where
  contractFile := some "local.json"
  contractAddress := none
  output := some ""
  routesFile := none
  routes := ["/a"]
  patterns := []
  schemaOutput := none
  schemaIndent := 2
  compiler := ⟨["npx", "json2ts"], true, none, .ofInt 9⟩

/-- What results on `layeredHost` is settled by the three layers, and without the project there is
the same command. -/
theorem resolve_layered_here :
    resolve layeredHost layeredArguments = .ok layeredSettings ∧
      (∃ project, OfFile layeredHost project ∧ ∀ topic,
        Settles project topic [layeredArguments.Names, Environment.Names layeredHost.environment]
          (layeredSettings.about topic)) ∧
      ∃ settings, resolve { layeredHost with files := ⟨[], []⟩ } layeredArguments = .ok settings ∧
        layeredSettings.about .command = settings.about .command := by
  have resolved : resolve layeredHost layeredArguments = .ok layeredSettings :=
    eq_ok_of_toOption (by decide +kernel)
  have without : (resolve { layeredHost with files := ⟨[], []⟩ } layeredArguments).toOption.isSome =
      true := by decide +kernel
  obtain ⟨settings, found⟩ := Option.isSome_iff_exists.1 without
  obtain ⟨settled, same⟩ := resolve_layered layeredHost layeredArguments
  refine ⟨resolved, (settled _).1 resolved, settings, eq_ok_of_toOption found, ?_⟩
  have named : Environment.Names layeredHost.environment .command "npx json2ts" := by
    change ("npx json2ts" : String) ≠ "" ∧
      layeredHost.environment.lookup "APITYPES_COMPILER" = some "npx json2ts"
    decide
  exact same _ _ _ .command resolved (eq_ok_of_toOption found) (.inr ⟨rfl, _, named⟩)

end Settings

end RouteTypes
