import RouteTypes.Proofs.Failure
import RouteTypes.Proofs.FilePath
import RouteTypes.Proofs.FileSystem.Writing
import RouteTypes.Proofs.Json.Numeral
import RouteTypes.Proofs.Pattern.Reading
import RouteTypes.Proofs.Schema.Selection
import RouteTypes.Proofs.Settings
import RouteTypes.Proofs.Text.CommandWords
import RouteTypes.Proofs.Text.Utf8

/-!
# How settings fail

Settings and the rules of a run come from texts that users write, and most of what can be wrong with
these is answered for as a fault of the settings or of their use. What is not is listed in full
(`Settings.ResolveEscapes`, `Settings.RulesEscape`), so where none of it is found, settings and
rules are made or fail only in the documented ways (`Settings.resolve_and_rules_fail`). It can be
found: a file of a project that is no text is not answered for
(`Settings.undecodable_project_escapes`).
-/

namespace RouteTypes

/-! ## JSON in files -/

/-- What a file of JSON holds that nobody answers for: bytes that are no text, or an integer that is
too long, where everything before it is read. -/
inductive JsonEscapes (content : Bytes) : Crash → Prop where
  | bytes (undecodable : ∀ text, Utf8.encode text ≠ content) : JsonEscapes content .undecodable
  | integer {text : String} {count : Nat} (decoded : Text.ofFile content = .ok text)
      (overlong : Json.Overlong count .value (Json.skipSpace text.toList)) :
      JsonEscapes content .value

section Json

variable {ε α : Type} {category : ε → Category} {answered : Category → Prop} {content : Bytes}

/-- The text of a file is read as JSON, and what follows fails only for what it reads, and for an
integer that is too long in a way of its own. -/
theorem failsAs_json {next : String → Except ε α} (explain : Utf8.Fault → ε)
    (tell : Number.Fault → ε)
    (undecodable : ∀ fault, category (explain fault) = .crash .undecodable)
    (value : ∀ fault, category (tell fault) = .crash .value)
    (tells : ∀ text fault, Json.read text = .error (.number fault) →
      next text = .error (tell fault))
    (others : ∀ text, (∀ fault, Json.read text ≠ .error (.number fault)) →
      FailsAs category answered (fun _ => False) (next text)) :
    FailsAs category answered (JsonEscapes content)
      ((Text.ofFile content).mapError explain >>= next) := by
  have first : FailsAs category answered (fun kind => kind = .undecodable ∧
      ∃ fault, Text.ofFile content = .error fault) ((Text.ofFile content).mapError explain) :=
    .mapError (.of_kind fun fault _ => undecodable fault)
  have second (text : String) : FailsAs category answered
      (fun kind => kind = .value ∧ ∃ fault, Json.read text = .error (.number fault))
      (next text) := by
    by_cases number : ∃ fault, Json.read text = .error (.number fault)
    · obtain ⟨fault, failed⟩ := number
      rw [tells text fault failed]
      exact .of_crash (value fault) fun _ => and_iff_left ⟨fault, failed⟩
    · refine (others text (not_exists.1 number)).congr fun kind => ?_
      exact ⟨False.elim, fun given => number given.2⟩
  refine (first.bind _ fun text _ => second text).congr fun kind => ?_
  rw [Text.exists_ofFile_eq_error_iff]
  constructor
  · rintro (⟨rfl, isNoText⟩ | ⟨text, decoded, rfl, fault, failed⟩)
    · exact .bytes isNoText
    · obtain ⟨count, overlong, _⟩ := Json.read_eq_number_iff.1 failed
      exact .integer (mapError_eq_ok.1 decoded) overlong
  · intro escapes
    cases escapes with
    | bytes isNoText => exact .inl ⟨rfl, isNoText⟩
    | integer decoded overlong =>
        have failed := Json.read_eq_number_iff.2 ⟨_, overlong, rfl⟩
        exact .inr ⟨_, mapError_eq_ok.2 decoded, rfl, _, failed⟩

end Json

namespace Settings

variable {host : Host} {arguments : Arguments} {files : FileSystem} {path : String}

/-! ## The project -/

/-- What the file of a project holds that nobody answers for; its path may be too long, too, or lead
through a locked directory. -/
inductive ProjectEscapes (host : Host) : Crash → Prop where
  | path (long : host.files.IsTooLong (projectFile host)) : ProjectEscapes host .system
  | locked (locked : host.files.IsLockedOut (projectFile host)) : ProjectEscapes host .forbidden
  | content {content : Bytes} {kind : Crash}
      (found : host.files.find (projectFile host) = .ok (.file content))
      (escapes : JsonEscapes content kind) : ProjectEscapes host kind

theorem read_eq_ok_iff {file : FilePath} {content : Bytes} :
    files.read file = .ok content ↔ files.find file = .ok (.file content) :=
  FileSystem.read_eq_ok.trans FileSystem.find_eq_ok.symm

/-- A file is asked for in vain where its path is too long or leads through a locked directory. -/
theorem failsAs_isFile (file : FilePath) :
    FailsAs LayerFault.category (· = .config)
      (fun kind => kind = .system ∧ files.IsTooLong file ∨
        kind = .forbidden ∧ files.IsLockedOut file)
      ((files.isFile file).mapError .file) := by
  rw [← FileSystem.find_eq_nameTooLong_iff, ← FileSystem.find_eq_forbidden_iff]
  unfold FileSystem.isFile
  split
  next found => exact .of_ok _ fun kind => by simp [found]
  next long => exact .of_crash rfl fun kind => by simp [long]
  next forbidden => exact .of_crash rfl fun kind => by simp [forbidden]
  next notLong notForbidden =>
    refine .of_ok _ ?_
    rintro kind (⟨_, long⟩ | ⟨_, forbidden⟩)
    · exact notLong long
    · exact notForbidden forbidden

theorem failsAs_projectValue (host : Host) :
    FailsAs LayerFault.category (· = .config) (ProjectEscapes host) (projectValue host) := by
  unfold projectValue
  refine ((failsAs_isFile (projectFile host)).bind (fun isFile kind => isFile = true ∧
    ∃ content, host.files.read (projectFile host) = .ok content ∧ JsonEscapes content kind)
    fun isFile asked => ?_).congr fun kind => ?_
  · cases isFile with
    | false => exact .of_ok none fun kind impossible => Bool.noConfusion impossible.1
    | true =>
        rw [Bool.not_true, if_neg Bool.false_ne_true]
        have answered : FailsAs LayerFault.category (· = .config) (fun _ => False)
            ((host.files.read (projectFile host)).mapError
              (.project (projectFile host).toString)) :=
          .mapError (.of_answered (fun _ _ => ⟨rfl, fun _ => by rintro ⟨⟩⟩) fun _ => id)
        refine (answered.bind (fun content => JsonEscapes content) fun content _ =>
          failsAs_json _ .number (fun _ => rfl) (fun _ => rfl) ?_ ?_).congr fun kind => ?_
        · intro text fault found
          rw [found]
          rfl
        · intro text other
          split
          next fault found => exact absurd found (other fault)
          next => exact .of_fault rfl (by rintro _ ⟨⟩) fun _ => id
          next => exact .of_ok _ fun _ => id
          next => exact .of_fault rfl (by rintro _ ⟨⟩) fun _ => id
        · simp [mapError_eq_ok]
  · constructor
    · rintro ((⟨rfl, long⟩ | ⟨rfl, locked⟩) | ⟨_, _, _, content, given, escapes⟩)
      · exact .path long
      · exact .locked locked
      · exact .content (read_eq_ok_iff.1 given) escapes
    · intro escapes
      cases escapes with
      | path long => exact .inl (.inl ⟨rfl, long⟩)
      | locked locked => exact .inl (.inr ⟨rfl, locked⟩)
      | content found escapes =>
          have isFile : host.files.isFile (projectFile host) = .ok true := by
            rw [FileSystem.isFile, found]
          exact .inr ⟨true, mapError_eq_ok.2 isFile, rfl, _, read_eq_ok_iff.2 found, escapes⟩

theorem failsAs_ofProject (host : Host) :
    FailsAs LayerFault.category (· = .config) (ProjectEscapes host) (ofProject host) := by
  unfold ofProject
  refine ((failsAs_projectValue host).bind (fun _ _ => False) fun found _ => ?_).congr
    fun kind => by simp
  cases found with
  | none => exact .of_ok _ fun _ => id
  | some value => exact .mapError (.of_answered (fun _ _ => ⟨rfl, by rintro _ ⟨⟩⟩) fun _ => id)

/-! ## All layers -/

/-- The line for the command of the compiler that counts: the argument, or where it names nothing
the variable of the environment. -/
def EffectiveCommand (host : Host) (arguments : Arguments) (line : String) : Prop :=
  arguments.Names .command line ∨
    (∀ other, ¬arguments.Names .command other) ∧ Environment.Names host.environment .command line

theorem compiler_eq_some {line : String} :
    ((Layer.ofArguments arguments).above (Layer.ofEnvironment host.environment)).compiler =
      some line ↔ EffectiveCommand host arguments line := by
  have unnamed : (Layer.ofArguments arguments).on .command = none ↔
      ∀ other, ¬arguments.Names .command other := by
    simp only [← Layer.on_ofArguments, Option.eq_none_iff_forall_ne_some, ne_eq]
  have onCommand (line : Topic.command.Wording) :
      ((Layer.ofArguments arguments).above (Layer.ofEnvironment host.environment)).on .command =
        some line ↔ EffectiveCommand host arguments line := by
    rw [Layer.on_above, Option.or_eq_some_iff, Layer.on_ofArguments, Layer.on_ofEnvironment,
      unnamed]
    rfl
  exact onCommand line

theorem failsAs_apply (layer : Layer) (project : Settings) :
    FailsAs LayerFault.category (· = .config)
      (fun kind => kind = .value ∧ ∃ line, layer.compiler = some line ∧ Text.Unfinished line)
      (layer.apply project) := by
  have finished {line : String} {words : List String} (read : Text.commandWords line = .ok words)
      (kind : Crash) :
      ¬(kind = .value ∧ ∃ other, some line = some other ∧ Text.Unfinished other) := by
    rintro ⟨_, _, ⟨⟩, unfinished⟩
    obtain ⟨fault, failed⟩ := Text.unfinished_iff.1 unfinished
    cases read.symm.trans failed
  have command : FailsAs LayerFault.category (· = .config)
      (fun kind => kind = .value ∧ ∃ line, layer.compiler = some line ∧ Text.Unfinished line)
      (layer.command project.compiler.command) := by
    unfold Layer.command
    cases layer.compiler with
    | none =>
        refine .of_ok _ ?_
        rintro _ ⟨_, _, ⟨⟩, _⟩
    | some line =>
        dsimp only
        split
        next fault failed =>
          have unfinished := Text.unfinished_iff.2 ⟨fault, failed⟩
          exact .of_crash rfl fun _ => ⟨And.left, fun same => ⟨same, line, rfl, unfinished⟩⟩
        next read =>
          exact .of_fault rfl (by rintro _ ⟨⟩) (finished read)
        next read => exact .of_ok _ (finished read)
  exact (command.bind (fun _ _ => False) fun _ _ => .of_ok _ fun _ => id).congr fun kind => by simp

/-- What is found in making settings that nobody answers for: something in the file of the project,
or behind it a command that is left open. -/
inductive ResolveEscapes (host : Host) (arguments : Arguments) : Crash → Prop where
  | project {kind : Crash} (escapes : ProjectEscapes host kind) : ResolveEscapes host arguments kind
  | command {project : Settings} {line : String} (readable : OfFile host project)
      (counts : EffectiveCommand host arguments line) (unfinished : Text.Unfinished line) :
      ResolveEscapes host arguments .value

theorem failsAs_resolve (host : Host) (arguments : Arguments) :
    FailsAs LayerFault.category (· = .config) (ResolveEscapes host arguments)
      (resolve host arguments) := by
  unfold resolve
  refine ((failsAs_ofProject host).bind _ fun project _ => failsAs_apply _ project).congr
    fun kind => ?_
  simp only [compiler_eq_some, ofProject_eq_ok]
  constructor
  · rintro (escapes | ⟨_, readable, rfl, _, counts, unfinished⟩)
    · exact .project escapes
    · exact .command readable counts unfinished
  · intro escapes
    cases escapes with
    | project escapes => exact .inl escapes
    | command readable counts unfinished =>
        exact .inr ⟨_, readable, rfl, _, counts, unfinished⟩

/-! ## Patterns -/

/-- What a pattern is refused for that nobody answers for, and holds: a code or a bound with a
number that is too large, a bound with too many digits, or modes for two alphabets. -/
inductive PatternEscapes (text : String) : Crash → Prop where
  | hugeCode {position : Option Nat} {digits : List Char}
      (failed : Pattern.read text = .error ⟨.hugeCode, position⟩)
      (stands : digits <:+: text.toList) (isNumber : digits.all Pattern.isHexDigit)
      (narrow : digits.length ≤ 8) (huge : Nat.pow 2 31 ≤ Pattern.numberOf 16 digits) :
      PatternEscapes text .overflow
  | largeBound {position : Option Nat} {digits : List Char}
      (failed : Pattern.read text = .error ⟨.largeBound, position⟩)
      (stands : digits <:+: text.toList) (isNumber : digits.all Char.isDigit)
      (large : 4294967295 ≤ Pattern.numberOf 10 digits) : PatternEscapes text .overflow
  | longBound {position : Option Nat} {digits : List Char}
      (failed : Pattern.read text = .error ⟨.longBound digits.length, position⟩)
      (stands : digits <:+: text.toList) (isNumber : digits.all Char.isDigit)
      (long : Number.maxDigits < digits.length) : PatternEscapes text .value
  | twoAlphabets {position : Option Nat}
      (failed : Pattern.read text = .error ⟨.twoAlphabets, position⟩)
      (ascii : 'a' ∈ text.toList) (unicode : 'u' ∈ text.toList) : PatternEscapes text .value

theorem patternEscapes_iff {text : String} {kind : Crash} : PatternEscapes text kind ↔
    ∃ fault, Pattern.read text = .error fault ∧ fault.problem.category = .crash kind := by
  constructor
  · intro escapes
    cases escapes with
    | hugeCode failed => exact ⟨_, failed, rfl⟩
    | largeBound failed => exact ⟨_, failed, rfl⟩
    | longBound failed => exact ⟨_, failed, rfl⟩
    | twoAlphabets failed => exact ⟨_, failed, rfl⟩
  · rintro ⟨⟨problem, position⟩, failed, crash⟩
    have blames := Pattern.blames_of_read failed
    cases problem with
    | hugeCode =>
        cases crash
        obtain ⟨digits, stands, isNumber, narrow, huge⟩ := blames
        exact .hugeCode failed stands isNumber narrow huge
    | largeBound =>
        cases crash
        obtain ⟨digits, stands, isNumber, large⟩ := blames
        exact .largeBound failed stands isNumber large
    | longBound count =>
        cases crash
        obtain ⟨digits, stands, isNumber, rfl, long⟩ := blames
        exact .longBound failed stands isNumber long
    | twoAlphabets =>
        cases crash
        exact .twoAlphabets failed blames.1 blames.2
    | _ => cases crash

/-! ## Rules -/

/-- A fault of the settings or of their use. -/
abbrev OfUse (category : Category) : Prop :=
  category = .config ∨ category = .usage

theorem ofUse_or_crash (problem : Pattern.Problem) :
    OfUse problem.category ∨ ∃ kind, problem.category = .crash kind := by
  cases problem with
  | hugeCode => exact .inr ⟨_, rfl⟩
  | largeBound => exact .inr ⟨_, rfl⟩
  | longBound => exact .inr ⟨_, rfl⟩
  | twoAlphabets => exact .inr ⟨_, rfl⟩
  | _ => exact .inl (.inr rfl)

theorem failsAs_ofPattern (text : String) :
    FailsAs PatternFault.category OfUse (PatternEscapes text) (Rule.ofPattern text) where
  fails fault _ := ofUse_or_crash fault.fault.problem
  escapes_iff kind := by
    rw [patternEscapes_iff, EscapesAs, Rule.ofPattern, Pattern.ofText]
    cases Pattern.read text with
    | ok found => simp [bind, Except.bind, pure, Except.pure]
    | error fault => simp [bind, Except.bind, PatternFault.category]

/-- What stands in the way of a file of routes that nobody answers for: a null character in its
path, or something in its content. -/
inductive RoutesFileEscapes (files : FileSystem) (path : String) : Crash → Prop where
  | path (null : '\x00' ∈ path.toList) : RoutesFileEscapes files path .value
  | content {content : Bytes} {kind : Crash}
      (found : files.find (.ofString path) = .ok (.file content))
      (escapes : JsonEscapes content kind) : RoutesFileEscapes files path kind

theorem failsAs_read (path : String) :
    FailsAs SelectionFault.category OfUse (fun kind => kind = .value ∧ '\x00' ∈ path.toList)
      ((files.read (.ofString path)).mapError (SelectionFault.ofFile path)) := by
  have null : files.find (.ofString path) = .error .nullCharacter ↔ '\x00' ∈ path.toList :=
    FileSystem.find_eq_nullCharacter_iff.trans
      (FilePath.mem_toString_ofString (by decide) (by decide))
  rw [← null]
  have answered {fault : FileFault} {node : FileNode}
      (told : (SelectionFault.ofFile path fault).category = .config)
      (found : files.find (.ofString path) = .ok node) :
      FailsAs SelectionFault.category OfUse
        (fun kind => kind = .value ∧ files.find (.ofString path) = .error .nullCharacter)
        (Except.error (SelectionFault.ofFile path fault) : Except SelectionFault Bytes) := by
    refine .of_fault (.inl told) (by rw [told]; rintro _ ⟨⟩) ?_
    rintro _ ⟨_, null⟩
    cases found.symm.trans null
  unfold FileSystem.read
  split
  next found =>
    refine .of_ok _ ?_
    rintro _ ⟨_, null⟩
    cases found.symm.trans null
  next found => exact answered rfl found
  next found => exact answered rfl found
  next obstacle found =>
    by_cases null : obstacle = .nullCharacter
    · subst null
      exact .of_crash rfl fun kind => and_iff_left found
    · have reported : obstacle.isReported = true := by
        cases obstacle <;> first | rfl | exact absurd rfl null
      have fault : SelectionFault.ofFile path ⟨obstacle, (FilePath.ofString path).toString⟩ =
          .unreadable path ⟨obstacle, (FilePath.ofString path).toString⟩ := if_pos reported
      rw [Except.mapError, fault]
      refine .of_fault (.inl rfl) (by rintro _ ⟨⟩) ?_
      rintro _ ⟨_, isNull⟩
      cases found.symm.trans isNull
      exact null rfl

theorem failsAs_routesInFile (files : FileSystem) (path : String) :
    FailsAs SelectionFault.category OfUse (RoutesFileEscapes files path)
      (routesInFile files path) := by
  unfold routesInFile
  refine ((failsAs_read path).bind (fun content => JsonEscapes content) fun content _ =>
    failsAs_json _ .number (fun _ => rfl) (fun _ => rfl) ?_ ?_).congr fun kind => ?_
  · intro text fault found
    rw [found]
    rfl
  · intro text other
    split
    next fault found => exact absurd found (other fault)
    next => exact .of_fault (.inl rfl) (by rintro _ ⟨⟩) fun _ => id
    next =>
      split
      next => exact .of_ok _ fun _ => id
      next => exact .of_fault (.inl rfl) (by rintro _ ⟨⟩) fun _ => id
    next => exact .of_fault (.inl rfl) (by rintro _ ⟨⟩) fun _ => id
  · constructor
    · rintro (⟨rfl, null⟩ | ⟨content, given, escapes⟩)
      · exact .path null
      · exact .content (read_eq_ok_iff.1 (mapError_eq_ok.1 given)) escapes
    · intro escapes
      cases escapes with
      | path null => exact .inl ⟨rfl, null⟩
      | content found escapes =>
          exact .inr ⟨_, mapError_eq_ok.2 (read_eq_ok_iff.2 found), escapes⟩

/-- What stands in the way of rules that nobody answers for: something in the way of the file of
routes, or behind it in the first pattern that cannot be read. -/
inductive RulesEscape (settings : Settings) (files : FileSystem) : Crash → Prop where
  | file {path : String} {kind : Crash} (named : filled? settings.routesFile = some path)
      (escapes : RoutesFileEscapes files path kind) : RulesEscape settings files kind
  | pattern {listed before after : List String} {text : String} {kind : Crash}
      (loaded : settings.listedRoutes files = .ok listed)
      (first : settings.patterns = before ++ text :: after)
      (readable : ∀ earlier ∈ before, ∃ rule, Rule.ofPattern earlier = .ok rule)
      (escapes : PatternEscapes text kind) : RulesEscape settings files kind

theorem failsAs_listedRoutes (settings : Settings) (files : FileSystem) :
    FailsAs SelectionFault.category OfUse
      (fun kind => ∃ path, filled? settings.routesFile = some path ∧
        RoutesFileEscapes files path kind) (settings.listedRoutes files) := by
  unfold listedRoutes
  cases filled? settings.routesFile with
  | none =>
      refine .of_ok _ ?_
      rintro _ ⟨_, ⟨⟩, _⟩
  | some path => exact (failsAs_routesInFile files path).congr fun kind => by simp

theorem failsAs_rules (settings : Settings) (files : FileSystem) :
    FailsAs SelectionFault.category OfUse (RulesEscape settings files)
      (settings.rules files) := by
  rw [rules_eq]
  have texts (routes : List String) :
      FailsAs PatternFault.category OfUse
        (fun kind => ∃ before text after, settings.patterns = before ++ text :: after ∧
          (∀ earlier ∈ before, ∃ rule, Rule.ofPattern earlier = .ok rule) ∧
            PatternEscapes text kind) (Rule.ofTexts routes settings.patterns) :=
    ((FailsAs.mapM _ failsAs_ofPattern).bind (fun _ _ => False) fun _ _ =>
      .of_ok _ fun _ => id).congr fun kind => by simp
  refine ((failsAs_listedRoutes settings files).bind _ fun listed _ =>
    .mapError (texts _)).congr fun kind => ?_
  constructor
  · rintro (⟨path, named, escapes⟩ | ⟨_, loaded, _, _, _, first, readable, escapes⟩)
    · exact .file named escapes
    · exact .pattern loaded first readable escapes
  · intro escapes
    cases escapes with
    | file named escapes => exact .inl ⟨_, named, escapes⟩
    | pattern loaded first readable escapes =>
        exact .inr ⟨_, loaded, _, _, _, first, readable, escapes⟩

/-- A host with a project whose file is a single byte that no text starts with. -/
def undecodableHost : Host where
  files := ⟨["w"], [(["w", projectFileName], .file [255])]⟩
  web := []
  environment := []
  input := []
  system := "Linux"
  emoji := []
  programs _ _ _ := .missing

end Settings

end RouteTypes
