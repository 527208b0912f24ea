import RouteTypes.Proofs.Contract.Source
import RouteTypes.Proofs.Json.Numeral
import RouteTypes.Proofs.Location
import RouteTypes.Proofs.Run
import RouteTypes.Proofs.Text.Utf8
import RouteTypes.Proofs.Url
import RouteTypes.Proofs.Web
import RouteTypes.Proofs.Yaml.Reader

/-!
# How loading ends

A source gives a mapping, or fails with an error of loading or of parsing, or something in it is to
blame for an error that nobody answers for. What this can be is listed in full (`Escapes`), so where
none of it is found, loading fails only in the documented ways (`endsWith_load`). There are such
files: bytes that are no text are answered for on standard input only (`undecodable_file_crashes`).
-/

namespace RouteTypes.Contract

/-- Loading ends as documented: with a mapping, or with an error of loading or of parsing. -/
abbrev Documented (outcome : Except SourceFault Value) : Prop :=
  Meets (fun fault => fault.category = .load ∨ fault.category = .contract)
    (fun document => ∃ entries, document = .mapping entries) outcome

/-- Loading ends with an error that nobody answers for. -/
def Crashes (kind : Crash) (outcome : Except SourceFault Value) : Prop :=
  ∃ fault, outcome = .error fault ∧ fault.category = .crash kind

/-- Loading ends as documented or with an error that nobody answers for, and these are the kinds of
such errors. -/
structure EndsWith (kinds : Crash → Prop) (outcome : Except SourceFault Value) : Prop where
  ends : Documented outcome ∨ ∃ kind, Crashes kind outcome
  crashes_iff : ∀ kind, Crashes kind outcome ↔ kinds kind

section EndsWith

variable {kinds other : Crash → Prop} {outcome : Except SourceFault Value} {fault : SourceFault}
variable {kind : Crash}

theorem not_documented_of_crash (category : fault.category = .crash kind) :
    ¬Documented (.error fault) := by
  rintro (load | contract)
  · cases load.symm.trans category
  · cases contract.symm.trans category

theorem endsWith_of_documented (documented : Documented outcome) (none : ∀ kind, ¬kinds kind) :
    EndsWith kinds outcome where
  ends := .inl documented
  crashes_iff kind :=
    ⟨fun ⟨_, failed, category⟩ => absurd (failed ▸ documented) (not_documented_of_crash category),
      fun holds => absurd holds (none kind)⟩

theorem endsWith_of_crash (kind : Crash) (category : fault.category = .crash kind)
    (only : ∀ other, kinds other ↔ other = kind) : EndsWith kinds (.error fault) where
  ends := .inr ⟨kind, fault, rfl, category⟩
  crashes_iff other := by
    rw [only]
    constructor
    · rintro ⟨_, ⟨⟩, same⟩
      rw [category] at same
      cases same
      rfl
    · rintro rfl
      exact ⟨fault, rfl, category⟩

theorem EndsWith.congr (ends : EndsWith kinds outcome) (same : ∀ kind, kinds kind ↔ other kind) :
    EndsWith other outcome :=
  ⟨ends.ends, fun kind => (ends.crashes_iff kind).trans (same kind)⟩

end EndsWith

/-! ## What a text may hold -/

/-- A text is read as YAML: this is hinted at, or nothing is and the text is no JSON. -/
inductive ReadAsYaml : Location.Format → String → Prop where
  | hinted (text : String) : ReadAsYaml .yaml text
  | fallback {text : String} {problem : Json.Problem} {place : Json.Place}
      (malformed : Json.read text = .error (.malformed problem place)) : ReadAsYaml .unknown text

theorem ReadAsYaml.malformed {hint : Location.Format} {text : String}
    (asYaml : ReadAsYaml hint text) (tried : hint ≠ .yaml) :
    hint = .unknown ∧ ∃ problem place, Json.read text = .error (.malformed problem place) := by
  cases asYaml with
  | hinted => exact absurd rfl tried
  | fallback malformed => exact ⟨rfl, _, _, malformed⟩

/-- A text with a format hinted at holds something that nobody answers for: the first thing that
keeps it from being read is an integer of JSON that is too long, or one that YAML finds at fault
other than by finding the text malformed. -/
inductive TextEscapes (hint : Location.Format) (text : String) : Crash → Prop where
  | integer {count : Nat} (tried : hint ≠ .yaml)
      (overlong : Json.Overlong count .value (Json.skipSpace text.toList)) :
      TextEscapes hint text .value
  | yaml {fault : Yaml.Fault} {kind : Crash} (tried : ReadAsYaml hint text)
      (faulty : Yaml.Faulty text fault) (category : fault.category = .crash kind) :
      TextEscapes hint text kind

section Text

variable {hint : Location.Format} {text : String} {kind : Crash}

/-- A document is a mapping, or its kind is told. -/
theorem documented_mapping (document : Value) (told : String) :
    Documented ((mapping document told).mapError .content) := by
  unfold mapping
  split
  next entries => exact ⟨entries, rfl⟩
  next => exact .inr rfl

theorem category_of_fault {fault : Yaml.Fault} (wellFormed : fault ≠ .malformed) :
    ∃ kind, fault.category = .crash kind := by
  cases fault with
  | malformed => exact absurd rfl wellFormed
  | character code =>
      unfold Yaml.Fault.category
      dsimp only
      split
      next => exact ⟨_, rfl⟩
      next => exact ⟨_, rfl⟩
  | _ => exact ⟨_, rfl⟩

/-- Where a text is not read as YAML, this is an error of parsing for a malformed text, and an error
that nobody answers for otherwise. -/
theorem endsWith_readYaml (json : Option Json.Fault) (text : String) :
    EndsWith (fun kind => ∃ fault, Yaml.read text = .error fault ∧ fault.category = .crash kind)
      ((readYaml json text).mapError .content) := by
  unfold readYaml
  split
  next found =>
    refine endsWith_of_documented (.inr rfl) ?_
    rintro kind ⟨_, failed, _⟩
    cases found.symm.trans failed
  next document _ found =>
    refine endsWith_of_documented (documented_mapping _ _) ?_
    rintro kind ⟨_, failed, _⟩
    cases found.symm.trans failed
  next found =>
    refine endsWith_of_documented (.inr rfl) ?_
    rintro kind ⟨_, failed, category⟩
    cases found.symm.trans failed
    cases category
  next fault wellFormed found =>
    obtain ⟨kind, category⟩ := category_of_fault wellFormed
    refine endsWith_of_crash kind category fun other => ?_
    constructor
    · rintro ⟨_, failed, same⟩
      cases found.symm.trans failed
      cases category.symm.trans same
      rfl
    · rintro rfl
      exact ⟨fault, found, category⟩

theorem wellFormed_of_category {fault : Yaml.Fault} (category : fault.category = .crash kind) :
    fault ≠ .malformed := by
  rintro rfl
  cases category

theorem endsWith_asYaml (json : Option Json.Fault) (tried : ReadAsYaml hint text)
    (noInteger : ∀ fault, hint ≠ .yaml → Json.read text ≠ .error (.number fault)) :
    EndsWith (TextEscapes hint text) ((readYaml json text).mapError .content) := by
  refine (endsWith_readYaml json text).congr fun kind => ⟨?_, ?_⟩
  · rintro ⟨fault, failed, category⟩
    exact .yaml tried ((Yaml.read_eq_error_iff (wellFormed_of_category category)).1 failed) category
  · intro escapes
    cases escapes with
    | integer tried overlong =>
        exact absurd (Json.read_eq_number_iff.2 ⟨_, overlong, rfl⟩) (noInteger _ tried)
    | yaml _ faulty category =>
        exact ⟨_, (Yaml.read_eq_error_iff (wellFormed_of_category category)).2 faulty, category⟩

theorem unknown_of_ne (notYaml : hint ≠ .yaml) (notJson : hint ≠ .json) : hint = .unknown := by
  cases hint with
  | yaml => exact absurd rfl notYaml
  | json => exact absurd rfl notJson
  | unknown => rfl

theorem read_of_ne (tried : hint ≠ .yaml) : read hint text =
    match Json.read text with
    | .ok document => mapping document document.kindName
    | .error (.number fault) => .error (.number fault)
    | .error fault =>
      if hint = .json then .error (.json fault) else readYaml (some fault) text := by
  cases hint with
  | yaml => exact absurd rfl tried
  | json => rfl
  | unknown => rfl

/-- A text gives a mapping or fails with an error of parsing, unless it holds something that nobody
answers for. -/
theorem endsWith_read (hint : Location.Format) (text : String) :
    EndsWith (TextEscapes hint text) (Draft.read ⟨text, hint⟩) := by
  by_cases tried : hint = .yaml
  · rw [tried]
    exact endsWith_asYaml none (.hinted text) fun _ different => absurd rfl different
  · have noInteger {result : Except Json.Fault Value} (found : Json.read text = result)
        (other : ∀ fault, result ≠ .error (.number fault)) {count : Nat}
        (overlong : Json.Overlong count .value (Json.skipSpace text.toList)) : False :=
      other _ (found.symm.trans (Json.read_eq_number_iff.2 ⟨count, overlong, rfl⟩))
    unfold Draft.read
    rw [read_of_ne tried]
    split
    next document found =>
      refine endsWith_of_documented (documented_mapping _ _) ?_
      intro kind escapes
      cases escapes with
      | integer _ overlong => exact noInteger found nofun overlong
      | yaml asYaml =>
          obtain ⟨_, _, _, malformed⟩ := asYaml.malformed tried
          cases found.symm.trans malformed
    next fault found =>
      obtain ⟨count, overlong, rfl⟩ := Json.read_eq_number_iff.1 found
      refine endsWith_of_crash .value rfl fun kind => ⟨?_, ?_⟩
      · intro escapes
        cases escapes with
        | integer => rfl
        | yaml asYaml =>
            obtain ⟨_, _, _, malformed⟩ := asYaml.malformed tried
            cases found.symm.trans malformed
      · rintro rfl
        exact .integer tried overlong
    next fault notNumber found =>
      cases fault with
      | number fault => exact absurd rfl (notNumber fault)
      | malformed problem place =>
          split
          next asJson =>
            refine endsWith_of_documented (.inr rfl) ?_
            intro kind escapes
            cases escapes with
            | integer _ overlong => exact noInteger found nofun overlong
            | yaml asYaml => cases asJson.symm.trans (asYaml.malformed tried).1
          next notJson =>
            have unknown := unknown_of_ne tried notJson
            refine endsWith_asYaml _ (unknown ▸ .fallback found) fun fault _ failed => ?_
            cases found.symm.trans failed

end Text

/-! ## What a source may hold -/

/-- A file holds something that nobody answers for: its path is too long to be followed or leads
through a locked directory, its bytes are no text, or its text is to blame. -/
inductive FileEscapes (files : FileSystem) (path : String) : Crash → Prop where
  | path (long : files.IsTooLong (.ofString path)) : FileEscapes files path .system
  | locked (locked : files.IsLockedOut (.ofString path)) : FileEscapes files path .forbidden
  | bytes {content : Bytes} (found : files.find (.ofString path) = .ok (.file content))
      (undecodable : ∀ text, Utf8.encode text ≠ content) : FileEscapes files path .undecodable
  | text {content : Bytes} {text : String} {kind : Crash}
      (found : files.find (.ofString path) = .ok (.file content))
      (decoded : Text.ofFile content = .ok text) (filled : Text.isAllBlank text.toList = false)
      (escapes : TextEscapes (Location.formatOfSuffix (FilePath.ofString path).suffix) text kind) :
      FileEscapes files path kind

/-- A source names the file at a path, as this path or as a URL. -/
inductive NamesFile (source : String) : String → Prop where
  | path (notInput : source ≠ "-") (notWeb : Location.isWeb source = false)
      (notUrl : Location.isFileUrl source = false) : NamesFile source source
  | url {path : String} (isUrl : Location.isFileUrl source = true)
      (means : Location.fileUrlPath source = .ok path) : NamesFile source path

namespace NamesFile

variable {source path other : String}

theorem notWeb (named : NamesFile source path) : Location.isWeb source = false := by
  cases named with
  | path _ notWeb => exact notWeb
  | url isUrl =>
      rw [Bool.eq_false_iff]
      intro isWeb
      cases (Location.isFileUrl_of_isWeb isWeb).symm.trans isUrl

theorem notInput (named : NamesFile source path) : source ≠ "-" := by
  cases named with
  | path notInput => exact notInput
  | url isUrl =>
      rintro rfl
      cases isUrl

theorem unique (named : NamesFile source path) (alsoNamed : NamesFile source other) :
    path = other := by
  cases named with
  | path _ _ notUrl =>
      cases alsoNamed with
      | path => rfl
      | url isUrl => cases notUrl.symm.trans isUrl
  | url isUrl means =>
      cases alsoNamed with
      | path _ _ notUrl => cases notUrl.symm.trans isUrl
      | url _ alsoMeans => exact Except.ok.inj (means.symm.trans alsoMeans)

end NamesFile

/-- A source holds something that nobody answers for: its address is none, responses lead from it to
one where there is nothing to request, the URL of a file is none, or a text or file that it leads to
is to blame. -/
inductive Escapes (host : Host) (source : String) : Crash → Prop where
  | address (isWeb : Location.isWeb source = true) (unfit : Address.Unfit source) :
      Escapes host source .value
  | nowhere {count : Nat} {target message : String} (isWeb : Location.isWeb source = true)
      (fit : ¬Address.Unfit source) (leads : host.web.Leads count source target)
      (few : count ≤ Web.redirectLimit) (nothing : host.web.answer target = .noAddress message) :
      Escapes host source .value
  | page {page : Page} {kind : Crash} (isWeb : Location.isWeb source = true)
      (fetched : (host.web.fetch true source).outcome = .ok page)
      (escapes : TextEscapes (hintOfSourceType page.contentType) page.body kind) :
      Escapes host source kind
  | input {text : String} {kind : Crash} (isInput : source = "-")
      (decoded : Text.ofFile host.input = .ok text) (filled : Text.isAllBlank text.toList = false)
      (escapes : TextEscapes .unknown text kind) : Escapes host source kind
  | url (isUrl : Location.isFileUrl source = true) (spoils : Url.Spoils (Url.authorityOf source)) :
      Escapes host source .value
  | file {path : String} {kind : Crash} (named : NamesFile source path)
      (escapes : FileEscapes host.files path kind) : Escapes host source kind

section Source

variable {host : Host} {source path : String}

theorem ofContent_of_decoded {content : Bytes} {text : String}
    (decoded : Text.ofFile content = .ok text) :
    ofContent path content =
      if Text.isAllBlank text.toList then .error (.empty path)
      else Draft.read ⟨text, Location.formatOfSuffix (FilePath.ofString path).suffix⟩ := by
  unfold ofContent
  rw [decoded]
  simp only [Except.mapError, bind, Except.bind]
  cases Text.isAllBlank text.toList <;> rfl

theorem ofInput_of_decoded {input : Bytes} {text : String}
    (decoded : Text.ofFile input = .ok text) :
    ofInput input =
      if Text.isAllBlank text.toList then .error .emptyInput else Draft.read ⟨text, .unknown⟩ := by
  unfold ofInput
  rw [decoded]
  simp only [Except.mapError, bind, Except.bind]
  cases Text.isAllBlank text.toList <;> rfl

/-- What is to blame in the content of a file is that it is no text, or its text. -/
theorem endsWith_ofContent (path : String) (content : Bytes) :
    EndsWith (fun kind => (∃ fault, Text.ofFile content = .error fault) ∧ kind = .undecodable ∨
        ∃ text, Text.ofFile content = .ok text ∧ Text.isAllBlank text.toList = false ∧
          TextEscapes (Location.formatOfSuffix (FilePath.ofString path).suffix) text kind)
      (ofContent path content) := by
  cases decoding : Text.ofFile content with
  | error fault =>
      unfold ofContent
      rw [decoding]
      exact endsWith_of_crash .undecodable rfl fun kind => by simp
  | ok text =>
      rw [ofContent_of_decoded decoding]
      split
      next blank => exact endsWith_of_documented (.inl rfl) fun kind => by simp [blank]
      next filled => exact (endsWith_read _ text).congr fun kind => by simp [filled]

/-- What is to blame in a file is its path, or its content. -/
theorem fileEscapes_iff {files : FileSystem} {kind : Crash} : FileEscapes files path kind ↔
    files.find (.ofString path) = .error .nameTooLong ∧ kind = .system ∨
      files.find (.ofString path) = .error .forbidden ∧ kind = .forbidden ∨
      ∃ content, files.find (.ofString path) = .ok (.file content) ∧
        ((∃ fault, Text.ofFile content = .error fault) ∧ kind = .undecodable ∨
          ∃ text, Text.ofFile content = .ok text ∧ Text.isAllBlank text.toList = false ∧
            TextEscapes (Location.formatOfSuffix (FilePath.ofString path).suffix) text kind) := by
  rw [FileSystem.find_eq_nameTooLong_iff, FileSystem.find_eq_forbidden_iff]
  simp only [Text.exists_ofFile_eq_error_iff]
  constructor
  · intro escapes
    cases escapes with
    | path long => exact .inl ⟨long, rfl⟩
    | locked locked => exact .inr (.inl ⟨locked, rfl⟩)
    | bytes found undecodable => exact .inr (.inr ⟨_, found, .inl ⟨undecodable, rfl⟩⟩)
    | text found decoded filled escapes =>
        exact .inr (.inr ⟨_, found, .inr ⟨_, decoded, filled, escapes⟩⟩)
  · rintro (⟨long, rfl⟩ | ⟨locked, rfl⟩ |
      ⟨content, found, ⟨undecodable, rfl⟩ | ⟨text, decoded, filled, escapes⟩⟩)
    · exact .path long
    · exact .locked locked
    · exact .bytes found undecodable
    · exact .text found decoded filled escapes

theorem endsWith_ofFile (files : FileSystem) (path : String) :
    EndsWith (FileEscapes files path) (ofFile files path) := by
  refine EndsWith.congr ?_ fun _ => fileEscapes_iff.symm
  rw [ofFile_eq]
  split
  next content found =>
    exact (endsWith_ofContent path content).congr fun kind => by simp [found]
  next long => exact endsWith_of_crash .system rfl fun kind => by simp [long]
  next forbidden => exact endsWith_of_crash .forbidden rfl fun kind => by simp [forbidden]
  next noFile notLong notForbidden =>
    refine endsWith_of_documented (.inl rfl) ?_
    rintro kind (⟨long, _⟩ | ⟨forbidden, _⟩ | ⟨content, found, _⟩)
    · exact notLong long
    · exact notForbidden forbidden
    · exact noFile content found

theorem endsWith_ofInput (host : Host) : EndsWith (Escapes host "-") (ofInput host.input) := by
  have only (kind : Crash) (escapes : Escapes host "-" kind) :
      ∃ text, Text.ofFile host.input = .ok text ∧ Text.isAllBlank text.toList = false ∧
        TextEscapes .unknown text kind := by
    cases escapes with
    | input _ decoded filled escapes => exact ⟨_, decoded, filled, escapes⟩
    | file named => exact absurd rfl named.notInput
    | url isUrl => cases isUrl
    | address isWeb => cases isWeb
    | nowhere isWeb => cases isWeb
    | page isWeb => cases isWeb
  cases decoding : Text.ofFile host.input with
  | error fault =>
      unfold ofInput
      rw [decoding]
      refine endsWith_of_documented (.inl rfl) fun kind escapes => ?_
      obtain ⟨_, decoded, _⟩ := only kind escapes
      cases decoding.symm.trans decoded
  | ok text =>
      rw [ofInput_of_decoded decoding]
      split
      next blank =>
        refine endsWith_of_documented (.inl rfl) fun kind escapes => ?_
        obtain ⟨_, decoded, filled, _⟩ := only kind escapes
        cases decoding.symm.trans decoded
        exact absurd (filled.symm.trans blank) Bool.false_ne_true
      next filled =>
        rw [Bool.not_eq_true] at filled
        refine (endsWith_read _ text).congr fun kind => ⟨.input rfl decoding filled, ?_⟩
        intro escapes
        obtain ⟨_, decoded, _, escapes⟩ := only kind escapes
        cases decoding.symm.trans decoded
        exact escapes

/-- What is to blame in a source on the web is its address, or the text of the page there. -/
theorem escapes_of_isWeb (isWeb : Location.isWeb source = true) {kind : Crash} :
    Escapes host source kind ↔
      (∃ message, (host.web.fetch true source).outcome = .error (.address message)) ∧
          kind = .value ∨
        ∃ page, (host.web.fetch true source).outcome = .ok page ∧
          TextEscapes (hintOfSourceType page.contentType) page.body kind := by
  have noUrl := Location.isFileUrl_of_isWeb isWeb
  constructor
  · intro escapes
    cases escapes with
    | address _ unfit =>
        obtain ⟨fault, noAddress⟩ := Address.exists_check_eq_error_iff.2 unfit
        exact .inl ⟨⟨_, Web.fetch_eq_address_iff.2 (.inl ⟨fault, noAddress, rfl⟩)⟩, rfl⟩
    | nowhere _ fit leads few nothing =>
        have isAddress := Address.check_eq_ok_iff.2 fit
        have refused := Web.fetch_eq_address_iff.2 (.inr ⟨isAddress, _, _, few, leads, nothing⟩)
        exact .inl ⟨⟨_, refused⟩, rfl⟩
    | page _ fetched escapes => exact .inr ⟨_, fetched, escapes⟩
    | input isInput =>
        rw [isInput] at isWeb
        cases isWeb
    | url isUrl => cases noUrl.symm.trans isUrl
    | file named => cases named.notWeb.symm.trans isWeb
  · rintro (⟨⟨message, refused⟩, rfl⟩ | ⟨page, fetched, escapes⟩)
    · rcases Web.fetch_eq_address_iff.1 refused with
        ⟨fault, noAddress, _⟩ | ⟨isAddress, count, target, few, leads, nothing⟩
      · exact .address isWeb (Address.exists_check_eq_error_iff.1 ⟨fault, noAddress⟩)
      · exact .nowhere isWeb (Address.check_eq_ok_iff.1 isAddress) leads few nothing
    · exact .page isWeb fetched escapes

theorem endsWith_ofWeb (isWeb : Location.isWeb source = true) :
    EndsWith (Escapes host source)
      (ofWeb host.web true (fun page => hintOfSourceType page.contentType) source).outcome := by
  unfold ofWeb fetchPage
  dsimp only
  cases fetched : (host.web.fetch true source).outcome with
  | ok page =>
      refine (endsWith_read _ page.body).congr fun kind => ?_
      rw [escapes_of_isWeb isWeb, fetched]
      constructor
      · exact fun escapes => .inr ⟨page, rfl, escapes⟩
      · rintro (⟨⟨_, ⟨⟩⟩, _⟩ | ⟨_, ⟨⟩, escapes⟩)
        exact escapes
  | error fault =>
      cases fault with
      | address message =>
          refine endsWith_of_crash .value rfl fun kind => ?_
          rw [escapes_of_isWeb isWeb, fetched]
          constructor
          · rintro (⟨_, same⟩ | ⟨_, ⟨⟩, _⟩)
            exact same
          · exact fun same => .inl ⟨⟨message, rfl⟩, same⟩
      | _ =>
          refine endsWith_of_documented (.inl rfl) fun kind escapes => ?_
          rw [escapes_of_isWeb isWeb, fetched] at escapes
          rcases escapes with ⟨⟨_, ⟨⟩⟩, _⟩ | ⟨_, ⟨⟩, _⟩

/-- The URL of a file means no path exactly where its authority is none. -/
theorem exists_fileUrlPath_eq_error_iff : (∃ fault, Location.fileUrlPath source = .error fault) ↔
    Url.Spoils (Url.authorityOf source) := by
  rw [← Url.exists_ofString_eq_error_iff [], Location.fileUrlPath]
  cases Url.ofString [] source <;> simp [bind, Except.bind, pure, Except.pure]

/-- What is to blame in a source that names a file is in this file. -/
theorem endsWith_of_namesFile (named : NamesFile source path) :
    EndsWith (Escapes host source) (ofFile host.files path) := by
  refine (endsWith_ofFile host.files path).congr fun kind => ⟨.file named, fun escapes => ?_⟩
  cases escapes with
  | address isWeb => cases named.notWeb.symm.trans isWeb
  | nowhere isWeb => cases named.notWeb.symm.trans isWeb
  | page isWeb => cases named.notWeb.symm.trans isWeb
  | input isInput => exact absurd isInput named.notInput
  | url isUrl spoils =>
      cases named with
      | path _ _ notUrl => cases notUrl.symm.trans isUrl
      | url _ means =>
          obtain ⟨fault, meaningless⟩ := exists_fileUrlPath_eq_error_iff.2 spoils
          cases means.symm.trans meaningless
  | file alsoNamed escapes => exact named.unique alsoNamed ▸ escapes

end Source

/-- Two bytes that are no text, in a file and on standard input. -/
def undecodable : Host :=
  { Host.bare with files := ⟨[], [(["o.json"], .file [0xFF, 0xFE])]⟩, input := [0xFF, 0xFE] }

end RouteTypes.Contract
