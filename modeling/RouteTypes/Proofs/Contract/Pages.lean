import RouteTypes.Proofs.Contract.Loading
import RouteTypes.Proofs.Reference.Meaning
import RouteTypes.Proofs.Value.Equality

/-!
# Pages as sources and as references

A page may be the source of a document, and a document may refer to it. Both times the text of the
page is read, but with hints at its format that are taken from the content type and the address in
different ways. So the two agree on what the document is for all texts only where these hints are
the same (`load_agrees_iff`), and there are pages that are one document as a source and another one
as a reference (`page_of_two_documents`).
-/

namespace RouteTypes

namespace Contract

variable {text : String} {document : Value} {hint first second : Location.Format}

/-! ## What a hint does -/

/-- A text is read as JSON, and is a mapping. -/
def AsJson (text : String) (document : Value) : Prop :=
  Json.read text = .ok document ∧ ∃ entries, document = .mapping entries

/-- A text is read as YAML, and is a mapping. -/
def AsYaml (text : String) (document : Value) : Prop :=
  Yaml.read text = .ok document ∧ ∃ entries, document = .mapping entries

/-- A text is no JSON. This is not said of one with a number that is too long. -/
def Malformed (text : String) : Prop :=
  ∃ problem place, Json.read text = .error (.malformed problem place)

/-- A text gives a document under a hint: as JSON, or as YAML where it is read as YAML. -/
inductive Gives (hint : Location.Format) (text : String) (document : Value) : Prop where
  | json (tried : hint ≠ .yaml) (asJson : AsJson text document) : Gives hint text document
  | yaml (tried : ReadAsYaml hint text) (asYaml : AsYaml text document) : Gives hint text document

theorem AsJson.not_malformed (asJson : AsJson text document) : ¬Malformed text := by
  rintro ⟨_, _, malformed⟩
  cases asJson.1.symm.trans malformed

@[simp] theorem mapping_eq_ok {value : Value} {kind : String} :
    mapping value kind = .ok document ↔
      value = document ∧ ∃ entries, document = .mapping entries := by
  unfold mapping
  split
  next entries =>
    constructor
    · rintro ⟨⟩
      exact ⟨rfl, entries, rfl⟩
    · rintro ⟨rfl, _⟩
      rfl
  next other =>
    constructor
    · rintro ⟨⟩
    · rintro ⟨rfl, entries, same⟩
      exact absurd same (other entries)

@[simp] theorem readYaml_eq_ok {fault : Option Json.Fault} :
    readYaml fault text = .ok document ↔ AsYaml text document := by
  unfold readYaml AsYaml
  split
  next found =>
    constructor
    · rintro ⟨⟩
    · rintro ⟨same, entries, rfl⟩
      cases found.symm.trans same
  next value _ found => rw [found, Except.ok.injEq, mapping_eq_ok]
  next found => simp [found]
  next found => simp [found]

@[simp] theorem gives_yaml : Gives .yaml text document ↔ AsYaml text document := by
  constructor
  · intro gives
    cases gives with
    | json tried => exact absurd rfl tried
    | yaml _ asYaml => exact asYaml
  · exact .yaml (.hinted text)

/-- A text is read as what it gives. -/
@[simp] theorem read_eq_ok : read hint text = .ok document ↔ Gives hint text document := by
  by_cases tried : hint = .yaml
  · subst tried
    exact readYaml_eq_ok.trans gives_yaml.symm
  · rw [read_of_ne tried]
    constructor
    · intro success
      split at success
      next found =>
        obtain ⟨rfl, isMapping⟩ := mapping_eq_ok.1 success
        exact .json tried ⟨found, isMapping⟩
      next => cases success
      next fault notNumber found =>
        split at success
        next => cases success
        next notJson =>
          cases fault with
          | number fault => exact absurd rfl (notNumber fault)
          | malformed problem place =>
              have unknown := unknown_of_ne tried notJson
              exact .yaml (unknown ▸ .fallback found) (readYaml_eq_ok.1 success)
    · intro gives
      cases gives with
      | json _ asJson =>
          rw [asJson.1]
          exact mapping_eq_ok.2 ⟨rfl, asJson.2⟩
      | yaml fallback asYaml =>
          obtain ⟨rfl, problem, place, malformed⟩ := fallback.malformed tried
          rw [malformed]
          exact readYaml_eq_ok.2 asYaml

@[simp] theorem gives_json : Gives .json text document ↔ AsJson text document := by
  constructor
  · intro gives
    cases gives with
    | json _ asJson => exact asJson
    | yaml tried => cases tried
  · exact .json (by decide)

@[simp] theorem gives_unknown :
    Gives .unknown text document ↔
      AsJson text document ∨ Malformed text ∧ AsYaml text document := by
  constructor
  · intro gives
    cases gives with
    | json _ asJson => exact .inl asJson
    | yaml tried asYaml => exact .inr ⟨(tried.malformed (by decide)).2, asYaml⟩
  · rintro (asJson | ⟨⟨_, _, malformed⟩, asYaml⟩)
    · exact .json (by decide) asJson
    · exact .yaml (.fallback malformed) asYaml

/-! ## Hints that make no difference -/

/-- Two hints make no difference to a text. A hint at JSON is no different from none unless the text
is no JSON but YAML, and otherwise the text has to be the same as JSON and as YAML. -/
def Alike (text : String) : Location.Format → Location.Format → Prop
  | .json, .unknown | .unknown, .json => Malformed text → ∀ document, ¬AsYaml text document
  | .yaml, .unknown | .unknown, .yaml =>
      ¬Malformed text → ∀ document, AsJson text document ↔ AsYaml text document
  | .json, .yaml | .yaml, .json => ∀ document, AsJson text document ↔ AsYaml text document
  | .json, .json | .yaml, .yaml | .unknown, .unknown => True

theorem Alike.symm (alike : Alike text first second) : Alike text second first := by
  cases first <;> cases second <;> exact alike

theorem gives_json_iff_unknown :
    (∀ document, Gives .json text document ↔ Gives .unknown text document) ↔
      Alike text .json .unknown := by
  simp only [gives_json, gives_unknown, Alike]
  constructor
  · intro same malformed document asYaml
    exact ((same document).2 (.inr ⟨malformed, asYaml⟩)).not_malformed malformed
  · intro none document
    exact ⟨.inl, fun given => given.elim id fun other => absurd other.2 (none other.1 document)⟩

theorem gives_yaml_iff_unknown :
    (∀ document, Gives .yaml text document ↔ Gives .unknown text document) ↔
      Alike text .yaml .unknown := by
  simp only [gives_yaml, gives_unknown, Alike]
  by_cases malformed : Malformed text
  · have noJson (document : Value) : ¬AsJson text document := fun asJson =>
      asJson.not_malformed malformed
    simp [malformed, noJson]
  · simp [malformed, iff_comm]

theorem gives_iff :
    (∀ document, Gives first text document ↔ Gives second text document) ↔
      Alike text first second := by
  have swap {first second : Location.Format}
      (known : (∀ document, Gives first text document ↔ Gives second text document) ↔
        Alike text first second) :
      (∀ document, Gives second text document ↔ Gives first text document) ↔
        Alike text second first := by
    simp only [iff_comm (a := Gives second text _)]
    exact known.trans ⟨.symm, .symm⟩
  cases first <;> cases second
  case json.json | yaml.yaml | unknown.unknown => simp [Alike]
  case json.unknown => exact gives_json_iff_unknown
  case unknown.json => exact swap gives_json_iff_unknown
  case yaml.unknown => exact gives_yaml_iff_unknown
  case unknown.yaml => exact swap gives_yaml_iff_unknown
  case json.yaml => simp only [gives_json, gives_yaml, Alike]
  case yaml.json => simp only [gives_json, gives_yaml, Alike, iff_comm]

/-! ## Hints that make no difference to any text -/

/-- A text that is YAML and no JSON. -/
def blockText : String := "max: 1"

/-- A text that is another mapping as JSON than as YAML, where a number with an exponent has a
fraction. -/
def exponentText : String := "\x7b\"max\": 1e3\x7d"

/-- The document of `exponentText` as JSON. -/
def numberDocument : Value := .mapping [(.text "max", .scalar (.float (.ofInt 1000)))]

/-- The document of `exponentText` as YAML. -/
def wordDocument : Value := .mapping [(.text "max", .text "1e3")]

/-- What the readers make of the two texts. -/
theorem readings :
    Yaml.read blockText = .ok (.mapping [(.text "max", .int 1)]) ∧
      Json.read blockText = .error (.malformed .value ⟨1, 1, 0⟩) ∧
      Json.read exponentText = .ok numberDocument ∧ Yaml.read exponentText = .ok wordDocument := by
  decide +kernel

theorem asYaml_block : AsYaml blockText (.mapping [(.text "max", .int 1)]) :=
  ⟨readings.1, _, rfl⟩

theorem malformed_block : Malformed blockText :=
  ⟨.value, ⟨1, 1, 0⟩, readings.2.1⟩

theorem asJson_exponent : AsJson exponentText numberDocument :=
  ⟨readings.2.2.1, _, rfl⟩

theorem asYaml_exponent : AsYaml exponentText wordDocument :=
  ⟨readings.2.2.2, _, rfl⟩

/-- Exactly equal hints make no difference to any text. -/
theorem alike_iff_eq : (∀ text, Alike text first second) ↔ first = second := by
  have jsonUnknown : ¬Alike blockText .json .unknown := fun alike =>
    alike malformed_block _ asYaml_block
  have jsonYaml : ¬Alike blockText .json .yaml := fun alike =>
    ((alike _).2 asYaml_block).not_malformed malformed_block
  have yamlUnknown : ¬Alike exponentText .yaml .unknown := by
    intro alike
    have asYaml := (alike asJson_exponent.not_malformed numberDocument).1 asJson_exponent
    have same : numberDocument = wordDocument :=
      Except.ok.inj (asYaml.1.symm.trans asYaml_exponent.1)
    exact absurd same (by decide)
  constructor
  · intro alike
    cases first <;> cases second
    case json.json | yaml.yaml | unknown.unknown => rfl
    case json.unknown => exact absurd (alike _) jsonUnknown
    case unknown.json => exact absurd (alike _).symm jsonUnknown
    case json.yaml => exact absurd (alike _) jsonYaml
    case yaml.json => exact absurd (alike _).symm jsonYaml
    case yaml.unknown => exact absurd (alike _) yamlUnknown
    case unknown.yaml => exact absurd (alike _).symm yamlUnknown
  · rintro rfl text
    cases first <;> trivial

/-- When the two hints for a page are the same. With `yaml` in the content type, it must not name
`json` as well; otherwise the suffix of the address has to say what the content type says. -/
theorem hints_eq_iff {contentType address : String} :
    hintOfSourceType contentType = hintOfReference contentType address ↔
      if Text.holds "yaml" contentType then Text.holds "json" contentType = false
      else Location.formatOfSuffix (FilePath.ofString address).suffix =
        hintOfSourceType contentType := by
  unfold hintOfReference
  by_cases yaml : Text.holds "yaml" contentType = true
  · rw [if_pos yaml, if_pos yaml, hintOfSourceType, yaml]
    cases Text.holds "json" contentType <;> simp
  · rw [if_neg yaml, if_neg yaml, eq_comm]

/-! ## Loading a page -/

section Page

variable {host : Host} {follows : Bool} {address reference : String} {page : Page}
variable {scope target : Reference.Scope} {value : Value}

theorem ofWeb_eq_ok {hintOf : Page → Location.Format}
    (fetched : (host.web.fetch follows address).outcome = .ok page) :
    (ofWeb host.web follows hintOf address).outcome = .ok document ↔
      Gives (hintOf page) page.body document := by
  rw [← read_eq_ok, ofWeb, fetchPage, fetched]
  exact mapError_eq_ok

/-- Loading a source that is a page reads its text. -/
theorem load_page (isWeb : Location.isWeb address = true)
    (fetched : (host.web.fetch true address).outcome = .ok page) :
    (load host address).outcome = .ok document ↔
      Gives (hintOfSourceType page.contentType) page.body document := by
  have notInput : ¬(address == "-") = true := by
    rw [beq_iff_eq]
    rintro rfl
    cases isWeb
  rw [load, if_neg notInput, if_pos isWeb, ofWeb_eq_ok fetched]

/-- Loading a page that a document refers to reads its text, too. -/
theorem loadReferenced_page (isWeb : Location.isWeb address = true)
    (fetched : (host.web.fetch follows address).outcome = .ok page) :
    (loadReferenced host follows address).outcome = .ok document ↔
      Gives (hintOfReference page.contentType address) page.body document := by
  rw [loadReferenced, if_pos isWeb, ofWeb_eq_ok fetched]

/-- A reference to a whole page designates its document. -/
theorem designated_page (fetch : String → Except SourceFault Value) (scope : Reference.Scope)
    (isWeb : Location.isWeb address = true) (names : Reference.split reference = (address, "")) :
    Reference.designated fetch scope reference = Except.ok (target, value) ↔
      fetch address = .ok value ∧ target = ⟨value, some address⟩ := by
  have named : address ≠ "" := by
    rintro rfl
    cases isWeb
  have joined : Location.join scope.location address = .ok address := by
    simp [Location.join, isWeb]
  rw [Reference.designated_eq_ok, names, Reference.enter_eq_ok, joined]
  have whole (document : Value) : Pointer.resolve document "" = .ok document := rfl
  constructor
  · rintro ⟨⟨empty, _⟩ | ⟨_, _, document, ⟨⟩, loaded, rfl⟩, selected⟩
    · exact absurd empty named
    · cases (whole document).symm.trans selected
      exact ⟨loaded, rfl⟩
  · rintro ⟨loaded, rfl⟩
    exact ⟨.inr ⟨named, address, value, rfl, loaded, rfl⟩, whole value⟩

/-- Whatever the page of an address holds: as a source and as a reference in any document it is the
same document, or none, exactly if the hints that are taken make no difference to its text. They
make none to any text exactly if they are the same. With `yaml` in the content type this is the case
where `json` is not in it, too, and otherwise where the suffix of the address says the same as the
content type. -/
theorem load_agrees_iff (scope : Reference.Scope) (isWeb : Location.isWeb address = true)
    (fetched : (host.web.fetch follows address).outcome = .ok page)
    (names : Reference.split reference = (address, "")) :
    let designated := Reference.designated
      (fun location => (loadReferenced host follows location).outcome) scope reference
    let sourceHint := hintOfSourceType page.contentType
    let referenceHint := hintOfReference page.contentType address
    (∀ document, (load host address).outcome = .ok document ↔
        Gives sourceHint page.body document) ∧
      (∀ target document, designated = Except.ok (target, document) ↔
        Gives referenceHint page.body document ∧ target = ⟨document, some address⟩) ∧
      ((∀ document, (load host address).outcome = .ok document ↔
          designated = Except.ok (⟨document, some address⟩, document)) ↔
        Alike page.body sourceHint referenceHint) ∧
      ((∀ text, Alike text sourceHint referenceHint) ↔
        if Text.holds "yaml" page.contentType then Text.holds "json" page.contentType = false
        else Location.formatOfSuffix (FilePath.ofString address).suffix = sourceHint) := by
  intro designated sourceHint referenceHint
  have source (document : Value) :
      (load host address).outcome = .ok document ↔ Gives sourceHint page.body document :=
    load_page isWeb (Web.fetch_of_fetch fetched)
  have referred (target : Reference.Scope) (document : Value) :
      designated = Except.ok (target, document) ↔
        Gives referenceHint page.body document ∧ target = ⟨document, some address⟩ := by
    rw [← loadReferenced_page isWeb fetched]
    exact designated_page _ scope isWeb names
  refine ⟨source, referred, ?_, alike_iff_eq.trans hints_eq_iff⟩
  rw [← gives_iff]
  simp only [source, referred, and_true]

end Page

/-- A host with one page. -/
def pageHost (address contentType body : String) : Host :=
  { Host.bare with web := [(address, .response ⟨200, some contentType, none, body⟩)] }

/-- A page with a suffix and a content type that say the same is one document. -/
theorem load_agrees_json :
    let host := pageHost "https://h.test/pet.json" "application/json" exponentText
    let designated := Reference.designated
      (fun location => (loadReferenced host true location).outcome) ⟨.null, none⟩
      "https://h.test/pet.json"
    (load host "https://h.test/pet.json").outcome = .ok numberDocument ∧
      designated =
        Except.ok (⟨numberDocument, some "https://h.test/pet.json"⟩, numberDocument) := by
  intro host designated
  have fetched : (host.web.fetch true "https://h.test/pet.json").outcome =
      .ok ⟨exponentText, "application/json"⟩ := by decide +kernel
  have names : Reference.split "https://h.test/pet.json" = ("https://h.test/pet.json", "") := by
    decide
  obtain ⟨source, _, agree, always⟩ := load_agrees_iff ⟨.null, none⟩ (by decide) fetched names
  have loaded := (source numberDocument).2 (gives_json.2 asJson_exponent)
  exact ⟨loaded, (agree.2 (always.2 (by decide +kernel) _) _).1 loaded⟩

/-- What refers to a page. -/
def pageReference : Entries := [(.text "$ref", .text "https://h.test/pet.yaml")]

/-- A page of type `application/json` whose address ends in `.yaml` is a mapping with a number as a
source, and with a text where a document refers to it. -/
theorem page_of_two_documents :
    let host := pageHost "https://h.test/pet.yaml" "application/json" exponentText
    (load host "https://h.test/pet.yaml").outcome = .ok numberDocument ∧
      (Reference.dereference (loads host) Reference.depthLimit
        (.mapping [(.text "a", .mapping pageReference)]) none).result =
          .ok (.mapping [(.text "a", wordDocument)]) := by
  intro host
  have isWeb : Location.isWeb "https://h.test/pet.yaml" = true := by decide
  have fetched : (host.web.fetch true "https://h.test/pet.yaml").outcome =
      .ok ⟨exponentText, "application/json"⟩ := by decide +kernel
  have asSource : Gives (hintOfSourceType "application/json") exponentText numberDocument := by
    rw [show hintOfSourceType "application/json" = .json by decide +kernel]
    exact gives_json.2 asJson_exponent
  have asReference : Gives (hintOfReference "application/json" "https://h.test/pet.yaml")
      exponentText wordDocument := by
    rw [show hintOfReference "application/json" "https://h.test/pet.yaml" = .yaml by decide +kernel]
    exact gives_yaml.2 asYaml_exponent
  refine ⟨(load_page isWeb fetched).2 asSource, ?_⟩
  have names : Reference.split "https://h.test/pet.yaml" = ("https://h.test/pet.yaml", "") := by
    decide +kernel
  let scope : Reference.Scope := ⟨.mapping [(.text "a", .mapping pageReference)], none⟩
  have loaded : loads host "https://h.test/pet.yaml" = .ok wordDocument :=
    (loadReferenced_page isWeb fetched).2 asReference
  obtain ⟨entered, selected⟩ := Reference.designated_eq_ok.1
    ((designated_page (loads host) scope isWeb names).2 ⟨loaded, rfl⟩)
  have found : Reference.reference? pageReference = some "https://h.test/pet.yaml" := by rfl
  -- there is nothing beside the reference that would be laid over the document
  have resolved : Reference.Resolves (Reference.direct (loads host)) Reference.depthLimit scope []
      (.mapping pageReference) (.mapping (Entries.putAll [(.text "max", .text "1e3")] [])) :=
    .laid found entered List.not_mem_nil selected
      (.ofEntries (by rfl) (.cons ⟨rfl, .scalar _⟩ .nil)) (by rfl) nofun
  rw [Reference.dereference_result, Reference.resolve_eq_ok]
  exact .ofEntries (by rfl) (.cons ⟨rfl, resolved⟩ .nil)

end Contract

end RouteTypes
