import RouteTypes.Contract.Reading
import RouteTypes.Host
import RouteTypes.Text.Lines

/-!
# Sources of contract documents

A document is loaded from standard input, from a file or from the web. The suffix of a file and
the content type of a page hint at its format. A source is named by exactly one of two options.
-/

namespace RouteTypes.Contract

/-- Why a document could not be loaded. -/
inductive SourceFault where
  | missing (path : String)
  | empty (path : String)
  | unreadable (path : String) (fault : FileFault)
  | file (fault : FileFault)
  | undecodable (fault : Utf8.Fault)
  | undecodableInput (fault : Utf8.Fault)
  | emptyInput
  | web (page : String) (fault : WebFault)
  | address (fault : Url.Fault)
  | content (fault : ReadFault)
  | twoSources
  | noSource

/-- What the user is told. -/
def SourceFault.message : SourceFault → String
  | .missing path => s!"Contract file not found: {path}"
  | .empty path => s!"Contract file is empty: {path}"
  | .unreadable path fault => s!"Failed to read contract file {path}: {fault.message}"
  | .file fault => fault.message
  | .undecodable fault => fault.message
  | .undecodableInput fault => s!"Failed to read from stdin: {fault.message}"
  | .emptyInput => "No input received from stdin"
  | .web page fault => fault.message page
  | .address fault => fault.message
  | .content fault => fault.message
  | .twoSources => "--contracts-file and --contracts-url are mutually exclusive"
  | .noSource =>
    "Either --contracts-file or --contracts-url is required " ++
      "(use '--contracts-file -' to read from stdin)"

/-- A result together with the addresses that were requested on the way. -/
structure Loaded (α : Type) where
  requests : List String
  outcome : Except SourceFault α

/-- A result for which nothing was requested. -/
def Loaded.offline (outcome : Except SourceFault α) : Loaded α := ⟨[], outcome⟩

/-- The text of a document, and the hint at its format. -/
structure Draft where
  text : String
  hint : Location.Format

/-- Reads the document that a text holds. -/
def Draft.read (draft : Draft) : Except SourceFault Value :=
  (Contract.read draft.hint draft.text).mapError .content

/-- The text in a file. -/
def fileText (files : FileSystem) (path : String) : Except SourceFault String := do
  let file := FilePath.ofString path
  if !(← (files.isFile file).mapError .file) then throw (.missing path)
  let bytes ← (files.read file).mapError (.unreadable path)
  let text ← (Text.ofFile bytes).mapError .undecodable
  if Text.isAllBlank text.toList then throw (.empty path)
  return text

/-- Loads the document in a file. -/
def ofFile (files : FileSystem) (path : String) : Except SourceFault Value := do
  let text ← fileText files path
  Draft.read ⟨text, Location.formatOfSuffix (FilePath.ofString path).suffix⟩

/-- Loads the document on standard input. -/
def ofInput (input : Bytes) : Except SourceFault Value := do
  let text ← (Text.ofFile input).mapError .undecodableInput
  if Text.isAllBlank text.toList then throw .emptyInput
  Draft.read ⟨text, .unknown⟩

/-- The hint of the content type of a page that is the source of a document. -/
def hintOfSourceType (contentType : String) : Location.Format :=
  if Text.holds "json" contentType then .json
  else if Text.holds "yaml" contentType || Text.holds "yml" contentType then .yaml
  else .unknown

/-- The hint of the content type and the address of a page that is referred to. -/
def hintOfReference (contentType address : String) : Location.Format :=
  if Text.holds "yaml" contentType then .yaml
  else Location.formatOfSuffix (FilePath.ofString address).suffix

/-- The page at an address. -/
def fetchPage (web : Web) (follows : Bool) (address : String) : Loaded Page :=
  let fetch := web.fetch follows address
  ⟨fetch.requests, fetch.outcome.mapError (.web address)⟩

/-- Loads the document on a page. -/
def ofWeb (web : Web) (follows : Bool) (hint : Page → Location.Format) (address : String) :
    Loaded Value :=
  let page := fetchPage web follows address
  ⟨page.requests, do
    let page ← page.outcome
    Draft.read ⟨page.body, hint page⟩⟩

/-- Loads a document from any source. -/
def load (host : Host) (source : String) : Loaded Value :=
  if source == "-" then .offline (ofInput host.input)
  else if Location.isWeb source then
    ofWeb host.web true (fun page => hintOfSourceType page.contentType) source
  else if Location.isFileUrl source then
    .offline do
      let path ← (Location.fileUrlPath source).mapError .address
      ofFile host.files path
  else .offline (ofFile host.files source)

/-- The one source that two options name; an empty option names none. -/
def chooseSource (file address : Option String) : Except SourceFault String :=
  match file.filter (· != ""), address.filter (· != "") with
  | some _, some _ => .error .twoSources
  | none, some address => .ok address
  | some file, none => .ok file
  | none, none => .error .noSource

/-- Loads a document from the one source that two options name. -/
def loadFrom (host : Host) (file address : Option String) : Loaded Value :=
  match chooseSource file address with
  | .ok source => load host source
  | .error fault => .offline (.error fault)

/-- Loads a document that another one refers to. -/
def loadReferenced (host : Host) (follows : Bool) (location : String) : Loaded Value :=
  if Location.isWeb location then
    ofWeb host.web follows (fun page => hintOfReference page.contentType location) location
  else .offline (ofFile host.files location)

end RouteTypes.Contract
