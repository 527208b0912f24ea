import RouteTypes.Contract.Source
import RouteTypes.Contract.Version
import RouteTypes.Output
import RouteTypes.Reference
import RouteTypes.Settings.Selection

/-!
# Failures

Everything that can go wrong, as one type. A failure has a category. The documented categories
end a run with a status of their own; the others are defects of the input that no part of the
program answers for, and end a run with a crash report.
-/

namespace RouteTypes

/-- Why an operation failed. -/
inductive Failure where
  | source (fault : Contract.SourceFault)
  | reference (fault : Reference.Fault Contract.SourceFault)
  | version (fault : Contract.VersionFault)
  | contract (problems : List Check.Problem)
  | fragment (problems : List Check.Problem)
  | pattern (fault : PatternFault)
  | layer (fault : LayerFault)
  | selection (fault : SelectionFault)
  | compiler (fault : Compiler.Fault)
  | unwritable (cause : Json.Unwritable)
  | output (fault : OutputFault)
  | file (fault : FileFault)

/-- Categories of failures that nobody answers for. What is `endless` is no exception: the run
stands still and never comes back. -/
inductive Crash where
  | value
  | overflow
  | undecodable
  | unencodable
  | type
  | key
  | index
  | attribute
  | missing
  | exists
  | notDirectory
  | isDirectory
  | forbidden
  | lookup
  | system
  | depth
  | shape
  | endless
  deriving DecidableEq, Repr

/-- Categories of failures. -/
inductive Category where
  | usage
  | config
  | load
  | contract
  | version
  | compiler
  | output
  | crash (kind : Crash)
  deriving DecidableEq, Repr

/-- The status with which a run ends. -/
def Category.status : Category → Nat
  | .usage => 2
  | .config => 1
  | .load => 6
  | .contract => 7
  | .version => 7
  | .compiler => 8
  | .output => 9
  | .crash _ => 1

/-- The category of a scalar of a document that has no value. -/
def Yaml.Fault.category : Yaml.Fault → Category
  | .malformed => .contract
  | .character code => if code < Nat.pow 2 31 then .crash .value else .crash .overflow
  | .number _ => .crash .value
  | .sixtieths => .crash .overflow
  | .calendar _ => .crash .value
  | .truth _ => .crash .key
  | .empty => .crash .index
  | .timestamp => .crash .attribute
  | .timestampOf _ => .crash .type

/-- The category of a problem of a pattern. Numbers that are too large and alphabets that exclude
each other are no faults of patterns. -/
def Pattern.Problem.category : Pattern.Problem → Category
  | .hugeCode => .crash .overflow
  | .largeBound => .crash .overflow
  | .longBound _ => .crash .value
  | .twoAlphabets => .crash .value
  | _ => .usage

/-- The category of an obstacle in the file system that nobody answers for. -/
def FileObstacle.category : FileObstacle → Category
  | .missing => .crash .missing
  | .exists => .crash .exists
  | .notDirectory => .crash .notDirectory
  | .isDirectory => .crash .isDirectory
  | .forbidden => .crash .forbidden
  | .nameTooLong => .crash .system
  | .nullCharacter => .crash .value
  | .other _ _ => .crash .system

/-- The category of a text that is no document. -/
def Contract.ReadFault.category : Contract.ReadFault → Category
  | .json _ => .contract
  | .neither _ => .contract
  | .noMapping _ => .contract
  | .number _ => .crash .value
  | .scalar fault => fault.category

/-- The category of a page that could not be fetched. What is no address is not even requested. -/
def WebFault.category : WebFault → Category
  | .status _ => .load
  | .transport _ => .load
  | .address _ => .crash .value

/-- The category of a document that could not be loaded. -/
def Contract.SourceFault.category : Contract.SourceFault → Category
  | .missing _ => .load
  | .empty _ => .load
  | .unreadable _ _ => .load
  | .file fault => fault.obstacle.category
  | .undecodable _ => .crash .undecodable
  | .undecodableInput _ => .load
  | .emptyInput => .load
  | .web _ fault => fault.category
  | .address _ => .crash .value
  | .content fault => fault.category
  | .twoSources => .usage
  | .noSource => .usage

/-- The category of a version that is not supported. -/
def Contract.VersionFault.category : Contract.VersionFault → Category
  | .older _ => .version
  | .unsupported _ => .version
  | .untold => .crash .value

/-- The category of a document that could not be resolved. -/
def Reference.Fault.category : Reference.Fault Contract.SourceFault → Category
  | .pointer _ _ => .contract
  | .address _ => .crash .value
  | .load fault => fault.category
  | .tooDeep => .crash .depth

/-- The category of settings that could not be made. -/
def LayerFault.category : LayerFault → Category
  | .project _ _ => .config
  | .file fault => fault.obstacle.category
  | .undecodable _ => .crash .undecodable
  | .json _ _ => .config
  | .number _ => .crash .value
  | .noObject _ => .config
  | .shape _ => .config
  | .command _ => .crash .value
  | .emptyCommand => .config

/-- The category of a text that is no pattern. -/
def PatternFault.category (fault : PatternFault) : Category :=
  fault.fault.problem.category

/-- The category of routes that could not be selected. -/
def SelectionFault.category : SelectionFault → Category
  | .unreadable _ _ => .config
  | .impossible fault => fault.obstacle.category
  | .undecodable _ => .crash .undecodable
  | .json _ _ => .config
  | .number _ => .crash .value
  | .noTexts _ => .config
  | .pattern fault => fault.category

/-- The category of a value that has no JSON form. -/
def Json.Unwritable.category : Json.Unwritable → Category
  | .value _ => .crash .type
  | .key _ => .crash .type
  | .tooLong => .crash .value
  | .half _ => .crash .unencodable

/-- The category of a schema that could not be compiled. -/
def Compiler.Fault.category : Compiler.Fault → Category
  | .noCommand => .compiler
  | .unwritable cause => cause.category
  | .missing _ => .compiler
  | .forbidden _ => .compiler
  | .refused fault => fault.obstacle.category
  | .unencodable _ => .crash .unencodable
  | .timedOut _ => .compiler
  | .gone => .crash .lookup
  | .endless => .crash .endless
  | .failed _ _ => .compiler
  | .undecodable _ => .crash .undecodable
  | .noOutput => .compiler

/-- The category of a text that could not be written. -/
def OutputFault.category : OutputFault → Category
  | .file _ _ => .output
  | .impossible fault => fault.obstacle.category
  | .outlet _ => .output

namespace Failure

/-- The category of a failure. -/
def category : Failure → Category
  | .source fault => fault.category
  | .reference fault => fault.category
  | .version fault => fault.category
  | .contract _ => .contract
  | .fragment _ => .crash .shape
  | .pattern fault => fault.category
  | .layer fault => fault.category
  | .selection fault => fault.category
  | .compiler fault => fault.category
  | .unwritable cause => cause.category
  | .output fault => fault.category
  | .file fault => fault.obstacle.category

/-- What is told about a pattern. A problem that nobody answers for stands alone. -/
def patternMessage (fault : PatternFault) : String :=
  match fault.category with
  | .crash _ => fault.fault.problem.text
  | _ => fault.message

/-- What the user is told. -/
def message : Failure → String
  | .source fault => fault.message
  | .reference fault => fault.message Contract.SourceFault.message
  | .version fault => fault.message
  | .contract problems =>
    "Invalid contract document: " ++ Check.report "ContractDocument" problems
  | .fragment problems => Check.report "Fragment" problems
  | .pattern fault => patternMessage fault
  | .layer fault => fault.message
  | .selection (.pattern fault) => patternMessage fault
  | .selection fault => fault.message
  | .compiler fault => fault.message
  | .unwritable cause => cause.message
  | .output fault => fault.message
  | .file fault => fault.message

/-- The problems behind a failure. -/
def problems? : Failure → Option (List Check.Problem)
  | .contract problems => some problems
  | .fragment problems => some problems
  | .layer (.shape problems) => some problems
  | _ => none

/-- The version that a document names instead of a supported one. -/
def version? : Failure → Option (Option String)
  | .version .untold => none
  | .version fault => some fault.version
  | _ => none

end Failure

end RouteTypes
