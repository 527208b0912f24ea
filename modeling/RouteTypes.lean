import RouteTypes.Contract.Dump
import RouteTypes.Main
import RouteTypes.Session
import RouteTypes.Proofs.Reference.Traversal
import RouteTypes.Proofs.Reference.Cache
import RouteTypes.Proofs.Reference.Unfolding
import RouteTypes.Proofs.Reference.Acyclic
import RouteTypes.Proofs.Check.Success
import RouteTypes.Proofs.Contract.Provenance
import RouteTypes.Proofs.Contract.Source
import RouteTypes.Proofs.Location
import RouteTypes.Proofs.Reference.Ending
import RouteTypes.Proofs.Reference.Files
import RouteTypes.Proofs.Reference.Spelling
import RouteTypes.Proofs.Schema.SelfContained
import RouteTypes.Proofs.Reference.Store
import RouteTypes.Proofs.Schema.Levels
import RouteTypes.Proofs.Contract.Distinct
import RouteTypes.Proofs.Schema.Bodies
import RouteTypes.Proofs.Schema.Descriptions
import RouteTypes.Proofs.Json.RoundTrip
import RouteTypes.Proofs.Json.Expressible
import RouteTypes.Proofs.Schema.Names
import RouteTypes.Proofs.Schema.Payload
import RouteTypes.Proofs.Value.Equality
import RouteTypes.Proofs.Reference.Loading
import RouteTypes.Proofs.Reference.Meaning
import RouteTypes.Proofs.Schema.Narrowing
import RouteTypes.Proofs.Session
import RouteTypes.Proofs.Schema.Required
import RouteTypes.Proofs.Contract.Version
import RouteTypes.Proofs.Contract.Loading
import RouteTypes.Proofs.FileSystem.Writing
import RouteTypes.Proofs.CommandLine
import RouteTypes.Proofs.Schema.Selection
import RouteTypes.Proofs.Check.Agreement
import RouteTypes.Proofs.Contract.Bare
import RouteTypes.Proofs.Contract.Extras
import RouteTypes.Proofs.Reference.Relocation
import RouteTypes.Proofs.Narrowing
import RouteTypes.Proofs.Schema.File
import RouteTypes.Proofs.Contract.Pages
import RouteTypes.Proofs.Settings
import RouteTypes.Proofs.Number.Integer
import RouteTypes.Proofs.Text.Percent
import RouteTypes.Proofs.Pointer.Grammar
import RouteTypes.Proofs.Pointer.Address
import RouteTypes.Proofs.Schema.Parameters
import RouteTypes.Proofs.Schema.Repetitions
import RouteTypes.Proofs.Schema.Closed
import RouteTypes.Proofs.Contract.Dump
import RouteTypes.Proofs.Contract.Methods
import RouteTypes.Proofs.Contract.Formats
import RouteTypes.Proofs.Location.FileUrl
import RouteTypes.Proofs.Location.Remote
import RouteTypes.Proofs.Settings.Failing
import RouteTypes.Proofs.Compiler
