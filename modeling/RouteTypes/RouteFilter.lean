import RouteTypes.Contract.Model
import RouteTypes.Pattern

/-!
# Route filters

A filter selects routes of a contract: by rules, one of which has to hold, or by a predicate.
Rules that are given as texts are routes first and patterns then. No rules at all keep every
route, as no filter does.
-/

namespace RouteTypes

/-- A rule: a route itself, or a pattern that is found in it. -/
inductive Rule where
  | literal (route : String)
  | pattern (pattern : Pattern)

/-- A selection of routes. -/
inductive RouteFilter where
  | rules (rules : List Rule)
  | predicate (holds : String → Option Contract.PathItem → Bool)

/-- A text that is no pattern. -/
structure PatternFault where
  pattern : String
  fault : Pattern.Fault
  deriving DecidableEq, Repr

namespace Rule

/-- The rule holds for a route. -/
def holds (rule : Rule) (route : String) : Bool :=
  match rule with
  | .literal wanted => route == wanted
  | .pattern searched => searched.isIn route

/-- Reads the text of a pattern as a rule. -/
def ofPattern (text : String) : Except PatternFault Rule :=
  match Pattern.ofText text with
  | .ok found => .ok (.pattern found)
  | .error fault => .error ⟨text, fault⟩

/-- The rules for routes and for the texts of patterns. -/
def ofTexts (routes patterns : List String) : Except PatternFault (List Rule) := do
  return routes.map .literal ++ (← patterns.mapM ofPattern)

end Rule

namespace RouteFilter

/-- The filter has no rules. -/
def isEmpty : RouteFilter → Bool
  | .rules list => list.isEmpty
  | .predicate _ => false

/-- The filter keeps a route with its path item. -/
def keeps (filter : RouteFilter) (route : String) (item : Option Contract.PathItem) : Bool :=
  match filter with
  | .rules list => list.any (·.holds route)
  | .predicate test => test route item

/-- There is nothing to select by. -/
def isVoid (filter : Option RouteFilter) : Bool :=
  filter.all isEmpty

end RouteFilter

/-- The contract with the routes that a filter keeps, in their order. -/
def Contract.Document.narrow (document : Contract.Document) (filter : Option RouteFilter) :
    Contract.Document :=
  match filter with
  | none => document
  | some filter =>
    if filter.isEmpty then document
    else { document with paths := document.paths.filter fun path => filter.keeps path.1 path.2 }

/-- What the user is told. -/
def PatternFault.message (fault : PatternFault) : String :=
  s!"Invalid path pattern {Text.quoted fault.pattern}: {fault.fault.message fault.pattern}"

end RouteTypes
