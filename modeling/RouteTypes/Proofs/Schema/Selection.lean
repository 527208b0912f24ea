import RouteTypes.Proofs.CommandLine
import RouteTypes.Proofs.Schema.Narrowing

/-!
# The routes of a run

Three sources of rules select routes of a contract together: a file that lists routes, routes that
are named one by one, and patterns. The schema of a run has exactly the routes that any of them
selects and that have a method, in document order (`routes_of_selection`). Without any rule every
route is selected.
-/

namespace RouteTypes

variable {settings : Settings} {files : FileSystem} {listed : List String}
variable {routes patterns : List String} {rules : List Rule} {route : String}

/-! ## Rules -/

/-- The text of a pattern is found in a route. -/
def Pattern.occurs (text route : String) : Bool :=
  (Pattern.ofText text).toOption.any fun pattern => pattern.isIn route

namespace Rule

theorem ofPattern_of_ok {text : String} {pattern : Pattern}
    (found : Pattern.ofText text = .ok pattern) : ofPattern text = .ok (.pattern pattern) := by
  simp [ofPattern, found]

/-- Patterns that can be read become rules, and one of these holds where one of the patterns is
found. -/
theorem mapM_ofPattern
    (readable : ∀ text ∈ patterns, ∃ pattern, Pattern.ofText text = .ok pattern) :
    ∃ rules, patterns.mapM ofPattern = .ok rules ∧ rules.isEmpty = patterns.isEmpty ∧
      ∀ route, rules.any (·.holds route) = patterns.any (Pattern.occurs · route) := by
  induction patterns with
  | nil => exact ⟨[], rfl, rfl, fun _ => rfl⟩
  | cons text rest ih =>
      obtain ⟨pattern, found⟩ := readable text List.mem_cons_self
      obtain ⟨rules, made, _, holds⟩ := ih fun text member => readable text (.tail _ member)
      refine ⟨.pattern pattern :: rules, ?_, rfl, ?_⟩
      · rw [List.mapM_cons, ofPattern_of_ok found, made]
        rfl
      · intro route
        rw [List.any_cons, List.any_cons, holds]
        simp [Pattern.occurs, found, Except.toOption, Rule.holds]

theorem any_literal (routes : List String) (route : String) :
    (routes.map Rule.literal).any (·.holds route) = routes.contains route := by
  induction routes with
  | nil => rfl
  | cons first rest ih => rw [List.map_cons, List.any_cons, ih, List.contains_cons, holds]

/-- Routes and patterns that can be read become rules. -/
theorem ofTexts_eq_ok (routes : List String)
    (readable : ∀ text ∈ patterns, ∃ pattern, Pattern.ofText text = .ok pattern) :
    ∃ rules, ofTexts routes patterns = .ok rules ∧
      rules.isEmpty = (routes.isEmpty && patterns.isEmpty) ∧
      ∀ route, rules.any (·.holds route) =
        (routes.contains route || patterns.any (Pattern.occurs · route)) := by
  obtain ⟨rules, made, empty, holds⟩ := mapM_ofPattern readable
  refine ⟨routes.map .literal ++ rules, ?_, ?_, ?_⟩
  · rw [ofTexts, made]
    rfl
  · cases routes with
    | nil => exact empty
    | cons => rfl
  · intro route
    rw [List.any_append, any_literal, holds]

end Rule

/-! ## The three sources -/

namespace Settings

/-- The routes in the file that the settings name, if they name any. -/
def listedRoutes (settings : Settings) (files : FileSystem) :
    Except SelectionFault (List String) :=
  match filled? settings.routesFile with
  | some path => routesInFile files path
  | none => .ok []

/-- A route is selected by settings and by the routes of their file: it is in this file or among the
routes, or one of the patterns is found in it. Without any of these every route is. -/
def selects (settings : Settings) (listed : List String) (route : String) : Bool :=
  (listed ++ settings.routes).contains route ||
    settings.patterns.any (Pattern.occurs · route) ||
    (listed ++ settings.routes).isEmpty && settings.patterns.isEmpty

/-- The patterns of settings can be read. -/
def Readable (settings : Settings) : Prop :=
  ∀ text ∈ settings.patterns, ∃ pattern, Pattern.ofText text = .ok pattern

theorem rules_eq (settings : Settings) (files : FileSystem) :
    settings.rules files = settings.listedRoutes files >>= fun listed =>
      (Rule.ofTexts (listed ++ settings.routes) settings.patterns).mapError .pattern := by
  unfold Settings.rules listedRoutes
  cases filled? settings.routesFile <;> rfl

/-- The rules of settings keep the routes that are selected. -/
theorem rules_eq_ok (loaded : settings.listedRoutes files = .ok listed)
    (readable : settings.Readable) :
    ∃ rules, settings.rules files = .ok rules ∧
      ∀ route, (rules.isEmpty || rules.any (·.holds route)) = settings.selects listed route := by
  obtain ⟨rules, made, empty, holds⟩ := Rule.ofTexts_eq_ok (listed ++ settings.routes) readable
  refine ⟨rules, ?_, ?_⟩
  · rw [rules_eq, loaded]
    exact congrArg (Except.mapError SelectionFault.pattern) made
  · intro route
    rw [empty, holds, Bool.or_comm, selects]

theorem isEmpty_congr {left right : List String} (same : ∀ text, text ∈ left ↔ text ∈ right) :
    left.isEmpty = right.isEmpty := by
  rw [Bool.eq_iff_iff, List.isEmpty_iff, List.isEmpty_iff, List.eq_nil_iff_forall_not_mem,
    List.eq_nil_iff_forall_not_mem]
  simp only [same]

theorem any_congr {left right : List String} (same : ∀ text, text ∈ left ↔ text ∈ right)
    (test : String → Bool) : left.any test = right.any test := by
  rw [Bool.eq_iff_iff, List.any_eq_true, List.any_eq_true]
  simp only [same]

/-- Neither the order of rules nor their repetition matters, nor the source of a route. -/
theorem selects_congr {others : Settings} {otherListed : List String}
    (routes : ∀ route, route ∈ listed ++ settings.routes ↔ route ∈ otherListed ++ others.routes)
    (patterns : ∀ text, text ∈ settings.patterns ↔ text ∈ others.patterns) :
    settings.selects listed = others.selects otherListed := by
  funext route
  have named : (listed ++ settings.routes).contains route =
      (otherListed ++ others.routes).contains route := by
    rw [Bool.eq_iff_iff, List.contains_iff_mem, List.contains_iff_mem, routes]
  rw [selects, selects, named, isEmpty_congr routes, isEmpty_congr patterns, any_congr patterns]

end Settings

/-! ## The schema -/

variable {contract : Contract.Document} {select : String → Bool}

/-- Rules keep the routes for which one of them holds, and all routes where there are none. -/
theorem Contract.Document.narrow_rules (contract : Contract.Document)
    (holds : ∀ route, (rules.isEmpty || rules.any (·.holds route)) = select route) :
    contract.narrow (some (.rules rules)) =
      { contract with paths := contract.paths.filter fun path => select path.1 } := by
  unfold Contract.Document.narrow RouteFilter.isEmpty RouteFilter.keeps
  dsimp only
  split
  next empty =>
    have all : (fun path : String × Option PathItem => select path.1) = fun _ => true := by
      funext path
      rw [← holds, empty, Bool.true_or]
    rw [all, List.filter_true]
  next some =>
    have same : (fun path : String × Option PathItem => rules.any (·.holds path.1)) =
        fun path => select path.1 := by
      funext path
      rw [← holds, Bool.eq_false_iff.2 some, Bool.false_or]
    rw [same]

namespace Schema

/-- The schema of a contract with the routes that are selected has these, as far as they have a
method. -/
theorem keysAt_selected {schema : Fields}
    (built : Generator.schemaFields
      { contract with paths := contract.paths.filter fun path => select path.1 } = .ok schema) :
    (Value.ofFields schema).KeysAt ["properties"] ((contract.paths.filter fun path =>
      Contract.PathItem.HasMethods path.2 && select path.1).map Prod.fst) := by
  obtain ⟨tree, made, rfl⟩ := schemaFields_eq_ok.1 built
  simpa [List.filter_filter, Schema.toValue] using keysAt_routes made

/-- Where a contract has a schema, it has one with the routes that are selected. -/
theorem exists_selected {whole : Fields} (built : Generator.schemaFields contract = .ok whole)
    (select : String → Bool) :
    ∃ schema, Generator.schemaFields
      { contract with paths := contract.paths.filter fun path => select path.1 } =
        .ok schema := by
  obtain ⟨tree, made, rfl⟩ := schemaFields_eq_ok.1 built
  obtain ⟨properties, children, rfl⟩ := ofDocument_eq_ok made
  have kept := children_filter select children
  have selected : ofDocument
      { contract with paths := contract.paths.filter fun path => select path.1 } =
        .ok (closed none (properties.filter fun property => select property.1)) :=
    Checked.bind_eq_ok.2 ⟨_, kept, rfl⟩
  exact ⟨_, schemaFields_eq_ok.2 ⟨_, selected, rfl⟩⟩

/-- The routes of a run are exactly those that are selected. -/
theorem routes_of_selection (loaded : settings.listedRoutes files = .ok listed)
    (readable : settings.Readable) :
    ∃ rules, settings.rules files = .ok rules ∧
      (∀ (contract : Contract.Document) whole, Generator.schemaFields contract = .ok whole →
        ∃ schema, Generator.schemaFields (contract.narrow (some (.rules rules))) = .ok schema) ∧
      (∀ (contract : Contract.Document) schema,
        Generator.schemaFields (contract.narrow (some (.rules rules))) = .ok schema →
          (Value.ofFields schema).KeysAt ["properties"] ((contract.paths.filter fun path =>
            Contract.PathItem.HasMethods path.2 && settings.selects listed path.1).map
              Prod.fst)) ∧
      (∀ host contract compiled, host.files = files →
        CommandLine.Prepares host settings contract compiled →
          Generator.schemaFields (contract.narrow (some (.rules rules))) =
            .ok compiled.schema) ∧
      ∀ (others : Settings) otherFiles otherListed otherRules,
        others.listedRoutes otherFiles = .ok otherListed →
        others.rules otherFiles = .ok otherRules →
        (∀ route, route ∈ listed ++ settings.routes ↔ route ∈ otherListed ++ others.routes) →
        (∀ text, text ∈ settings.patterns ↔ text ∈ others.patterns) →
        ∀ contract : Contract.Document,
          contract.narrow (some (.rules otherRules)) = contract.narrow (some (.rules rules)) := by
  obtain ⟨rules, made, holds⟩ := Settings.rules_eq_ok loaded readable
  refine ⟨rules, made, ?_, ?_, ?_, ?_⟩
  · intro contract whole built
    rw [contract.narrow_rules holds]
    exact exists_selected built _
  · intro contract schema built
    rw [contract.narrow_rules holds] at built
    exact keysAt_selected built
  · rintro host contract compiled rfl ⟨selected, _, _, _, _, compiledBy⟩
    cases made.symm.trans selected
    exact compiledBy.schema
  · intro others otherFiles otherListed otherRules otherLoaded otherMade routes patterns contract
    have otherReadable : others.Readable :=
      fun text member => readable text ((patterns text).2 member)
    obtain ⟨_, alsoMade, otherHolds⟩ := Settings.rules_eq_ok otherLoaded otherReadable
    cases otherMade.symm.trans alsoMade
    rw [contract.narrow_rules holds, contract.narrow_rules otherHolds,
      Settings.selects_congr routes patterns]

/-- Settings with a file of routes and a pattern. -/
def choosy : Settings :=
  { Settings.default with routesFile := some "routes.json", patterns := ["^/t"] }

/-- Files with a file of one route, which `twoRoutes` does not have. -/
def listing : FileSystem :=
  ⟨[], [(["routes.json"], .file (Utf8.encodeString "[\"/dogs\"]"))]⟩

/-- Of two routes one is selected, as the pattern is found in it. The route in the file is neither
of them. -/
theorem routes_of_selection_toys :
    choosy.listedRoutes listing = .ok ["/dogs"] ∧ choosy.Readable ∧
      ∃ rules schema, choosy.rules listing = .ok rules ∧
        Generator.schemaFields (twoRoutes.narrow (some (.rules rules))) = .ok schema ∧
        (Value.ofFields schema).KeysAt ["properties"] ["/toys"] := by
  have loaded : choosy.listedRoutes listing = .ok ["/dogs"] :=
    eq_ok_of_toOption (by decide +kernel)
  have readable : choosy.Readable := by
    intro text member
    rw [List.mem_singleton.1 member]
    exact exists_ok_of_isSome (by decide +kernel)
  obtain ⟨rules, made, built, keys, _⟩ := routes_of_selection loaded readable
  have whole : Generator.schemaFields twoRoutes = .ok twoRoutesTree.toFields := by cbv
  obtain ⟨schema, isSchema⟩ := built twoRoutes _ whole
  have selected : (twoRoutes.paths.filter fun path =>
      Contract.PathItem.HasMethods path.2 && choosy.selects ["/dogs"] path.1).map Prod.fst =
        ["/toys"] := by decide +kernel
  exact ⟨loaded, readable, rules, schema, made, isSchema, selected ▸ keys _ _ isSchema⟩

end Schema

end RouteTypes
