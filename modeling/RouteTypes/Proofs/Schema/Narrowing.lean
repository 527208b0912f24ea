import RouteTypes.Proofs.Schema.Bodies

/-!
# The tree of a part of a contract

A filter selects routes of a contract, and the tree leaves out routes for reasons of its own. Both
may be done in either order: the tree of the part that a filter selects is the tree of the whole
contract with the routes that the filter keeps (`ofDocument_narrow`).
-/

namespace RouteTypes

/-! ## The routes that are kept -/

namespace Contract

/-- A route of a contract is kept by a filter: there is nothing to select by, or the filter keeps
the route with its path item. -/
def Document.keeps (contract : Document) (filter : Option RouteFilter) (route : String) : Bool :=
  RouteFilter.isVoid filter ||
    filter.any fun filter => (Fields.get? contract.paths route).any (filter.keeps route)

variable {contract : Document}

/-- Where each route stands once, a filter selects by the route alone. -/
theorem paths_narrow (distinct : (contract.paths.map Prod.fst).Nodup)
    (filter : Option RouteFilter) :
    (contract.narrow filter).paths =
      contract.paths.filter fun path => contract.keeps filter path.1 := by
  have whole (void : RouteFilter.isVoid filter = true) :
      contract.paths = contract.paths.filter fun path => contract.keeps filter path.1 := by
    simp [Document.keeps, void]
  cases filter with
  | none => exact whole rfl
  | some filter =>
      rw [Document.narrow]
      split
      next empty => exact whole empty
      next present =>
        refine List.filter_congr fun path member => ?_
        have found : Fields.get? contract.paths path.1 = some path.2 :=
          Fields.get?_of_mem distinct member
        simp [Document.keeps, RouteFilter.isVoid, present, found]

end Contract

namespace Schema

/-! ## Children of selected items -/

/-- Items may be selected by their names before or after they become children of an object. -/
theorem children_filter {κ α : Type} {name : κ → String}
    {schemaOf : κ → α → Checked (Option Schema)} {items : List (κ × α)}
    {results : List (String × Schema)} (keep : String → Bool)
    (success : children name schemaOf items = .ok results) :
    children name schemaOf (items.filter fun item => keep (name item.1)) =
      .ok (results.filter fun property => keep property.1) := by
  induction items generalizing results with
  | nil =>
      cases success
      rfl
  | cons item rest ih =>
      simp only [children, Checked.bind_eq_ok, Checked.pure_eq_ok] at success
      obtain ⟨result, built, others, success, rfl⟩ := success
      have later := ih success
      rw [List.filter_cons]
      by_cases kept : keep (name item.1) = true
      · rw [if_pos kept]
        simp only [children, Checked.bind_eq_ok, Checked.pure_eq_ok]
        refine ⟨result, built, _, later, ?_⟩
        cases result with
        | none => rfl
        | some schema => simp [kept]
      · rw [if_neg kept, later]
        cases result with
        | none => rfl
        | some schema => simp [kept]

/-! ## The tree -/

variable {contract : Contract.Document} {tree : Schema}

/-- Where a contract has a tree, the part of it that a filter selects has one, too: the tree of the
contract with those properties and required names that are routes which the filter keeps, in their
order. The schemas of these routes, the description and the openness are those of the contract. -/
theorem ofDocument_narrow (distinct : (contract.paths.map Prod.fst).Nodup)
    (built : ofDocument contract = .ok tree) (filter : Option RouteFilter) :
    ∃ description properties required additional,
      tree = .object description properties required additional ∧
        ofDocument (contract.narrow filter) = .ok (.object description
          (properties.filter fun property => contract.keeps filter property.1)
          (required.filter fun route => contract.keeps filter route) additional) := by
  obtain ⟨properties, made, rfl⟩ := ofDocument_eq_ok built
  refine ⟨none, properties, properties.map Prod.fst, false, rfl, ?_⟩
  have kept := children_filter (contract.keeps filter) made
  have names : (properties.map Prod.fst).filter (fun route => contract.keeps filter route) =
      (properties.filter fun property => contract.keeps filter property.1).map Prod.fst := by
    rw [List.filter_map]
    rfl
  rw [ofDocument, Contract.paths_narrow distinct filter, Checked.bind_eq_ok]
  refine ⟨_, kept, ?_⟩
  rw [names]
  rfl

/-- A contract with two routes, whose operations have one response each. -/
def twoRoutes : Contract.Document where
  openapi := "3.0.0"
  info := Contract.Info.default
  paths :=
    [("/pets", some ⟨[(.get, some (answering [("type", .text "string")]))], []⟩),
      ("/toys", some ⟨[(.post, some (answering [("type", .text "integer")]))], []⟩)]
  components := none
  extras := []

/-- The tree of a route of `twoRoutes`. -/
def routeTree (method : Contract.Method) (route type : String) : Schema :=
  closed none [(method.name, closed (some (summaryOf method route))
    [("responses", closed (some s!"Response(s) for {summaryOf method route}")
      [("200", .fragment [("type", .text type)]
        (some s!"200 response for {summaryOf method route}"))])])]

/-- The tree of `twoRoutes`. -/
def twoRoutesTree : Schema :=
  closed none
    [("/pets", routeTree .get "/pets" "string"), ("/toys", routeTree .post "/toys" "integer")]

/-- A rule for one of two routes leaves the tree with this route. -/
theorem ofDocument_narrow_toys :
    (twoRoutes.paths.map Prod.fst).Nodup ∧ ofDocument twoRoutes = .ok twoRoutesTree ∧
      ofDocument (twoRoutes.narrow (some (.rules [.literal "/toys"]))) =
        .ok (closed none [("/toys", routeTree .post "/toys" "integer")]) := by
  have distinct : (twoRoutes.paths.map Prod.fst).Nodup := by decide
  have built : ofDocument twoRoutes = .ok twoRoutesTree := by cbv
  refine ⟨distinct, built, ?_⟩
  obtain ⟨_, _, _, _, equal, narrowed⟩ :=
    ofDocument_narrow distinct built (some (.rules [.literal "/toys"]))
  cases equal
  exact narrowed

end Schema

end RouteTypes
