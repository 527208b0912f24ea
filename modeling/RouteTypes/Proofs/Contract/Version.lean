import Mathlib
import RouteTypes.Proofs.Check.Success
import RouteTypes.Proofs.Generator
import RouteTypes.Proofs.Reference.Cache
import RouteTypes.Proofs.Reference.Resolution
import RouteTypes.Proofs.Value.Part

/-!
# The version gate

A document of another version is refused before anything is loaded, and one that is accepted keeps
its version, whatever its root refers to (`create_gated`). The refusal tells which version the
document names instead, which fails for an integer that is too long to be shown
(`long_version_untold`).
-/

namespace RouteTypes

open Reference

/-! ## What can be shown -/

namespace Value

/-- A scalar stands in a value, as a value, as an item of a set or as a key. -/
inductive Mentions (scalar : Scalar) : Value → Prop where
  | scalar : Mentions scalar (.scalar scalar)
  | item {item : Value} {items : List Value} (member : item ∈ items)
      (inner : Mentions scalar item) : Mentions scalar (.list items)
  | component {item : Value} {items : List Value} (member : item ∈ items)
      (inner : Mentions scalar item) : Mentions scalar (.tuple items)
  | element {items : List Scalar} (member : scalar ∈ items) : Mentions scalar (.set items)
  | key {value : Value} {entries : Entries} (member : (scalar, value) ∈ entries) :
      Mentions scalar (.mapping entries)
  | entry {entry : Scalar × Value} {entries : Entries} (member : entry ∈ entries)
      (inner : Mentions scalar entry.2) : Mentions scalar (.mapping entries)

@[simp] theorem areShowable_iff {items : List Value} :
    areShowable items ↔ ∀ item ∈ items, item.isShowable := by
  induction items with
  | nil => simp [areShowable]
  | cons item rest ih => simp [areShowable, ih]

@[simp] theorem areShowableEntries_iff {entries : Entries} :
    areShowableEntries entries ↔ ∀ entry ∈ entries, entry.1.isShowable ∧ entry.2.isShowable := by
  induction entries with
  | nil => simp [areShowableEntries]
  | cons entry rest ih =>
      obtain ⟨key, value⟩ := entry
      simp [areShowableEntries, ih, and_assoc]

/-- A value can be shown where all scalars in it can. -/
theorem isShowable_iff (value : Value) :
    value.isShowable ↔ ∀ scalar, value.Mentions scalar → scalar.isShowable := by
  induction value using inductionOnParts with
  | scalar value =>
      constructor
      · intro showable other mentioned
        cases mentioned
        exact showable
      · exact fun each => each value .scalar
  | list items ih =>
      rw [isShowable, areShowable_iff]
      constructor
      · intro each scalar mentioned
        cases mentioned with
        | item member inner => exact (ih _ member).1 (each _ member) scalar inner
      · intro each item member
        exact (ih item member).2 fun scalar inner => each scalar (.item member inner)
  | tuple items ih =>
      rw [isShowable, areShowable_iff]
      constructor
      · intro each scalar mentioned
        cases mentioned with
        | component member inner => exact (ih _ member).1 (each _ member) scalar inner
      · intro each item member
        exact (ih item member).2 fun scalar inner => each scalar (.component member inner)
  | set items =>
      rw [isShowable, List.all_eq_true]
      constructor
      · intro each scalar mentioned
        cases mentioned with
        | element member => exact each scalar member
      · exact fun each scalar member => each scalar (.element member)
  | mapping entries ih =>
      rw [isShowable, areShowableEntries_iff]
      constructor
      · intro each scalar mentioned
        cases mentioned with
        | key member => exact (each _ member).1
        | entry member inner => exact (ih _ member).1 (each _ member).2 scalar inner
      · intro each entry member
        refine ⟨each entry.1 (.key member), (ih entry member).2 ?_⟩
        exact fun scalar inner => each scalar (.entry member inner)

@[simp] theorem isShowable_int (number : Int) :
    (Scalar.int number).isShowable ↔ number.natAbs < Nat.pow 10 Number.maxDigits := by
  simp only [Scalar.isShowable, decide_eq_true_eq]

/-- An integer with more digits than can be shown stands in a value. -/
def HasLongInteger (value : Value) : Prop :=
  ∃ number : Int, value.Mentions (.int number) ∧ Nat.pow 10 Number.maxDigits ≤ number.natAbs

theorem isShowable_eq_false_iff (value : Value) :
    value.isShowable = false ↔ value.HasLongInteger := by
  rw [← Bool.not_eq_true, isShowable_iff]
  constructor
  · intro notEach
    by_contra none
    refine notEach fun scalar mentioned => ?_
    cases scalar with
    | int number =>
        by_contra unshowable
        rw [isShowable_int, Nat.not_lt] at unshowable
        exact none ⟨number, mentioned, unshowable⟩
    | _ => rfl
  · intro given each
    rcases given with ⟨number, mentioned, long⟩
    have short := (isShowable_int number).1 (each _ mentioned)
    exact absurd short (Nat.not_lt.2 long)

end Value

/-! ## What the gate refuses -/

namespace Contract

variable {document flat : Value} {contract : Document} {fault : VersionFault}

/-- What a document names as its version. That of the older standard counts first. -/
def named? (document : Value) : Option Value :=
  (document.field? "swagger").or (document.field? "openapi")

theorem refusal_eq_untold {told : String → VersionFault} (tells : ∀ shown, told shown ≠ .untold)
    (named : Value) : refusal told named = .untold ↔ named.isShowable = false := by
  unfold refusal
  split
  next showable => simp [tells, showable]
  next unshowable => simpa using unshowable

/-- A version is refused without being told exactly where it cannot be shown. -/
theorem version_eq_untold :
    version document = .error .untold ↔
      ∃ named, named? document = some named ∧ named.HasLongInteger := by
  simp only [← Value.isShowable_eq_false_iff]
  unfold version named?
  cases document.field? "swagger" with
  | some older => simp [refusal_eq_untold]
  | none =>
      cases document.field? "openapi" with
      | none => simp
      | some named =>
          dsimp only
          split
          next absent => cases absent
          next null =>
            cases null
            simp [Value.isShowable, Scalar.isShowable]
          next text =>
            cases text
            split <;> simp [Value.isShowable, Scalar.isShowable]
          next given =>
            cases given
            simp [refusal_eq_untold]

/-! ## What the gate lets pass -/

/-- The version of a contract is the text that its document has for it. -/
theorem openapi_of_document (checked : checkDocument flat = .ok contract) :
    ∃ entries value, flat = .mapping entries ∧
      Entries.get? entries (.text "openapi") = some value ∧
      Check.text value = .ok contract.openapi := by
  simp only [checkDocument, Checked.bind_eq_ok] at checked
  obtain ⟨entries, accepted, ⟨openapi, info, paths, components, extras⟩, both, success⟩ := checked
  cases success
  simp only [Checked.both_eq_ok] at both
  refine ⟨entries, ?_⟩
  have isField := both.1
  unfold Check.field at isField
  split at isField
  next name value found =>
    obtain ⟨member, found⟩ := Check.mem_of_find? found
    rw [List.mem_singleton.1 member] at found
    exact ⟨value, Check.record_eq_ok accepted, found, Checked.within_eq_ok.1 isField⟩
  next => cases Checked.within_eq_ok.1 isField

theorem version_eq_ok {text : String} (supported : version document = .ok text) :
    ∃ entries, document = .mapping entries ∧
      Entries.get? entries (.text "openapi") = some (.text text) := by
  unfold version at supported
  split at supported
  next => cases supported
  next =>
    split at supported
    next => cases supported
    next => cases supported
    next found =>
      split at supported
      next =>
        cases supported
        unfold Value.field? at found
        split at found
        next => exact ⟨_, rfl, found⟩
        next => cases found
      next => cases supported
    next => cases supported

end Contract

/-- Resolving a document does not change a text that its root has, even where the root is a
reference: what stands beside a reference is laid over its target. -/
theorem Reference.get?_of_dereference {ε : Type} {fetch : String → Except ε Value} {depth : Nat}
    {entries results : Entries} {location : Option String} {name text : String}
    (distinct : (entries.map Prod.fst).Nodup) (different : name ≠ "$ref")
    (held : Entries.get? entries (.text name) = some (.text text))
    (resolved : (dereference fetch depth (.mapping entries) location).result =
      .ok (.mapping results)) :
    Entries.get? results (.text name) = some (.text text) := by
  rw [dereference_result, resolve_eq_ok] at resolved
  cases resolved with
  | mapping plain keys values =>
      obtain ⟨other, found, derivation⟩ :=
        get?_of_onValues (onValues_iff_getElem.2 ⟨keys, values⟩) held
      cases derivation
      exact found
  | left found entered repeated => cases repeated
  | other found entered fresh selected inner noMapping => exact absurd rfl (noMapping results)
  | @laid _ _ _ _ _ base extra _ _ found entered fresh selected inner keys beside =>
      have names : ((siblings entries).map Prod.fst).Nodup :=
        distinct.sublist (List.filter_sublist.map Prod.fst)
      have sibling : Entries.get? (siblings entries) (.text name) = some (.text text) := by
        refine Entries.get?_of_mem names (mem_siblings.2 ⟨Entries.mem_of_get? held, ?_⟩)
        simpa [referenceKey] using different
      obtain ⟨other, found, derivation⟩ :=
        get?_of_onValues (onValues_iff_getElem.2 ⟨keys, beside⟩) sibling
      cases derivation
      exact Entries.get?_putAll_of_get? (keys ▸ names) found

variable {document : Value} {location : Option String} {world : World} {generator : Generator}

/-- A document whose version is not supported is refused before anything else is done. -/
theorem create_of_version_error {fault : Contract.VersionFault}
    (refused : Contract.version document = .error fault) :
    (Generator.create document location).run.run world = (.error (.version fault), world) := by
  refine run_bind_error ?_
  rw [refused]
  rfl

/-- No document passes the version gate unless it names a supported version itself. What it names is
the version of its contract, whatever its root refers to; the document is one in which each key
stands once. Any other document is refused before anything is loaded or shown. The refusal is that
of a version which is not supported, except where an integer of more than 4300 digits stands in what
the document names as its version. -/
theorem create_gated (document : Value) (location : Option String) (world : World) :
    (∀ fault, Contract.version document = .error fault →
      (Generator.create document location).run.run world = (.error (.version fault), world) ∧
      ((Failure.version fault).category = .version ↔
        ¬∃ named, Contract.named? document = some named ∧ named.HasLongInteger)) ∧
      ((∀ entries, document = .mapping entries → (entries.map Prod.fst).Nodup) →
        ∀ generator, ((Generator.create document location).run.run world).1 = .ok generator →
          Contract.version document = .ok generator.contract.openapi) := by
  constructor
  · intro fault refused
    refine ⟨create_of_version_error refused, ?_⟩
    rw [← Contract.version_eq_untold, refused]
    cases fault <;> simp [Failure.category, Contract.VersionFault.category]
  · intro distinct generator accepted
    obtain ⟨text, flat, contract, supported, resolved, checked, rfl⟩ := create_stages accepted
    obtain ⟨entries, rfl, held⟩ := Contract.version_eq_ok supported
    obtain ⟨results, value, rfl, found, isText⟩ := Contract.openapi_of_document checked
    have kept := get?_of_dereference (distinct entries rfl) (by decide) held resolved
    cases kept.symm.trans found
    rw [supported]
    exact congrArg _ (Except.ok.inj isText)

/-- A document whose root refers to a draft of another version. -/
def redrafted : Value :=
  .mapping [(.text "$ref", .text "#/draft"), (.text "openapi", .text "3.0.0"),
    (.text "draft", .mapping [(.text "openapi", .text "3.1.0"), (.text "paths", .mapping [])])]

/-- The contract of `redrafted`, which has the version that stands beside the reference. -/
def redraftedContract : Contract.Document where
  openapi := "3.0.0"
  info := Contract.Info.default
  paths := []
  components := none
  extras :=
    [("draft", .mapping [(.text "openapi", .text "3.1.0"), (.text "paths", .mapping [])])]

/-- A document of the older standard that refers to a file. -/
def older : Value :=
  .mapping [(.text "swagger", .text "2.0"), (.text "$ref", .text "new.json")]

/-- The root of `redrafted` is replaced by its target, but the version stays. The file that `older`
refers to is not even looked for. -/
theorem create_gated_redrafted :
    Contract.version redrafted = .ok redraftedContract.openapi ∧
      (Generator.create older none).run.run World.bare =
        (.error (.version (.older "2.0")), World.bare) := by
  have accepted : ((Generator.create redrafted none).run.run World.bare).1 =
      .ok ⟨redraftedContract, none⟩ := by cbv
  have refused : Contract.version older = .error (.older "2.0") := by cbv
  refine ⟨(create_gated redrafted none .bare).2 ?_ _ accepted,
    ((create_gated older none .bare).1 _ refused).1⟩
  intro entries same
  cases same
  decide

/-- A document whose version is an integer of 4335 digits. -/
def longVersion : Value :=
  .mapping [(.text "openapi", .scalar (.int (Nat.pow 16 3600 - 1 : Nat)))]

/-- The version of `longVersion` is not supported, but it is refused for a reason that nobody
answers for. -/
theorem long_version_untold :
    Contract.version longVersion = .error .untold ∧
      (Generator.create longVersion none).run.run World.bare =
        (.error (.version .untold), World.bare) ∧
      (Failure.version .untold).category = .crash .value := by
  have untold : Contract.version longVersion = .error .untold := by
    refine Contract.version_eq_untold.2 ⟨_, rfl, _, .scalar, ?_⟩
    rw [Int.natAbs_natCast]
    decide +kernel
  exact ⟨untold, create_of_version_error untold, rfl⟩

end RouteTypes
