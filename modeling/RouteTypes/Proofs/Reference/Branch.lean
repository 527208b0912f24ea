import RouteTypes.Proofs.Pointer.Selection
import RouteTypes.Proofs.Reference.Resolution
import Mathlib.Data.Set.Finite.Lattice

/-!
# Branches of a resolution

A resolution follows references into each other. The references that are followed at a time form a
branch, each with the document and the pointer that it leads to. A branch never visits a mark
twice (`Branch.distinct`), so where a document and those that it refers to know only finitely many
marks, branches cannot grow without bound (`Branch.length_le`).
-/

namespace RouteTypes.Reference

open Value

variable {ε : Type} {fetch : String → Except ε Value} {root scope target : Scope}
variable {value : Value} {reference : String}

/-- A document that a resolution may come to: the one that it starts with, or one that a known
document refers to. -/
inductive Known (fetch : String → Except ε Value) (root : Scope) : Scope → Prop where
  | start : Known fetch root root
  | follow {scope target : Scope} {reference : String} (known : Known fetch root scope)
      (refers : Refers scope.root reference)
      (entered : enter (direct fetch) scope (split reference).1 = Except.ok target) :
      Known fetch root target

/-- A value of a known document. -/
structure Stands (fetch : String → Except ε Value) (root scope : Scope) (value : Value) :
    Prop where
  known : Known fetch root scope
  part : Part value scope.root

theorem Stands.start : Stands fetch root root root.root := ⟨.start, .whole _⟩

theorem Stands.ofItem {item : Value} {items : List Value}
    (stands : Stands fetch root scope (.list items)) (member : item ∈ items) :
    Stands fetch root scope item :=
  ⟨stands.known, (Part.ofItem member).trans stands.part⟩

theorem Stands.ofEntry {entry : Scalar × Value} {entries : Entries}
    (stands : Stands fetch root scope (.mapping entries)) (member : entry ∈ entries) :
    Stands fetch root scope entry.2 :=
  ⟨stands.known, (Part.ofEntry member).trans stands.part⟩

/-- What a reference of a value of a known document leads to is one, too. -/
theorem Stands.follow {next : Value} (stands : Stands fetch root scope value)
    (refers : Refers value reference)
    (entered : enter (direct fetch) scope (split reference).1 = Except.ok target)
    (selected : Pointer.resolve target.root (split reference).2 = .ok next) :
    Stands fetch root target next :=
  ⟨.follow stands.known (.ofPart stands.part refers) entered, Pointer.part_of_resolve selected⟩

/-- A reference of a document leads to a mark. -/
def Targets (fetch : String → Except ε Value) (scope : Scope) (reference key : String) : Prop :=
  ∃ target, enter (direct fetch) scope (split reference).1 = Except.ok target ∧
    key = mark target.location (split reference).2

/-- The marks that the references of known documents lead to. -/
def Marks (fetch : String → Except ε Value) (root : Scope) : Set String :=
  {key | ∃ scope reference, Known fetch root scope ∧ Refers scope.root reference ∧
    Targets fetch scope reference key}

/-- Entering a location stays in the document or loads the one at the joined location. -/
theorem enter_eq_ok {location : String} :
    enter (direct fetch) scope location = Except.ok target ↔
      location = "" ∧ target = scope ∨ location ≠ "" ∧ ∃ joined document,
        Location.join scope.location location = .ok joined ∧ fetch joined = .ok document ∧
          target = ⟨document, some joined⟩ := by
  unfold enter
  by_cases empty : location = ""
  · rw [if_pos (by simpa using empty), pure_eq_ok]
    simp [empty, eq_comm]
  · rw [if_neg (by simpa using empty), bind_eq_ok]
    simp only [lift_mapError_eq_ok, bind_eq_ok, pure_eq_ok, direct]
    constructor
    · intro given
      rcases given with ⟨joined, success, document, loaded, rfl⟩
      exact .inr ⟨empty, joined, document, success, loaded, rfl⟩
    · intro given
      rcases given with ⟨isEmpty, _⟩ | ⟨_, joined, document, success, loaded, rfl⟩
      · exact absurd isEmpty empty
      · exact ⟨joined, success, document, loaded, rfl⟩

/-- Where nothing can be loaded, no other document is known. -/
theorem known_of_fails {failure : ε} (known : Known (fun _ => .error failure) root scope) :
    scope = root := by
  induction known with
  | start => rfl
  | follow _ _ entered ih =>
      rcases enter_eq_ok.1 entered with ⟨_, same⟩ | ⟨_, _, _, _, found, _⟩
      · exact same.trans ih
      · cases found

/-- Where all references of a document stay inside of it, no other document is known. -/
theorem known_of_internal
    (internal : ∀ reference, Refers root.root reference → (split reference).1 = "")
    (known : Known fetch root scope) : scope = root := by
  induction known with
  | start => rfl
  | follow _ refers entered ih =>
      subst ih
      rw [internal _ refers] at entered
      exact (Except.ok.inj entered).symm

/-! ## Branches -/

/-- A reference that a branch follows, and the document that it leads to. -/
structure Visit where
  target : Scope
  reference : String

namespace Visit

/-- The pointer that is looked for. -/
def pointer (visit : Visit) : String := (split visit.reference).2

/-- The pair of a location and a pointer that is visited, as it is remembered. -/
def key (visit : Visit) : String := mark visit.target.location visit.pointer

end Visit

/-- A branch of the resolution of a document: the references that it follows, the last one first,
and the document and the value at its end. -/
inductive Branch (fetch : String → Except ε Value) (root : Scope) :
    List Visit → Scope → Value → Prop where
  | start : Branch fetch root [] root root.root
  | follow {visits : List Visit} {scope target : Scope} {value next : Value} {reference : String}
      (branch : Branch fetch root visits scope value) (refers : Refers value reference)
      (entered : enter (direct fetch) scope (split reference).1 = Except.ok target)
      (fresh : mark target.location (split reference).2 ∉ visits.map Visit.key)
      (selected : Pointer.resolve target.root (split reference).2 = .ok next) :
      Branch fetch root (⟨target, reference⟩ :: visits) target next

variable {visits : List Visit}

/-- No mark is visited twice. -/
theorem Branch.distinct (branch : Branch fetch root visits scope value) :
    (visits.map Visit.key).Nodup := by
  induction branch with
  | start => exact List.nodup_nil
  | follow _ _ _ fresh _ ih => exact List.nodup_cons.2 ⟨fresh, ih⟩

/-- A branch ends at a value of a known document. -/
theorem Branch.stands (branch : Branch fetch root visits scope value) :
    Stands fetch root scope value := by
  induction branch with
  | start => exact .start
  | follow _ refers entered _ selected ih => exact ih.follow refers entered selected

theorem Branch.visit_known (branch : Branch fetch root visits scope value) :
    ∀ visit ∈ visits, Known fetch root visit.target := by
  induction branch with
  | start => exact nofun
  | follow branch refers entered fresh selected ih =>
      intro visit member
      rcases List.mem_cons.1 member with rfl | member
      · exact (branch.follow refers entered fresh selected).stands.known
      · exact ih visit member

/-- A branch visits marks of known documents. -/
theorem Branch.marks (branch : Branch fetch root visits scope value) :
    ∀ key ∈ visits.map Visit.key, key ∈ Marks fetch root := by
  induction branch with
  | start => exact nofun
  | follow branch refers entered _ _ ih =>
      intro key member
      rw [List.map_cons, List.mem_cons] at member
      rcases member with rfl | member
      · have stands := branch.stands
        exact ⟨_, _, stands.known, .ofPart stands.part refers, _, entered, rfl⟩
      · exact ih key member

/-- A branch is at most as long as there are marks. -/
theorem Branch.length_le (finite : (Marks fetch root).Finite)
    (branch : Branch fetch root visits scope value) : visits.length ≤ finite.toFinset.card := by
  rw [← List.length_map (f := Visit.key), ← List.toFinset_card_of_nodup branch.distinct]
  refine Finset.card_le_card fun key member => ?_
  rw [Set.Finite.mem_toFinset]
  exact branch.marks key (List.mem_toFinset.1 member)

/-! ## Finitely many marks -/

/-- Finitely many references stand in a value. -/
theorem finite_refers (value : Value) : {reference | Refers value reference}.Finite := by
  apply (List.finite_toSet (references value)).subset
  exact fun reference refers => mem_references.2 refers

theorem finite_targets (fetch : String → Except ε Value) (scope : Scope) (reference : String) :
    {key | Targets fetch scope reference key}.Finite := by
  apply Set.Subsingleton.finite
  intro _ targets _ given
  rcases targets with ⟨first, entered, rfl⟩
  rcases given with ⟨second, alsoEntered, rfl⟩
  cases entered.symm.trans alsoEntered
  rfl

/-- Finitely many documents know finitely many marks. -/
theorem finite_marks (finite : {scope | Known fetch root scope}.Finite) :
    (Marks fetch root).Finite := by
  refine Set.Finite.subset (finite.biUnion fun scope _ =>
    (finite_refers scope.root).biUnion fun reference _ =>
      finite_targets fetch scope reference) ?_
  intro key given
  rcases given with ⟨scope, reference, known, refers, targets⟩
  exact Set.mem_biUnion known (Set.mem_biUnion refers targets)

end RouteTypes.Reference
