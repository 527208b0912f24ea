import RouteTypes.Proofs.Check.Success
import RouteTypes.Proofs.Value.Entries

/-!
# Checks that agree

Two checks agree up to a view when they have the same problems, or results that look the same in
this view. Each way of building checks keeps agreement: checks whose parts agree do so themselves.
-/

namespace RouteTypes

namespace Checked

variable {α β γ δ : Type} {view : α → β} {left right : Checked α}

/-- Two checks have the same problems, or results that look the same. -/
def Agree (view : α → β) (left right : Checked α) : Prop :=
  left.map view = right.map view

namespace Agree

theorem refl (checked : Checked α) : Agree view checked checked := rfl

/-- Of two checks that agree either both fail for the same reasons, or none does. -/
theorem cases (agree : Agree view left right) :
    (∃ problems, left = .error problems ∧ right = .error problems) ∨
      ∃ value other, left = .ok value ∧ right = .ok other ∧ view value = view other := by
  cases left <;> cases right <;> simp_all [Agree, Except.map]

theorem within (agree : Agree view left right) (part : Check.Part) :
    Agree view (left.within part) (right.within part) := by
  obtain ⟨_, rfl, rfl⟩ | ⟨_, _, rfl, rfl, same⟩ := agree.cases
  · rfl
  · exact congrArg Except.ok same

theorem both {otherView : γ → δ} {leftOther rightOther : Checked γ} (first : Agree view left right)
    (second : Agree otherView leftOther rightOther) :
    Agree (Prod.map view otherView) (Checked.both left leftOther)
      (Checked.both right rightOther) := by
  obtain ⟨_, rfl, rfl⟩ | ⟨_, _, rfl, rfl, same⟩ := first.cases <;>
    obtain ⟨_, rfl, rfl⟩ | ⟨_, _, rfl, rfl, alsoSame⟩ := second.cases
  · rfl
  · rfl
  · rfl
  · exact congrArg Except.ok (Prod.ext same alsoSame)

/-- What is made of the results agrees where its view can be made of theirs. -/
theorem map {otherView : γ → δ} (agree : Agree view left right) (image : α → γ) (made : β → δ)
    (same : ∀ value, otherView (image value) = made (view value)) :
    Agree otherView (left.map image) (right.map image) := by
  obtain ⟨_, rfl, rfl⟩ | ⟨value, other, rfl, rfl, alike⟩ := agree.cases
  · rfl
  · have equal : otherView (image value) = otherView (image other) := by
      rw [same, same, alike]
    exact congrArg Except.ok equal

/-- A record that is made of results agrees where its own view is made of theirs. -/
theorem make {view : α → α} {left right : Checked α} {image : α → γ}
    (agree : Agree view left right) (otherView : γ → γ)
    (same : ∀ value, otherView (image value) = image (view value)) :
    Agree otherView (left.map image) (right.map image) :=
  agree.map image image same

theorem all {checks others : List (Checked α)} (agree : List.Forall₂ (Agree view) checks others) :
    Agree (List.map view) (Checked.all checks) (Checked.all others) := by
  induction agree with
  | nil => rfl
  | cons head _ ih =>
      exact (head.both ih).map _ (fun pair => pair.1 :: pair.2) fun _ => rfl

end Agree

end Checked

namespace Fields

variable {κ α : Type} [BEq κ]

/-- Setting fields commutes with a view of their values. -/
theorem map_put {β : Type} (view : α → β) (fields : List (κ × α)) (name : κ) (value : α) :
    (put fields name value).map (Prod.map id view) =
      put (fields.map (Prod.map id view)) name (view value) := by
  induction fields with
  | nil => rfl
  | cons field rest ih =>
      simp only [put, List.map_cons, Prod.map_fst, id_eq]
      split
      next => rfl
      next => rw [List.map_cons, ih]

theorem map_putAll {β : Type} (view : α → β) (fields additions : List (κ × α)) :
    (putAll fields additions).map (Prod.map id view) =
      putAll (fields.map (Prod.map id view)) (additions.map (Prod.map id view)) := by
  induction additions generalizing fields with
  | nil => rfl
  | cons field rest ih => rw [putAll_cons, ih, map_put, List.map_cons, putAll_cons]; rfl

end Fields

namespace Check

open Checked (Agree)

variable {α β κ : Type} {check : Value → Checked α} {view : α → β} {left right : Value}

theorem optional_agree (present : left.isNull = false) (alsoPresent : right.isNull = false)
    (agree : Agree view (check left) (check right)) :
    Agree (Option.map view) (optional check left) (optional check right) := by
  have given {value : Value} (present : value.isNull = false) :
      optional check value = (check value).map some := by
    unfold optional
    split
    next => cases present
    next => rfl
  rw [given present, given alsoPresent]
  exact agree.map _ some fun _ => rfl

theorem itemsFrom_agree {items others : List Value} (position : Nat)
    (agree : List.Forall₂ (fun item other => Agree view (check item) (check other)) items others) :
    List.Forall₂ (Agree view) (itemsFrom check position items)
      (itemsFrom check position others) := by
  induction agree generalizing position with
  | nil => exact .nil
  | cons head _ ih => exact .cons (head.within _) (ih (position + 1))

/-- Mappings with the same keys agree where their values do. -/
theorem mapping_agree [BEq κ] {checkKey : Scalar → Checked κ} {entries others : Entries}
    (agree : List.Forall₂ (fun entry other => entry.1 = other.1 ∧
      Agree view (check entry.2) (check other.2)) entries others) :
    Agree (List.map (Prod.map id view)) (mapping checkKey check (.mapping entries))
      (mapping checkKey check (.mapping others)) := by
  have checks : List.Forall₂ (Agree (Prod.map id view)) (entries.map (entry checkKey check))
      (others.map (entry checkKey check)) := by
    rw [List.forall₂_map_left_iff, List.forall₂_map_right_iff]
    refine agree.imp fun entry other same => ?_
    obtain ⟨key, values⟩ := same
    rw [Check.entry, Check.entry, key]
    exact (Agree.refl _).both (values.within _)
  exact (Agree.all checks).map _ (Fields.putAll []) fun results =>
    Fields.map_putAll view [] results

end Check

end RouteTypes
