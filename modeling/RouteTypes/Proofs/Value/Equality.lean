import RouteTypes.Value

/-!
# Equality of values

Whether two values are equal can be computed, part by part, so what reading a text gives can be
compared with the value that is expected.
-/

namespace RouteTypes.Value

mutual

/-- Decides whether two values are equal. -/
def decideEq : (left right : Value) → Decidable (left = right)
  | .scalar left, right =>
    match right with
    | .scalar right => decidable_of_decidable_of_eq (scalar.injEq left right).symm
    | .list _ | .tuple _ | .set _ | .mapping _ => .isFalse nofun
  | .list left, right =>
    match right with
    | .list right =>
      have := decideItems left right
      decidable_of_decidable_of_eq (list.injEq left right).symm
    | .scalar _ | .tuple _ | .set _ | .mapping _ => .isFalse nofun
  | .tuple left, right =>
    match right with
    | .tuple right =>
      have := decideItems left right
      decidable_of_decidable_of_eq (tuple.injEq left right).symm
    | .scalar _ | .list _ | .set _ | .mapping _ => .isFalse nofun
  | .set left, right =>
    match right with
    | .set right => decidable_of_decidable_of_eq (set.injEq left right).symm
    | .scalar _ | .list _ | .tuple _ | .mapping _ => .isFalse nofun
  | .mapping left, right =>
    match right with
    | .mapping right =>
      have := decideEntries left right
      decidable_of_decidable_of_eq (mapping.injEq left right).symm
    | .scalar _ | .list _ | .tuple _ | .set _ => .isFalse nofun

/-- Decides whether the items of two lists are equal. -/
def decideItems : (left right : List Value) → Decidable (left = right)
  | [], [] => .isTrue rfl
  | [], _ :: _ => .isFalse nofun
  | _ :: _, [] => .isFalse nofun
  | first :: left, second :: right =>
    have := decideEq first second
    have := decideItems left right
    decidable_of_decidable_of_eq (List.cons.injEq first left second right).symm

/-- Decides whether the entries of two mappings are equal. -/
def decideEntries : (left right : List (Scalar × Value)) → Decidable (left = right)
  | [], [] => .isTrue rfl
  | [], _ :: _ => .isFalse nofun
  | _ :: _, [] => .isFalse nofun
  | (key, value) :: left, (other, second) :: right =>
    have := decideEq value second
    have := decideEntries left right
    decidable_of_iff (key = other ∧ value = second ∧ left = right) (by simp [and_assoc])

end

instance : DecidableEq Value := decideEq

end RouteTypes.Value
