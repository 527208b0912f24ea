import Mathlib.Data.List.Basic

/-!
# Outcomes of steps

A step gives a value or fails. What is known of either outcome of each part is known of the whole
(`Meets.bind`, `Meets.mapM`), so an invariant of a reader is proved part by part.
-/

namespace RouteTypes

/-- What a step gives satisfies a condition, and the reason why it may fail another one. -/
def Meets {ε α : Type} (reason : ε → Prop) (condition : α → Prop) : Except ε α → Prop
  | .ok value => condition value
  | .error fault => reason fault

namespace Meets

variable {ε α β : Type} {reason : ε → Prop} {condition : α → Prop} {after : β → Prop}

theorem bind {step : Except ε α} {next : α → Except ε β} (first : Meets reason condition step)
    (continues : ∀ value, condition value → Meets reason after (next value)) :
    Meets reason after (step >>= next) := by
  cases step with
  | error fault => exact first
  | ok value => exact continues value first

theorem map {step : Except ε α} {change : α → β} (first : Meets reason condition step)
    (changes : ∀ value, condition value → after (change value)) :
    Meets reason after (step.map change) := by
  cases step with
  | error fault => exact first
  | ok value => exact changes value first

theorem imp {step : Except ε α} {reason' : ε → Prop} {condition' : α → Prop}
    (meets : Meets reason condition step) (reasons : ∀ fault, reason fault → reason' fault)
    (conditions : ∀ value, condition value → condition' value) : Meets reason' condition' step := by
  cases step with
  | error fault => exact reasons fault meets
  | ok value => exact conditions value meets

/-- What a step gives is what it gives. -/
theorem given {step : Except ε α} (meets : Meets reason condition step) :
    Meets reason (fun value => step = .ok value ∧ condition value) step := by
  cases step with
  | error fault => exact meets
  | ok value => exact ⟨rfl, meets⟩

theorem ite {test : Prop} [Decidable test] {positive negative : Except ε α}
    (first : Meets reason condition positive) (second : Meets reason condition negative) :
    Meets reason condition (if test then positive else negative) := by
  split
  next => exact first
  next => exact second

/-- Either branch is taken for what its test tells. -/
theorem branch {test : Prop} [Decidable test] {positive negative : Except ε α}
    (first : test → Meets reason condition positive)
    (second : ¬test → Meets reason condition negative) :
    Meets reason condition (if test then positive else negative) := by
  split
  next holds => exact first holds
  next fails => exact second fails

/-- A step whose values are all right and that fails only for causes that are explained so. -/
theorem mapError {γ : Type} {step : Except γ α} {explain : γ → ε}
    (causes : ∀ cause, reason (explain cause)) (values : ∀ value, condition value) :
    Meets reason condition (step.mapError explain) := by
  cases step with
  | error cause => exact causes cause
  | ok value => exact values value

theorem mapM {each : α → Except ε β} {items : List α} (after : β → Prop)
    (meets : ∀ item ∈ items, Meets reason after (each item)) :
    Meets reason (fun values => ∀ value ∈ values, after value) (items.mapM each) := by
  induction items with
  | nil => exact nofun
  | cons item rest ih =>
      rw [List.mapM_cons]
      refine (meets item List.mem_cons_self).bind fun value holds => ?_
      refine (ih fun item member => meets item (List.mem_cons_of_mem _ member)).bind ?_
      exact fun values others => List.forall_mem_cons.2 ⟨holds, others⟩

theorem of_error {step : Except ε α} {fault : ε} (meets : Meets reason condition step)
    (failed : step = .error fault) : reason fault := by
  rw [failed] at meets
  exact meets

theorem of_ok {step : Except ε α} {value : α} (meets : Meets reason condition step)
    (gave : step = .ok value) : condition value := by
  rw [gave] at meets
  exact meets

end Meets

end RouteTypes
