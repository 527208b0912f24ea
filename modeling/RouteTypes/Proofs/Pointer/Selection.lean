import RouteTypes.Pointer
import RouteTypes.Proofs.Value.Entries
import RouteTypes.Proofs.Value.Part

/-!
# What a pointer selects

A pointer selects a part of the document that it is resolved in.
-/

namespace RouteTypes.Pointer

open Value

theorem mem_of_item? {items : List Value} {index : Int} {item : Value}
    (found : item? items index = some item) : item ∈ items := by
  unfold item? at found
  split at found
  next => exact List.mem_of_getElem? found
  next =>
    split at found
    next => exact List.mem_of_getElem? found
    next => cases found

theorem step_mapping (entries : Entries) (segment : String) :
    step (.mapping entries) segment =
      (Entries.get? entries (.text segment)).elim (.error (.key segment)) .ok := by
  rw [step]
  cases Entries.get? entries (.text segment) with
  | none => rfl
  | some value => rfl

theorem step_list (items : List Value) (segment : String) :
    step (.list items) segment =
      ((Number.readInteger 10 segment).toOption.bind (item? items)).elim
        (.error (.index segment)) .ok := by
  rw [step]
  cases Number.readInteger 10 segment with
  | error => rfl
  | ok index =>
      dsimp only [Except.toOption, Option.bind_some]
      cases item? items index with
      | none => rfl
      | some value => rfl

/-- A segment selects a part. -/
theorem part_of_step {current selected : Value} {segment : String}
    (success : step current segment = .ok selected) : Part selected current := by
  unfold step at success
  split at success
  next entries =>
    split at success
    next value found =>
      cases success
      exact Part.ofEntry (Entries.mem_of_get? found)
    next => cases success
  next items =>
    split at success
    next index _ =>
      split at success
      next value found =>
        cases success
        exact Part.ofItem (mem_of_item? found)
      next => cases success
    next => cases success
  next => cases success

theorem part_of_steps {segments : List String} {document selected : Value}
    (success : segments.foldlM step document = .ok selected) : Part selected document := by
  induction segments generalizing document with
  | nil =>
      cases success
      exact .whole _
  | cons segment rest ih =>
      rw [List.foldlM_cons] at success
      cases first : step document segment with
      | error fault =>
          rw [first] at success
          cases success
      | ok next =>
          rw [first] at success
          exact (ih success).trans (part_of_step first)

/-- A pointer selects a part. -/
theorem part_of_resolve {document selected : Value} {pointer : String}
    (success : resolve document pointer = .ok selected) : Part selected document := by
  unfold resolve at success
  split at success
  next => exact part_of_steps success
  next => cases success

end RouteTypes.Pointer
