import RouteTypes.Failure
import RouteTypes.Proofs.Check.Success
import RouteTypes.Proofs.Run

/-!
# How steps fail

A step that fails does so in a category that is answered for, or with an error that nobody answers
for. Of the latter there are several kinds, and `FailsAs` lists exactly those that a step can fail
with. What the parts of a step fail with gives what the whole fails with (`FailsAs.bind`,
`FailsAs.mapM`).
-/

namespace RouteTypes

variable {ε γ α β : Type} {category : ε → Category} {answered : Category → Prop}
variable {kinds other : Crash → Prop} {step : Except ε α}

/-- A step fails with an error that nobody answers for. -/
def EscapesAs (category : ε → Category) (step : Except ε α) (kind : Crash) : Prop :=
  ∃ fault, step = .error fault ∧ category fault = .crash kind

/-- A step gives a value, or fails in a category that is answered for, or with an error that nobody
answers for. Of the latter it can be exactly these kinds. -/
structure FailsAs (category : ε → Category) (answered : Category → Prop) (kinds : Crash → Prop)
    (step : Except ε α) : Prop where
  fails : ∀ fault, step = .error fault →
    answered (category fault) ∨ ∃ kind, category fault = .crash kind
  escapes_iff : ∀ kind, EscapesAs category step kind ↔ kinds kind

namespace FailsAs

theorem congr (fails : FailsAs category answered kinds step)
    (same : ∀ kind, kinds kind ↔ other kind) : FailsAs category answered other step :=
  ⟨fails.fails, fun kind => (fails.escapes_iff kind).trans (same kind)⟩

theorem of_ok (value : α) (none : ∀ kind, ¬kinds kind) :
    FailsAs category answered kinds (.ok value : Except ε α) where
  fails _ failed := by cases failed
  escapes_iff kind := by
    refine iff_of_false ?_ (none kind)
    rintro ⟨_, failed, _⟩
    cases failed

/-- A step all of whose faults are answered for. -/
theorem of_answered
    (answers : ∀ fault, step = .error fault →
      answered (category fault) ∧ ∀ kind, category fault ≠ .crash kind)
    (none : ∀ kind, ¬kinds kind) : FailsAs category answered kinds step where
  fails fault failed := .inl (answers fault failed).1
  escapes_iff kind := by
    refine iff_of_false ?_ (none kind)
    rintro ⟨fault, failed, crash⟩
    exact (answers fault failed).2 kind crash

theorem of_fault {fault : ε} (isAnswered : answered (category fault))
    (safe : ∀ kind, category fault ≠ .crash kind) (none : ∀ kind, ¬kinds kind) :
    FailsAs category answered kinds (.error fault : Except ε α) :=
  of_answered (by rintro _ ⟨⟩; exact ⟨isAnswered, safe⟩) none

/-- A step all of whose faults are of one kind that nobody answers for. -/
theorem of_kind {kind : Crash}
    (crash : ∀ fault, step = .error fault → category fault = .crash kind) :
    FailsAs category answered (fun other => other = kind ∧ ∃ fault, step = .error fault) step where
  fails fault failed := .inr ⟨kind, crash fault failed⟩
  escapes_iff other := by
    constructor
    · rintro ⟨fault, failed, same⟩
      rw [crash fault failed] at same
      cases same
      exact ⟨rfl, fault, failed⟩
    · rintro ⟨rfl, fault, failed⟩
      exact ⟨fault, failed, crash fault failed⟩

theorem of_crash {fault : ε} {kind : Crash} (crash : category fault = .crash kind)
    (only : ∀ other, kinds other ↔ other = kind) :
    FailsAs category answered kinds (.error fault : Except ε α) where
  fails := by
    rintro _ ⟨⟩
    exact .inr ⟨kind, crash⟩
  escapes_iff other := by
    rw [only]
    constructor
    · rintro ⟨_, ⟨⟩, same⟩
      rw [crash] at same
      cases same
      rfl
    · rintro rfl
      exact ⟨fault, rfl, crash⟩

/-- The second of two steps is only taken where the first one gives a value. -/
theorem bind {next : α → Except ε β} (later : α → Crash → Prop)
    (first : FailsAs category answered kinds step)
    (second : ∀ value, step = .ok value → FailsAs category answered (later value) (next value)) :
    FailsAs category answered
      (fun kind => kinds kind ∨ ∃ value, step = .ok value ∧ later value kind) (step >>= next) := by
  cases step with
  | error fault =>
      refine ⟨fun _ failed => first.fails _ (by cases failed; rfl), fun kind => ?_⟩
      have same : EscapesAs category (Except.error fault >>= next) kind ↔
          EscapesAs category (Except.error fault : Except ε α) kind :=
        ⟨fun ⟨_, failed, crash⟩ => ⟨_, by cases failed; rfl, crash⟩,
          fun ⟨_, failed, crash⟩ => ⟨_, by cases failed; rfl, crash⟩⟩
      rw [same, first.escapes_iff]
      refine ⟨.inl, fun given => given.elim id ?_⟩
      rintro ⟨_, impossible, _⟩
      cases impossible
  | ok value =>
      have here := second value rfl
      refine ⟨here.fails, fun kind => (here.escapes_iff kind).trans ?_⟩
      constructor
      · exact fun holds => .inr ⟨value, rfl, holds⟩
      · rintro (impossible | ⟨_, ⟨⟩, holds⟩)
        · obtain ⟨_, failed, _⟩ := (first.escapes_iff kind).2 impossible
          cases failed
        · exact holds

/-- Faults that are explained in another way. -/
theorem mapError {cause : Except γ α} {explain : γ → ε}
    (fails : FailsAs (fun fault => category (explain fault)) answered kinds cause) :
    FailsAs category answered kinds (cause.mapError explain) := by
  cases cause with
  | ok value =>
      refine ⟨fun _ failed => (by cases failed), fun kind => ?_⟩
      rw [← fails.escapes_iff]
      constructor
      · rintro ⟨_, failed, _⟩
        cases failed
      · rintro ⟨_, failed, _⟩
        cases failed
  | error fault =>
      refine ⟨?_, fun kind => ?_⟩
      · rintro _ ⟨⟩
        exact fails.fails fault rfl
      · rw [← fails.escapes_iff]
        constructor
        · rintro ⟨_, ⟨⟩, crash⟩
          exact ⟨fault, rfl, crash⟩
        · rintro ⟨_, ⟨⟩, crash⟩
          exact ⟨_, rfl, crash⟩

/-- A step for each item: the first one that fails tells how. -/
theorem mapM {each : α → Except ε β} {kinds : α → Crash → Prop} (items : List α)
    (fails : ∀ item, FailsAs category answered (kinds item) (each item)) :
    FailsAs category answered (fun kind => ∃ before item after, items = before ++ item :: after ∧
      (∀ earlier ∈ before, ∃ value, each earlier = .ok value) ∧ kinds item kind)
      (items.mapM each) := by
  constructor
  · intro fault failed
    obtain ⟨_, item, _, _, _, here⟩ := except_mapM_eq_error.1 failed
    exact (fails item).fails fault here
  · intro kind
    constructor
    · rintro ⟨fault, failed, crash⟩
      obtain ⟨before, item, after, split, good, here⟩ := except_mapM_eq_error.1 failed
      exact ⟨before, item, after, split, good,
        ((fails item).escapes_iff kind).1 ⟨fault, here, crash⟩⟩
    · rintro ⟨before, item, after, split, good, holds⟩
      obtain ⟨fault, here, crash⟩ := ((fails item).escapes_iff kind).2 holds
      exact ⟨fault, except_mapM_eq_error.2 ⟨before, item, after, split, good, here⟩, crash⟩

end FailsAs

end RouteTypes
