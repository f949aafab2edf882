import DocumentStore.Query.Filter

/-!
# Paths in filters

A path in a filter is a list of keys and indices, and the path expression of the same attributes and
single indices addresses the same values.  The two differ in what they make of a step that does not
lead on: a filter goes on with null, whereas a reading tells a missing value from a container of the
wrong kind.

* `FilterStep.segment` — the segment of a path expression for a step.
* `valueOrNull` — what a reading found, null standing for everything else.

Principal results: `readSegments_segments` — a reading follows the steps of a filter.
`eval_path_eq_read` — a path operand is what the reading of its segments found.
-/

set_option autoImplicit false

namespace DocumentStore

open PathExpr

/-- The segment of a path expression that addresses what a step of a filter does. -/
def FilterStep.segment : FilterStep → PathExpr
  | .key name => .attribute name
  | .index i => .atIndex i

/-- What a reading found, or null when the value is missing and when the reading failed. -/
def valueOrNull : Except Fault (Option Json) → Json
  | .ok (some found) => found
  | .ok none => .null
  | .error _ => .null

/-- **A segment is read by following its step.**  The reading fails only where the step does not
lead on. -/
theorem FilterStep.read_segment (step : FilterStep) (value : Json) :
    read step.segment value = .ok (step.follow? value) ∨
      step.follow? value = none ∧ ∃ fault, read step.segment value = .error fault := by
  cases step with
  | key name =>
    cases value with
    | object label fields => exact .inl rfl
    | _ => exact .inr ⟨rfl, _, rfl⟩
  | index i =>
    cases value with
    | array label items => exact .inl rfl
    | _ => exact .inr ⟨rfl, _, rfl⟩

/-- **A reading follows the steps of a filter**, value by value. -/
theorem readSegments_segments : ∀ (steps : List FilterStep) (value : Json),
    valueOrNull (readSegments (steps.map FilterStep.segment) value) = followSteps value steps
  | [], value => rfl
  | step :: rest, value => by
    rw [List.map_cons, readSegments, followSteps]
    rcases step.read_segment value with found | ⟨lost, fault, failed⟩
    · rw [found]
      cases step.follow? value with
      | none => rfl
      | some next => exact readSegments_segments rest next
    · rw [failed, lost]
      rfl

/-- **A path operand is what the path of its segments addresses**: the value that is found there, and
null when it is missing or when the reading meets a container of the wrong kind. -/
theorem eval_path_eq_read (current : Json) (steps : List FilterStep) :
    (Operand.path steps).eval current =
      valueOrNull (read (.path (steps.map FilterStep.segment)) current) :=
  (readSegments_segments steps current).symm

/-- The last room, and a step into a text. -/
example :
    let home : Json := .object () [("rooms", .array () [.string "hall", .string "attic"])]
    (Operand.path [.key "rooms", .index (-1)]).eval home = .string "attic" ∧
      (Operand.path [.key "rooms", .index (-1), .key "door"]).eval home = .null := by decide

end DocumentStore
