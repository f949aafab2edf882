import DocumentStore.Dataset
import DocumentStore.Query.Reader

/-!
# Evaluators

An evaluator answers queries over a dataset with records of that dataset.  The store takes any.

* `Evaluator.filter` — the built-in one, for stars and filters.
* `Evaluator.first`, `Evaluator.limited` — the first documents, whatever the query; and the
  built-in one on datasets that are not too large.
-/

set_option autoImplicit false

namespace DocumentStore

/-- Answers a query with parameters over a dataset. -/
abbrev Evaluator := String → Fields Json → Dataset → Except Fault (List Record)

namespace Evaluator

/-- The records of which the filter of the query holds. -/
def filter : Evaluator := fun text params dataset => do
  let query ← Query.ofText params text
  .ok (dataset.records.filter (fun record => query.accepts record.document.toJson))

/-- The first records. -/
def first (count : Nat) : Evaluator := fun _ _ dataset => .ok (dataset.records.take count)

/-- The built-in evaluator, refusing datasets of more than `count` documents. -/
def limited (count : Nat) : Evaluator := fun text params dataset =>
  if count < dataset.size then
    .error (.query (.refused ("more than " ++ toString count ++ " documents")))
  else filter text params dataset

end Evaluator

end DocumentStore
