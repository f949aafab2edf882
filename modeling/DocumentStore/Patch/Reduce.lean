import DocumentStore.Patch.Basic

/-!
# Patches on documents

The operations of a patch are applied one after the other.  A patch for another document, and one
without operations, leaves the very same document; any other patch makes a new one, stamped once.
The id of a document never changes.

* `applyOperation`, `applyOperations` — operations on the fields of a document.
* `Patch.reduce` — a patch on a document; `none` for the very same document.

`reviseValue_eq_ok_iff`: which value becomes a document again.  `Patch.reduce_of_idle`,
`Patch.reduce_of_operations`: which patches leave the very same document, and what the others do.
-/

set_option autoImplicit false

namespace DocumentStore

/-- One operation on the value of the document with this id. -/
def applyOperation (id : String) (root : Json) (operation : Operation Unit) : Logged Json :=
  match operation.apply () root with
  | .ok (.kept notice) => ⟨notice.toList, .ok root⟩
  | .ok (.changed value) => ⟨[], .ok value⟩
  | .error cause => .fail (.operator operation.kind operation.path id cause)

/-- Operations one after the other, up to the first that fails. -/
def applyOperations (id : String) (root : Json) : List (Operation Unit) → Logged Json
  | [] => .pure root
  | operation :: rest =>
    (applyOperation id root operation).bind (fun root => applyOperations id root rest)

/-- The changed document, stamped, when its id is still the one given. -/
def reviseValue (id : String) (tx : Transaction) (root : Json) : Except Fault Document :=
  if root.field? "_id" = some (.string id) then
    match Document.ofJson root with
    | .ok doc => .ok (doc.revised tx)
    | .error problem => .error (.badDocument problem)
  else .error (.immutableId id)

/-- A patch on a document; `none` when the result is the very same document. -/
def Patch.reduce (patch : Patch) (doc : Document) (tx : Transaction) : Logged (Option Document) :=
  if doc.id ≠ patch.id then .pure none
  else if patch.operations.isEmpty then .pure none
  else (applyOperations doc.id doc.toJson patch.operations).bind
    (fun root => ⟨[], (reviseValue doc.id tx root).map some⟩)

/-- What is stamped is the document that the value is, and it has the id. -/
theorem reviseValue_eq_ok_iff {id : String} {tx : Transaction} {root : Json} {out : Document} :
    reviseValue id tx root = .ok out ↔
      ∃ doc, Document.ofJson root = .ok doc ∧ doc.id = id ∧ doc.revised tx = out := by
  constructor
  · intro h
    unfold reviseValue at h
    split at h
    · next sameId =>
      split at h
      · next doc isDocument =>
        rw [Document.field?_id_of_ofJson isDocument] at sameId
        exact ⟨doc, isDocument, Value.string.inj (Option.some.inj sameId), Except.ok.inj h⟩
      · cases h
    · cases h
  · rintro ⟨doc, isDocument, rfl, rfl⟩
    unfold reviseValue
    rw [if_pos (Document.field?_id_of_ofJson isDocument), isDocument]

namespace Patch

variable {patch : Patch} {doc : Document} {tx : Transaction}

/-- A patch for another document, or without operations, leaves the very same document. -/
theorem reduce_of_idle (idle : patch.id ≠ doc.id ∨ patch.operations = []) :
    (patch.reduce doc tx).result = .ok none := by
  unfold reduce
  split
  · rfl
  · next sameId =>
    split
    · rfl
    · next busy =>
      rcases idle with other | empty
      · exact absurd (Ne.symm other) sameId
      · exact absurd (List.isEmpty_iff.mpr empty) busy

/-- Any other patch does its operations and stamps what they leave. -/
theorem reduce_of_operations (sameId : patch.id = doc.id) (busy : patch.operations ≠ []) :
    (patch.reduce doc tx).result =
      (applyOperations doc.id doc.toJson patch.operations).result.bind
        (fun root => (reviseValue doc.id tx root).map some) := by
  unfold reduce
  rw [if_neg (fun different => different sameId.symm),
    if_neg (fun empty => busy (List.isEmpty_iff.mp empty)), Logged.result_bind]

/-- A patch that does anything is for the document and has operations. -/
theorem busy_of_reduce (h : (patch.reduce doc tx).result ≠ .ok none) :
    patch.id = doc.id ∧ patch.operations ≠ [] := by
  obtain ⟨sameId, busy⟩ := not_or.mp (fun idle => h (reduce_of_idle idle))
  exact ⟨Decidable.not_not.mp sameId, busy⟩

end Patch

end DocumentStore
