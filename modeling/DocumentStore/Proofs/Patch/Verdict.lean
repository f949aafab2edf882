import DocumentStore.Proofs.Dataset.Ids
import DocumentStore.Proofs.Patch.Stepwise

/-!
# What becomes of a patch

A patch fails with the first of its operations that fails, or because the operations leave another
id.  Where it succeeds, it leaves the fields that the operations leave, but for the two stamps; a
patch for another document, and one without operations, leaves the very same document.

* `outcomes` — the value that operations leave one after the other.
* `FirstFault` — the first operation that fails, and its fault.

Principal results: `applyOperations_eq_ok_iff`, `applyOperations_eq_error_iff` — what becomes of
operations.  `outcomes_ofFields` — operations leave an object of an object.
`reviseValue_eq_error_iff` — an object is no revised document only when its id is another.
`reduce_verdict` — what becomes of a patch.
-/

set_option autoImplicit false

namespace DocumentStore

/-! ## Operations in order -/

/-- The value that operations leave, each done to what the ones before it left. -/
def outcomes (root : Json) (operations : List (Operation Unit)) : Except Fault Json :=
  operations.foldlM (fun root operation => operation.outcome () root) root

/-- The operations before this one succeed, and this one fails on what they left. -/
def FirstFault (root : Json) (operations : List (Operation Unit)) (operation : Operation Unit)
    (cause : Fault) : Prop :=
  ∃ before behind middle, operations = before ++ operation :: behind ∧
    outcomes root before = .ok middle ∧ operation.outcome () middle = .error cause

section
variable {id : String} {root : Json} {operations rest : List (Operation Unit)}
  {operation failing : Operation Unit} {cause fault : Fault}

theorem outcomes_cons : outcomes root (operation :: rest) =
    (operation.outcome () root).bind (fun middle => outcomes middle rest) := rfl

theorem firstFault_nil : ¬ FirstFault root [] failing cause := by
  rintro ⟨before, behind, middle, split, -⟩
  cases before <;> cases split

theorem firstFault_cons : FirstFault root (operation :: rest) failing cause ↔
    (failing = operation ∧ operation.outcome () root = .error cause) ∨
      ∃ middle, operation.outcome () root = .ok middle ∧ FirstFault middle rest failing cause := by
  constructor
  · rintro ⟨before, behind, last, split, succeed, fails⟩
    cases before with
    | nil =>
      cases split
      cases succeed
      exact .inl ⟨rfl, fails⟩
    | cons first before =>
      cases split
      rw [outcomes_cons] at succeed
      obtain ⟨middle, first_ok, others⟩ := bind_eq_ok.mp succeed
      exact .inr ⟨middle, first_ok, before, behind, last, rfl, others, fails⟩
  · rintro (⟨rfl, fails⟩ | ⟨middle, first_ok, before, behind, last, rfl, succeed, fails⟩)
    · exact ⟨[], rest, root, rfl, rfl, fails⟩
    · refine ⟨operation :: before, behind, last, rfl, ?_, fails⟩
      rw [outcomes_cons, first_ok]
      exact succeed

/-- **The operations of a patch leave what they leave one after the other.** -/
theorem applyOperations_eq_ok_iff {out : Json} :
    (applyOperations id root operations).result = .ok out ↔ outcomes root operations = .ok out := by
  induction operations generalizing root with
  | nil => exact Iff.rfl
  | cons operation rest ih =>
    rw [applyOperations_cons, applyOperation_result, outcomes_cons]
    cases operation.outcome () root with
    | error cause => exact ⟨nofun, nofun⟩
    | ok middle => exact ih

/-- **They fail with the first of them that fails.**  The fault names it, its path and the
document. -/
theorem applyOperations_eq_error_iff :
    (applyOperations id root operations).result = .error fault ↔
      ∃ failing cause, FirstFault root operations failing cause ∧
        fault = .operator failing.kind failing.path id cause := by
  induction operations generalizing root with
  | nil =>
    constructor
    · intro h
      cases h
    · rintro ⟨failing, cause, none, -⟩
      exact absurd none firstFault_nil
  | cons operation rest ih =>
    rw [applyOperations_cons, applyOperation_result]
    simp only [firstFault_cons]
    cases houtcome : operation.outcome () root with
    | error cause =>
      constructor
      · intro h
        cases h
        exact ⟨operation, cause, .inl ⟨rfl, rfl⟩, rfl⟩
      · rintro ⟨failing, cause', ⟨rfl, same⟩ | ⟨middle, impossible, -⟩, rfl⟩
        · cases same
          rfl
        · cases impossible
    | ok middle =>
      show (applyOperations id middle rest).result = _ ↔ _
      rw [ih]
      constructor
      · rintro ⟨failing, cause, first, rfl⟩
        exact ⟨failing, cause, .inr ⟨middle, rfl, first⟩, rfl⟩
      · rintro ⟨failing, cause, ⟨-, impossible⟩ | ⟨middle', same, first⟩, rfl⟩
        · cases impossible
        · cases same
          exact ⟨failing, cause, first, rfl⟩

end

/-! ## Objects stay objects -/

theorem Operation.outcome_ofFields {operation : Operation Unit} {fields : Fields Json} {out : Json}
    (h : operation.outcome () (Json.ofFields fields) = .ok out) :
    ∃ fields', out = Json.ofFields fields' := by
  rcases operation.apply_object () with ⟨key, act, -, here⟩ | ⟨fault, refuses⟩
  · obtain ⟨edit, -, rfl⟩ := here.exists_act h
    exact ⟨edit.fields key fields, rfl⟩
  · obtain ⟨edit, happly, -⟩ := outcomeOf_eq_ok_iff.mp h
    rw [show operation.apply () (Json.ofFields fields) = .error fault from refuses () fields]
      at happly
    cases happly

/-- **Operations leave an object of an object.** -/
theorem outcomes_ofFields : ∀ {operations : List (Operation Unit)} {fields : Fields Json}
    {out : Json}, outcomes (Json.ofFields fields) operations = .ok out →
      ∃ fields', out = Json.ofFields fields'
  | [], fields, _, h => by
    cases h
    exact ⟨fields, rfl⟩
  | operation :: rest, fields, _, h => by
    rw [outcomes_cons] at h
    obtain ⟨middle, first, others⟩ := bind_eq_ok.mp h
    obtain ⟨fields', rfl⟩ := Operation.outcome_ofFields first
    exact outcomes_ofFields others

/-! ## The document at the end -/

theorem reviseValue_of_id {id : String} {fields : Fields Json} (hasId : idOfFields fields = .ok id)
    (tx : Transaction) :
    reviseValue id tx (Json.ofFields fields) = .ok ((Document.mk fields id hasId).revised tx) :=
  reviseValue_toJson ⟨fields, id, hasId⟩ tx

/-- **The id is all that an object can be refused for.** -/
theorem reviseValue_eq_error_iff {id : String} (proper : id ≠ "") {fields : Fields Json}
    {tx : Transaction} {fault : Fault} :
    reviseValue id tx (Json.ofFields fields) = .error fault ↔
      Fields.get? fields "_id" ≠ some (.string id) ∧ fault = .immutableId id := by
  by_cases hid : Fields.get? fields "_id" = some (.string id)
  · have hasId : idOfFields fields = .ok id := idOfFields_eq_ok_iff.mpr ⟨hid, proper⟩
    rw [reviseValue_of_id hasId]
    constructor
    · intro h
      cases h
    · rintro ⟨other, -⟩
      exact absurd hid other
  · have refused : reviseValue id tx (Json.ofFields fields) = .error (.immutableId id) :=
      if_neg hid
    rw [refused]
    constructor
    · intro h
      cases h
      exact ⟨hid, rfl⟩
    · rintro ⟨-, rfl⟩
      rfl

theorem reviseValue_eq_ok {id : String} {fields : Fields Json} {tx : Transaction} {out : Document}
    (h : reviseValue id tx (Json.ofFields fields) = .ok out) :
    out.id = id ∧ out.fields = stampRevision tx fields := by
  obtain ⟨doc, isDocument, sameId, rfl⟩ := reviseValue_eq_ok_iff.mp h
  exact ⟨sameId, congrArg (stampRevision tx) (Document.fields_of_ofFields isDocument)⟩

/-! ## Patches -/

section
variable {patch : Patch} {doc : Document} {tx : Transaction}

theorem reduce_eq_none_iff : (patch.reduce doc tx).result = .ok none ↔
    patch.id ≠ doc.id ∨ patch.operations = [] := by
  refine ⟨fun h => ?_, Patch.reduce_of_idle⟩
  by_cases sameId : patch.id = doc.id
  · by_cases empty : patch.operations = []
    · exact .inr empty
    · rw [Patch.reduce_of_operations sameId empty] at h
      obtain ⟨root, -, revised⟩ := bind_eq_ok.mp h
      obtain ⟨out, -, impossible⟩ := map_eq_ok.mp revised
      cases impossible
  · exact .inl sameId

/-- **When a patch fails**: at the first operation that does, or because of the id in the end. -/
theorem reduce_eq_error_iff {fault : Fault} : (patch.reduce doc tx).result = .error fault ↔
    patch.id = doc.id ∧
      ((∃ failing cause, FirstFault doc.toJson patch.operations failing cause ∧
          fault = .operator failing.kind failing.path doc.id cause) ∨
        ∃ fields, outcomes doc.toJson patch.operations = .ok (Json.ofFields fields) ∧
          Fields.get? fields "_id" ≠ some (.string doc.id) ∧ fault = .immutableId doc.id) := by
  constructor
  · intro h
    obtain ⟨sameId, busy⟩ := Patch.busy_of_reduce (by rw [h]; exact nofun)
    rw [Patch.reduce_of_operations sameId busy] at h
    refine ⟨sameId, ?_⟩
    rcases bind_eq_error.mp h with failed | ⟨root, succeed, refused⟩
    · exact .inl (applyOperations_eq_error_iff.mp failed)
    · have succeed := applyOperations_eq_ok_iff.mp succeed
      obtain ⟨fields, rfl⟩ := outcomes_ofFields succeed
      have refused := (reviseValue_eq_error_iff doc.id_ne_empty).mp (map_eq_error.mp refused)
      exact .inr ⟨fields, succeed, refused⟩
  · rintro ⟨sameId, fails⟩
    have busy : patch.operations ≠ [] := by
      intro empty
      rw [empty] at fails
      rcases fails with ⟨failing, cause, first, -⟩ | ⟨fields, same, other, -⟩
      · exact firstFault_nil first
      · cases same
        exact other doc.field?_id
    rw [Patch.reduce_of_operations sameId busy]
    rcases fails with failed | ⟨fields, succeed, refused⟩
    · exact bind_eq_error.mpr (.inl (applyOperations_eq_error_iff.mpr failed))
    · refine bind_eq_error.mpr (.inr ⟨Json.ofFields fields, applyOperations_eq_ok_iff.mpr succeed,
        map_eq_error.mpr ?_⟩)
      exact (reviseValue_eq_error_iff doc.id_ne_empty).mpr refused

theorem reduce_eq_some {out : Document} (h : (patch.reduce doc tx).result = .ok (some out)) :
    out.id = doc.id ∧ ∃ fields,
      outcomes doc.toJson patch.operations = .ok (Json.ofFields fields) ∧
        out.fields = stampRevision tx fields := by
  obtain ⟨sameDocument, busy⟩ := Patch.busy_of_reduce (by rw [h]; exact nofun)
  rw [Patch.reduce_of_operations sameDocument busy] at h
  obtain ⟨root, succeed, revised⟩ := bind_eq_ok.mp h
  obtain ⟨out', revised, found⟩ := map_eq_ok.mp revised
  cases found
  have succeed := applyOperations_eq_ok_iff.mp succeed
  obtain ⟨fields, rfl⟩ := outcomes_ofFields succeed
  obtain ⟨sameId, sameFields⟩ := reviseValue_eq_ok revised
  exact ⟨sameId, fields, succeed, sameFields⟩

/-- **What becomes of a patch.**  It fails when it is for the document and one of its operations
fails on what the ones before it left, with the fault of the first that does; or when they all
succeed and leave another id, or none.  There is no other fault.  A patch for another document, and
one without operations, leaves the very same document.  Any other leaves a document with the id,
the stamps of the transaction, and in every other field what the operations leave there. -/
theorem reduce_verdict (patch : Patch) (doc : Document) (tx : Transaction) :
    (∀ fault, (patch.reduce doc tx).result = .error fault ↔
      patch.id = doc.id ∧
        ((∃ failing cause, FirstFault doc.toJson patch.operations failing cause ∧
            fault = .operator failing.kind failing.path doc.id cause) ∨
          ∃ fields, outcomes doc.toJson patch.operations = .ok (Json.ofFields fields) ∧
            Fields.get? fields "_id" ≠ some (.string doc.id) ∧ fault = .immutableId doc.id)) ∧
      ((patch.reduce doc tx).result = .ok none ↔
        patch.id ≠ doc.id ∨ patch.operations = []) ∧
      ∀ out, (patch.reduce doc tx).result = .ok (some out) →
        out.id = doc.id ∧ ∃ fields,
          outcomes doc.toJson patch.operations = .ok (Json.ofFields fields) ∧
            ∀ key, out.field? key =
              if key = "_updatedAt" then some (.string tx.timestamp)
              else if key = "_rev" then some (.string tx.id) else Fields.get? fields key := by
  refine ⟨fun fault => reduce_eq_error_iff, reduce_eq_none_iff, fun out h => ?_⟩
  obtain ⟨sameId, fields, succeed, sameFields⟩ := reduce_eq_some h
  refine ⟨sameId, fields, succeed, fun key => ?_⟩
  unfold Document.field?
  rw [sameFields]
  exact get?_stampRevision tx fields key

end

end DocumentStore
