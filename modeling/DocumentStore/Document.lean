import DocumentStore.Json.Value

/-!
# Documents

A document is an object with a non-empty text under `_id`.  The store writes three more fields:
`_rev`, the last transaction that wrote the document, and the times `_createdAt` and
`_updatedAt`.

* `Document`, `Document.ofJson` — documents, and the value that is one.
* `DocumentProblem` — why a value is none.
* `Transaction` — the id and time that everything in one batch is stamped with.
* `Document.created`, `stampRevision` — the stamps of a new and of a changed document.
-/

set_option autoImplicit false

namespace DocumentStore

/-- Why a value is no document. -/
inductive DocumentProblem where
  | notAnObject (found : Kind)
  | missingId
  | badId (found : Kind)
  deriving DecidableEq

/-- The text of a problem. -/
def DocumentProblem.message : DocumentProblem → String
  | .notAnObject found => "expected an object, found " ++ found.name
  | .missingId => "missing `_id`"
  | .badId found => "`_id` must be a non-empty string, found " ++ found.name

/-- The id under which fields are stored: a non-empty text under `_id`. -/
def idOfFields (fields : Fields Json) : Except DocumentProblem String :=
  match Fields.get? fields "_id" with
  | some (.string id) => if id.isEmpty then .error (.badId .string) else .ok id
  | some other => .error (.badId other.kind)
  | none => .error .missingId

/-- Fields have the id that stands under `_id`, a text that is not empty. -/
theorem idOfFields_eq_ok_iff {fields : Fields Json} {id : String} :
    idOfFields fields = .ok id ↔ Fields.get? fields "_id" = some (.string id) ∧ id ≠ "" := by
  unfold idOfFields
  cases Fields.get? fields "_id" with
  | none => simp
  | some found =>
    cases found with
    | string text =>
      simp only [Option.some.injEq, Value.string.injEq, String.isEmpty_iff]
      split
      · next hempty =>
        constructor
        · intro h
          cases h
        · rintro ⟨rfl, hne⟩
          exact absurd hempty hne
      · next hne =>
        constructor
        · rintro ⟨rfl⟩
          exact ⟨rfl, hne⟩
        · rintro ⟨rfl, -⟩
          rfl
    | null | bool _ | number _ | array _ _ | object _ _ => simp

/-- A document: fields with an id. -/
structure Document where
  fields : Fields Json
  id : String
  hasId : idOfFields fields = .ok id
  deriving DecidableEq

/-- The id and time of a batch. -/
structure Transaction where
  id : String
  timestamp : String
  deriving DecidableEq

/-- Fields stamped with the transaction that changed them. -/
def stampRevision (tx : Transaction) (fields : Fields Json) : Fields Json :=
  Fields.set "_updatedAt" (.string tx.timestamp) (Fields.set "_rev" (.string tx.id) fields)

/-- Fields stamped with the transaction that stores them; times already there are kept. -/
def stampCreation (tx : Transaction) (fields : Fields Json) : Fields Json :=
  Fields.setIfAbsent "_updatedAt" (.string tx.timestamp)
    (Fields.setIfAbsent "_createdAt" (.string tx.timestamp)
      (Fields.set "_rev" (.string tx.id) fields))

theorem get?_setIfAbsent_ne {key other : String} (h : other ≠ key) (value : Json)
    (fields : Fields Json) :
    Fields.get? (Fields.setIfAbsent key value fields) other = Fields.get? fields other := by
  unfold Fields.setIfAbsent
  split
  · rfl
  · exact Fields.get?_set_ne h value fields

theorem idOfFields_stampRevision (tx : Transaction) (fields : Fields Json) :
    idOfFields (stampRevision tx fields) = idOfFields fields := by
  unfold idOfFields stampRevision
  rw [Fields.get?_set_ne (by decide), Fields.get?_set_ne (by decide)]

theorem idOfFields_stampCreation (tx : Transaction) (fields : Fields Json) :
    idOfFields (stampCreation tx fields) = idOfFields fields := by
  unfold idOfFields stampCreation
  rw [get?_setIfAbsent_ne (by decide), get?_setIfAbsent_ne (by decide),
    Fields.get?_set_ne (by decide)]

namespace Document

/-- The document with these fields. -/
def ofFields (fields : Fields Json) : Except DocumentProblem Document :=
  match h : idOfFields fields with
  | .ok id => .ok ⟨fields, id, h⟩
  | .error problem => .error problem

theorem ofFields_fields (doc : Document) : ofFields doc.fields = .ok doc := by
  unfold ofFields
  split
  · rename_i id found
    cases found.symm.trans doc.hasId
    rfl
  · rename_i problem found
    cases found.symm.trans doc.hasId

theorem fields_of_ofFields {fields : Fields Json} {doc : Document} (h : ofFields fields = .ok doc) :
    doc.fields = fields := by
  unfold ofFields at h
  split at h
  · cases h
    rfl
  · cases h

/-- The document that a value is. -/
def ofJson : Json → Except DocumentProblem Document
  | .object _ fields => ofFields fields
  | other => .error (.notAnObject other.kind)

/-- A document as a value. -/
def toJson (doc : Document) : Json := Json.ofFields doc.fields

/-- The field of a document with this key. -/
def field? (doc : Document) (key : String) : Option Json := Fields.get? doc.fields key

/-- The id of a document stands under `_id`. -/
theorem field?_id (doc : Document) : doc.field? "_id" = some (.string doc.id) :=
  (idOfFields_eq_ok_iff.mp doc.hasId).1

/-- A document never has the empty id. -/
theorem id_ne_empty (doc : Document) : doc.id ≠ "" := (idOfFields_eq_ok_iff.mp doc.hasId).2

theorem field?_id_of_ofJson {value : Json} {doc : Document} (h : ofJson value = .ok doc) :
    value.field? "_id" = some (.string doc.id) := by
  unfold ofJson at h
  split at h
  · rw [← fields_of_ofFields h]
    exact doc.field?_id
  · cases h

/-- The text under a key. -/
def text? (doc : Document) (key : String) : Option String := (doc.field? key).bind Value.string?

/-- The type of a document. -/
def type? (doc : Document) : Option String := doc.text? "_type"

/-- The revision of a document. -/
def rev? (doc : Document) : Option String := doc.text? "_rev"

/-- A new document as it is stored. -/
def created (doc : Document) (tx : Transaction) : Document :=
  ⟨stampCreation tx doc.fields, doc.id, by rw [idOfFields_stampCreation]; exact doc.hasId⟩

/-- A changed document as it is stored. -/
def revised (doc : Document) (tx : Transaction) : Document :=
  ⟨stampRevision tx doc.fields, doc.id, by rw [idOfFields_stampRevision]; exact doc.hasId⟩

/-- Equality of documents by value. -/
def equal (a b : Document) : Bool := a.toJson.equal b.toJson

end Document

end DocumentStore
