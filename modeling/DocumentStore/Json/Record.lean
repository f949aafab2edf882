import DocumentStore.Json.Value

/-!
# Records in JSON

A record is read from an object, by the names of its fields, or from an array, by their order.
Fields of an object that the record does not know are ignored; an array must not be longer than
the record, and may end early only where the missing fields have defaults.

* `Json.parts?` — the parts of a record, in the order of its names.
* `required`, `optional`, `defaulted` — what a missing part means.
* `Json.texts?`, `Json.fieldsOf?`, `Json.itemsOf?` — lists and objects of one type.
* `Json.variantName?` — the name of a variant without contents.
-/

set_option autoImplicit false

namespace DocumentStore

variable {α : Type}

/-- The parts of a record with these names; an array has at least `least` of them. -/
def Json.parts? (names : List String) (least : Nat) : Json → Option (List (Option Json))
  | .object _ fields => some (names.map (Fields.get? fields))
  | .array _ items =>
    if least ≤ items.length ∧ items.length ≤ names.length then
      some ((List.range names.length).map (fun i => items[i]?))
    else none
  | _ => none

/-- A part that must be there. -/
def required (read : Json → Option α) : Option Json → Option α
  | some value => read value
  | none => none

/-- A part that may be missing or null. -/
def optional (read : Json → Option α) : Option Json → Option (Option α)
  | none => some none
  | some .null => some none
  | some value => (read value).map some

/-- A part that has a default when it is missing. -/
def defaulted (default : α) (read : Json → Option α) : Option Json → Option α
  | none => some default
  | some value => read value

/-- The results of a reader on every member; `none` when one fails. -/
def readAll {β : Type} (read : β → Option α) : List β → Option (List α)
  | [] => some []
  | x :: rest => do
    let y ← read x
    let ys ← readAll read rest
    some (y :: ys)

/-- Reading all of what was written gives it back, when reading one does. -/
theorem readAll_map {β : Type} (write : α → β) (read : β → Option α)
    (h : ∀ x, read (write x) = some x) (xs : List α) : readAll read (xs.map write) = some xs := by
  induction xs with
  | nil => rfl
  | cons x rest ih => simp [readAll, h, ih]

namespace Json

/-- A number. -/
def number? : Json → Option Number
  | .number n => some n
  | _ => none

/-- The items of an array, each read alike. -/
def itemsOf? (read : Json → Option α) (value : Json) : Option (List α) := do
  readAll read (← value.items?)

/-- The fields of an object, each read alike. -/
def fieldsOf? (read : Json → Option α) (value : Json) : Option (Fields α) := do
  readAll (fun (field : String × Json) => (read field.2).map (field.1, ·)) (← value.fields?)

/-- A list of texts. -/
def texts? (value : Json) : Option (List String) := itemsOf? Value.string? value

/-- An object of values written alike. -/
def ofFieldsOf (write : α → Json) (fields : Fields α) : Json :=
  Json.ofFields (fields.map (fun field => (field.1, write field.2)))

/-- The name of a variant without contents: a text, or an object of one field whose value is
null. -/
def variantName? : Json → Option String
  | .string name => some name
  | .object _ [(name, .null)] => some name
  | _ => none

/-- The name and contents of a variant: an object of one field. -/
def variant? : Json → Option (String × Json)
  | .object _ [field] => some field
  | _ => none

end Json

end DocumentStore
