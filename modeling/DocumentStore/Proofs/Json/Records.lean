import DocumentStore.Patch.Wire
import DocumentStore.Proofs.Json.Fields

/-!
# Records written and read back

A reader of a record finds each part under its name, wherever the writer put it and whatever it
left out.  What it then makes of a part undoes how the part was written: a list item by item, an
object field by field, and a part that may be missing by leaving it out.

Principal results: `get?_groupField` — what is found of a part that may be left out.
`itemsOf?_map`, `fieldsOf?_ofFieldsOf`, `optional_map` — lists, objects and optional parts read
back.
-/

set_option autoImplicit false

namespace DocumentStore

variable {α : Type}

/-! ## Values of one kind -/

@[simp] theorem string?_string (text : String) : Value.string? (.string text : Json) = some text :=
  rfl

@[simp] theorem items?_ofItems (items : List Json) : (Json.ofItems items).items? = some items := rfl

@[simp] theorem fields?_ofFields (fields : Fields Json) :
    (Json.ofFields fields).fields? = some fields := rfl

/-! ## Parts -/

namespace Json

@[simp] theorem parts?_ofFields (names : List String) (least : Nat) (fields : Fields Json) :
    parts? names least (ofFields fields) = some (names.map (Fields.get? fields)) := rfl

end Json

@[simp] theorem required_some (read : Json → Option α) (value : Json) :
    required read (some value) = read value := rfl

/-- A part that may be left out is found under its name only. -/
theorem get?_groupField (name key : String) (write : α → Json) (group : Option α) :
    Fields.get? (Patch.groupField name write group) key =
      if key = name then group.map write else none := by
  cases group with
  | none => exact (ite_self none).symm
  | some part => exact Fields.get?_cons name (write part) [] key

/-- A part that may be left out reads back, when what is written is not null. -/
theorem optional_map (write : α → Json) (read : Json → Option α)
    (h : ∀ part, read (write part) = some part) (notNull : ∀ part, write part ≠ .null)
    (group : Option α) : optional read (group.map write) = some group := by
  cases group with
  | none => rfl
  | some part =>
    rw [Option.map_some, optional, h]
    · rfl
    · exact notNull part

/-! ## Lists and objects -/

namespace Json

theorem itemsOf?_map (write : α → Json) (read : Json → Option α)
    (h : ∀ item, read (write item) = some item) (items : List α) :
    itemsOf? read (ofItems (items.map write)) = some items :=
  readAll_map write read h items

theorem texts?_ofTexts (texts : List String) : texts? (ofTexts texts) = some texts :=
  itemsOf?_map .string Value.string? (fun _ => rfl) texts

theorem fieldsOf?_ofFieldsOf (write : α → Json) (read : Json → Option α)
    (h : ∀ value, read (write value) = some value) (fields : Fields α) :
    fieldsOf? read (ofFieldsOf write fields) = some fields := by
  refine readAll_map _ _ (fun field => ?_) fields
  rw [h, Option.map_some]

end Json

end DocumentStore
