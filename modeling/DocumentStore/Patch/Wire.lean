import DocumentStore.Json.Record
import DocumentStore.Patch.Basic

/-!
# Patches in JSON

A patch is an object of its id and the groups it has.  An insertion names its anchor under its
position; of several positions the first of `after`, `before`, `replace` counts.
-/

set_option autoImplicit false

namespace DocumentStore

/-- The first of three anchors that is there. -/
def firstAnchor (after before replace : Option String) : Option (Position × String) :=
  match after, before, replace with
  | some anchor, _, _ => some (.after, anchor)
  | none, some anchor, _ => some (.before, anchor)
  | none, none, some anchor => some (.replace, anchor)
  | none, none, none => none

namespace Insertion

/-- An insertion as JSON. -/
def toJson (insertion : Insertion Unit) : Json :=
  Json.ofFields [(insertion.position.name, .string insertion.anchor),
    ("items", Json.ofItems insertion.items)]

/-- The insertion that a value writes. -/
def ofJson? (value : Json) : Option (Insertion Unit) :=
  match Json.parts? ["after", "before", "replace", "items"] 0 value with
  | some [after, before, replace, items] => do
    let after ← optional Value.string? after
    let before ← optional Value.string? before
    let replace ← optional Value.string? replace
    let items ← defaulted [] Value.items? items
    let (position, anchor) ← firstAnchor after before replace
    some ⟨position, anchor, items⟩
  | _ => none

end Insertion

namespace Patch

/-- A group as a field, when it is there. -/
def groupField {α : Type} (name : String) (write : α → Json) (group : Option α) :
    List (String × Json) :=
  match group with
  | some group => [(name, write group)]
  | none => []

/-- A patch as JSON. -/
def toJson (patch : Patch) : Json :=
  Json.ofFields (
    ("id", .string patch.id)
      :: (groupField "set" Json.ofFields patch.set
      ++ groupField "setIfMissing" Json.ofFields patch.setIfMissing
      ++ groupField "unset" Json.ofTexts patch.unset
      ++ groupField "inc" (Json.ofFieldsOf .number) patch.inc
      ++ groupField "dec" (Json.ofFieldsOf .number) patch.dec
      ++ groupField "diffMatchPatch" (Json.ofFieldsOf .string) patch.diffMatchPatch
      ++ groupField "insert" Insertion.toJson patch.insert))

/-- The names of the parts of a patch. -/
def partNames : List String :=
  ["id", "set", "setIfMissing", "unset", "inc", "dec", "diffMatchPatch", "insert"]

/-- The patch that a value writes. -/
def ofJson? (value : Json) : Option Patch :=
  match Json.parts? partNames 1 value with
  | some [id, set, setIfMissing, unset, inc, dec, diffMatchPatch, insert] => do
    let id ← required Value.string? id
    let set ← optional Value.fields? set
    let setIfMissing ← optional Value.fields? setIfMissing
    let unset ← optional Json.texts? unset
    let inc ← optional (Json.fieldsOf? Json.number?) inc
    let dec ← optional (Json.fieldsOf? Json.number?) dec
    let diffMatchPatch ← optional (Json.fieldsOf? Value.string?) diffMatchPatch
    let insert ← optional Insertion.ofJson? insert
    some ⟨id, set, setIfMissing, unset, inc, dec, diffMatchPatch, insert⟩
  | _ => none

end Patch

end DocumentStore
