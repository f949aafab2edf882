import DocumentStore.Patch.Wire

/-!
# Mutations

A batch is a list of mutations: documents to store, documents to delete, and patches.  It is read
leniently: what is no mutation is skipped, and that is told; a value that is no list is a batch of
one.

* `Mutation`, `Selection` — mutations, and what a deletion selects.
* `Mutation.toJson`, `Mutation.ofJson?` — one mutation in JSON.
* `decodeBatch` — a batch read leniently.
-/

set_option autoImplicit false

namespace DocumentStore

/-- One id or several. -/
inductive IdSelector where
  | one (id : String)
  | many (ids : List String)
  deriving DecidableEq

/-- Whether an id is selected. -/
def IdSelector.contains (selector : IdSelector) (id : String) : Bool :=
  match selector with
  | .one selected => selected == id
  | .many ids => ids.contains id

/-- What a deletion selects. -/
inductive Selection where
  | ids (selector : IdSelector)
  | query (text : String) (params : Fields Json)

/-- One entry of a batch. -/
inductive Mutation where
  | create (doc : Document)
  | createIfNotExists (doc : Document)
  | createOrReplace (doc : Document)
  | delete (selection : Selection)
  | patch (edits : Patch)

/-- The name of a mutation, as a batch writes it. -/
def Mutation.kindName : Mutation → String
  | .create _ => "create"
  | .createIfNotExists _ => "createIfNotExists"
  | .createOrReplace _ => "createOrReplace"
  | .delete _ => "delete"
  | .patch _ => "patch"

namespace IdSelector

/-- Ids as JSON: one text or a list of texts. -/
def toJson : IdSelector → Json
  | .one id => .string id
  | .many ids => Json.ofTexts ids

/-- The ids that a value writes. -/
def ofJson? : Json → Option IdSelector
  | .string id => some (.one id)
  | value => (Json.texts? value).map .many

end IdSelector

namespace Selection

/-- A selection as JSON.  Parameters are written when there are any. -/
def toJson : Selection → Json
  | .ids selector => Json.ofFields [("id", selector.toJson)]
  | .query text params =>
    Json.ofFields (("query", .string text)
      :: (if params.isEmpty then [] else [("params", Json.ofFields params)]))

/-- The selection by ids that fields write. -/
def idsOfFields? (fields : Fields Json) : Option Selection :=
  (required IdSelector.ofJson? (Fields.get? fields "id")).map .ids

/-- The selection by query that fields write. -/
def queryOfFields? (fields : Fields Json) : Option Selection := do
  let text ← required Value.string? (Fields.get? fields "query")
  let params ← defaulted [] Value.fields? (Fields.get? fields "params")
  some (.query text params)

/-- The selection that an object writes: by ids when it has them, else by query. -/
def ofJson? : Json → Option Selection
  | .object _ fields => idsOfFields? fields <|> queryOfFields? fields
  | _ => none

end Selection

/-- The document that a value writes. -/
def Document.ofJson? (value : Json) : Option Document := (Document.ofJson value).toOption

namespace Mutation

/-- The contents of a mutation as JSON. -/
def contents : Mutation → Json
  | .create doc => doc.toJson
  | .createIfNotExists doc => doc.toJson
  | .createOrReplace doc => doc.toJson
  | .delete selection => selection.toJson
  | .patch edits => edits.toJson

/-- A mutation as JSON: an object of its name and contents. -/
def toJson (mutation : Mutation) : Json :=
  Json.ofFields [(mutation.kindName, mutation.contents)]

/-- The mutation of a name with these contents. -/
def ofContents? (name : String) (contents : Json) : Option Mutation :=
  match name with
  | "create" => (Document.ofJson? contents).map .create
  | "createIfNotExists" => (Document.ofJson? contents).map .createIfNotExists
  | "createOrReplace" => (Document.ofJson? contents).map .createOrReplace
  | "delete" => (Selection.ofJson? contents).map .delete
  | "patch" => (Patch.ofJson? contents).map .patch
  | _ => none

/-- The mutation that a value writes. -/
def ofJson? (value : Json) : Option Mutation := do
  let (name, contents) ← Json.variant? value
  ofContents? name contents

end Mutation

/-- The entries of a batch: those of a list, or the value alone. -/
def batchEntries : Json → List Json
  | .array _ entries => entries
  | single => [single]

/-- The mutations among entries, and a notice for every entry that is none. -/
def decodeEntries : List Json → List Mutation × List Notice
  | [] => ([], [])
  | entry :: rest =>
    let (mutations, notices) := decodeEntries rest
    match Mutation.ofJson? entry with
    | some mutation => (mutation :: mutations, notices)
    | none => (mutations, .mutationSkipped :: notices)

/-- A batch read leniently. -/
def decodeBatch (batch : Json) : List Mutation × List Notice := decodeEntries (batchEntries batch)

end DocumentStore
