import DocumentStore.Mutation.Basic
import DocumentStore.Proofs.Json.Records

/-!
# Mutations written and read back

A batch that was written as JSON is read as the very same batch: the kinds of mutation are told
apart by name, a selection by ids from one by query, one id from a list of ids, and a group of a
patch that is empty from one that is not there.  Nothing is skipped on the way.

Principal results: `Patch.ofJson?_toJson`, `Selection.ofJson?_toJson` — patches and selections read
back.  `decodeBatch_toJson` — so does every batch.
-/

set_option autoImplicit false

namespace DocumentStore

/-! ## Documents -/

theorem Document.ofJson?_toJson (doc : Document) : Document.ofJson? doc.toJson = some doc :=
  congrArg Except.toOption doc.ofFields_fields

/-! ## Selections -/

/-- One id and a list of ids read back, and are told apart. -/
theorem IdSelector.ofJson?_toJson (selector : IdSelector) :
    IdSelector.ofJson? selector.toJson = some selector := by
  cases selector with
  | one id => rfl
  | many ids => exact congrArg (Option.map IdSelector.many) (Json.texts?_ofTexts ids)

/-- **A selection reads back.**  One by query writes no ids, so it is not taken for one by ids. -/
theorem Selection.ofJson?_toJson (selection : Selection) :
    Selection.ofJson? selection.toJson = some selection := by
  cases selection with
  | ids selector =>
    show (idsOfFields? [("id", selector.toJson)] <|> queryOfFields? [("id", selector.toJson)]) = _
    simp [idsOfFields?, Fields.get?_cons, IdSelector.ofJson?_toJson]
  | query text params =>
    cases params <;>
      simp [toJson, ofJson?, Json.ofFields, idsOfFields?, queryOfFields?, Fields.get?_cons,
        Fields.get?_nil, required, defaulted, Value.fields?]

/-! ## Patches -/

/-- An insertion reads back: its anchor stands under its position, and under no other. -/
theorem Insertion.ofJson?_toJson (insertion : Insertion Unit) :
    Insertion.ofJson? insertion.toJson = some insertion := by
  obtain ⟨position, anchor, items⟩ := insertion
  cases position <;>
    simp [toJson, ofJson?, Position.name, Fields.get?_cons, Fields.get?_nil, optional, defaulted,
      firstAnchor]

/-- What is found of a patch under the name of each of its parts. -/
theorem Patch.parts?_toJson (patch : Patch) :
    Json.parts? partNames 1 patch.toJson =
      some [some (.string patch.id), patch.set.map Json.ofFields,
        patch.setIfMissing.map Json.ofFields, patch.unset.map Json.ofTexts,
        patch.inc.map (Json.ofFieldsOf .number), patch.dec.map (Json.ofFieldsOf .number),
        patch.diffMatchPatch.map (Json.ofFieldsOf .string),
        patch.insert.map Insertion.toJson] := by
  simp [toJson, partNames, Fields.get?_cons, Fields.get?_append, get?_groupField]

/-- **A patch reads back**, each of its groups there or not, and in the order written. -/
theorem Patch.ofJson?_toJson (patch : Patch) : Patch.ofJson? patch.toJson = some patch := by
  have fields := optional_map Json.ofFields Value.fields? (fun _ => rfl) (fun _ => nofun)
  have texts := optional_map Json.ofTexts Json.texts? Json.texts?_ofTexts (fun _ => nofun)
  have numbers := optional_map (Json.ofFieldsOf .number) (Json.fieldsOf? Json.number?)
    (Json.fieldsOf?_ofFieldsOf .number Json.number? (fun _ => rfl)) (fun _ => nofun)
  have strings := optional_map (Json.ofFieldsOf .string) (Json.fieldsOf? Value.string?)
    (Json.fieldsOf?_ofFieldsOf .string Value.string? (fun _ => rfl)) (fun _ => nofun)
  have insertion := optional_map Insertion.toJson Insertion.ofJson? Insertion.ofJson?_toJson
    (fun _ => nofun)
  simp [ofJson?, parts?_toJson, fields, texts, numbers, strings, insertion]

/-! ## Batches -/

theorem Mutation.ofJson?_toJson (mutation : Mutation) :
    Mutation.ofJson? mutation.toJson = some mutation := by
  show Mutation.ofContents? mutation.kindName mutation.contents = some mutation
  cases mutation with
  | create doc => exact congrArg (Option.map Mutation.create) doc.ofJson?_toJson
  | createIfNotExists doc =>
    exact congrArg (Option.map Mutation.createIfNotExists) doc.ofJson?_toJson
  | createOrReplace doc =>
    exact congrArg (Option.map Mutation.createOrReplace) doc.ofJson?_toJson
  | delete selection => exact congrArg (Option.map Mutation.delete) selection.ofJson?_toJson
  | patch edits => exact congrArg (Option.map Mutation.patch) edits.ofJson?_toJson

theorem decodeEntries_map (mutations : List Mutation) :
    decodeEntries (mutations.map Mutation.toJson) = (mutations, []) := by
  induction mutations with
  | nil => rfl
  | cons mutation rest ih => simp only [List.map_cons, decodeEntries, ih, mutation.ofJson?_toJson]

/-- **A batch reads back.**  Whatever its mutations are, the list of their JSON values is decoded to
the very same mutations, in their order, with the fields of every object in theirs and every number
in the form that it had; nothing is skipped, so nothing is told. -/
theorem decodeBatch_toJson (mutations : List Mutation) :
    decodeBatch (Json.ofItems (mutations.map Mutation.toJson)) = (mutations, []) :=
  decodeEntries_map mutations

end DocumentStore
