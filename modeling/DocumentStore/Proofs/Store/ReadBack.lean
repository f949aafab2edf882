import DocumentStore.Answer
import DocumentStore.Proofs.Mutation.ReadBack

/-!
# What a store tells, written and read back

Events, answers and the log of a store are written as JSON for others, and for whoever replays
them.  All of them are read as the very same values: the records by the names of their fields, a
kind or a transition by its name, an event by its tag, and a revision that is not there as null.

Principal results: `MutationEvent.ofJson?_fields` — the fields of an event read back, when its tag
has been taken from among them.  `told_reads_back` — events, logs and answers read back.
-/

set_option autoImplicit false

namespace DocumentStore

/-! ## Names -/

theorem ChangeKind.ofJson?_name (kind : ChangeKind) :
    ChangeKind.ofJson? (.string kind.name) = some kind := by
  cases kind <;> rfl

theorem OmitReason.ofJson?_name (reason : OmitReason) :
    OmitReason.ofJson? (.string reason.name) = some reason := by
  cases reason; rfl

theorem MutationEvent.transition?_name (transition : Transition) :
    MutationEvent.transition? (.string transition.name) = some transition := by
  cases transition <;> rfl

/-- A text that may be missing is written as null, and read as missing again. -/
theorem optional_ofTextOrNull (text : Option String) :
    optional Value.string? (some (Json.ofTextOrNull text)) = some text := by
  cases text <;> rfl

/-! ## Records of an answer -/

theorem Change.ofJson?_toJson (change : Change) : Change.ofJson? change.toJson = some change := by
  simp [toJson, ofJson?, Fields.get?_cons, ChangeKind.ofJson?_name]

theorem Omitted.ofJson?_toJson (omitted : Omitted) :
    Omitted.ofJson? omitted.toJson = some omitted := by
  simp [toJson, ofJson?, Fields.get?_cons, OmitReason.ofJson?_name]

theorem MutationResult.ofJson?_toJson (result : MutationResult) :
    MutationResult.ofJson? result.toJson = some result := by
  have changes := Json.itemsOf?_map Change.toJson Change.ofJson? Change.ofJson?_toJson
  simp [toJson, ofJson?, Fields.get?_cons, changes]

theorem DocumentsResponse.ofJson?_toJson (response : DocumentsResponse) :
    DocumentsResponse.ofJson? response.toJson = some response := by
  have documents := Json.itemsOf?_map Document.toJson Document.ofJson? Document.ofJson?_toJson
  have omitted := Json.itemsOf?_map Omitted.toJson Omitted.ofJson? Omitted.ofJson?_toJson
  simp [toJson, ofJson?, Fields.get?_cons, documents, omitted]

/-! ## The log -/

theorem itemsOf?_mutations (mutations : List Mutation) :
    Json.itemsOf? Mutation.ofJson? (Json.ofItems (mutations.map Mutation.toJson)) =
      some mutations :=
  Json.itemsOf?_map Mutation.toJson Mutation.ofJson? Mutation.ofJson?_toJson mutations

theorem ListenEntry.ofJson?_toJson (entry : ListenEntry) :
    ListenEntry.ofJson? entry.toJson = some entry := by
  simp [toJson, ofJson?, Fields.get?_cons]

theorem TransactionEntry.ofJson?_toJson (entry : TransactionEntry) :
    TransactionEntry.ofJson? entry.toJson = some entry := by
  simp [toJson, ofJson?, Fields.get?_cons, itemsOf?_mutations]

theorem StoreLog.ofJson?_toJson (log : StoreLog) : StoreLog.ofJson? log.toJson = some log := by
  have listen := Json.itemsOf?_map ListenEntry.toJson ListenEntry.ofJson?
    ListenEntry.ofJson?_toJson
  have transactions := Json.itemsOf?_map TransactionEntry.toJson TransactionEntry.ofJson?
    TransactionEntry.ofJson?_toJson
  simp [toJson, ofJson?, Fields.get?_cons, listen, transactions]

/-! ## Events -/

theorem MutationEvent.ofJson?_fields (event : MutationEvent Document) :
    MutationEvent.ofJson? (Json.ofFields event.fields) = some event := by
  simp [fields, ofJson?, fieldNames, Fields.get?_cons, transition?_name, itemsOf?_mutations,
    Document.ofJson?_toJson, optional_ofTextOrNull]

theorem MutationEvent.erase_type_fields (event : MutationEvent Document) :
    Fields.erase event.fields "type" = event.fields := by
  simp [fields, Fields.erase]

/-- The tag of an event tells its kind, and is taken from among its fields. -/
theorem ListenEvent.ofJson?_ofFields {fields : Fields Json} {tag : String}
    (tagged : Fields.get? fields "type" = some (.string tag)) :
    ListenEvent.ofJson? (Json.ofFields fields) =
      ofContents? tag (Json.ofFields (Fields.erase fields "type")) := by
  simp only [Json.ofFields, ofJson?, tagged]

/-- **An event reads back** as the one of its tag. -/
theorem ListenEvent.ofJson?_toJson (event : ListenEvent Document) :
    ListenEvent.ofJson? event.toJson = some event := by
  cases event with
  | welcome name =>
    rw [toJson, ofJson?_ofFields (by rw [Fields.get?_cons, if_pos rfl])]
    simp [ofContents?, Fields.erase, Fields.get?_cons]
  | mutation event =>
    have tagless : Fields.erase (("type", .string "mutation") :: event.fields) "type" =
        event.fields := event.erase_type_fields
    rw [toJson, ofJson?_ofFields (by rw [Fields.get?_cons, if_pos rfl]), tagless]
    simp [ofContents?, event.ofJson?_fields]

/-- **What a store tells reads back.**  Every event, log and answer is read from its JSON value as the
very same one, with the documents and mutations in it, the order of their fields and the forms of
their numbers. -/
theorem told_reads_back :
    (∀ event : ListenEvent Document, ListenEvent.ofJson? event.toJson = some event) ∧
      (∀ log : StoreLog, StoreLog.ofJson? log.toJson = some log) ∧
      (∀ result : MutationResult, MutationResult.ofJson? result.toJson = some result) ∧
      ∀ response : DocumentsResponse, DocumentsResponse.ofJson? response.toJson = some response :=
  ⟨ListenEvent.ofJson?_toJson, StoreLog.ofJson?_toJson, MutationResult.ofJson?_toJson,
    DocumentsResponse.ofJson?_toJson⟩

end DocumentStore
