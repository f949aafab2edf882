import DocumentStore.Store

/-!
# Answers in JSON

The answers and the log of a store as JSON, and read back.
-/

set_option autoImplicit false

namespace DocumentStore

namespace ChangeKind

/-- What happened, by name. -/
def ofName? (name : String) : Option ChangeKind :=
  if name = "create" then some .create
  else if name = "update" then some .update
  else if name = "delete" then some .delete
  else none

/-- What a value says happened. -/
def ofJson? (value : Json) : Option ChangeKind := (Json.variantName? value).bind ofName?

end ChangeKind

namespace Change

/-- A change as JSON. -/
def toJson (change : Change) : Json :=
  Json.ofFields [("id", .string change.id), ("operation", .string change.kind.name)]

/-- The change that a value writes. -/
def ofJson? (value : Json) : Option Change :=
  match Json.parts? ["id", "operation"] 2 value with
  | some [id, operation] => do
    let id ← required Value.string? id
    let kind ← required ChangeKind.ofJson? operation
    some ⟨id, kind⟩
  | _ => none

end Change

namespace MutationResult

/-- The answer to a batch as JSON. -/
def toJson (result : MutationResult) : Json :=
  Json.ofFields [("transactionId", .string result.transactionId),
    ("results", Json.ofItems (result.results.map Change.toJson))]

/-- The answer that a value writes. -/
def ofJson? (value : Json) : Option MutationResult :=
  match Json.parts? ["transactionId", "results"] 2 value with
  | some [transactionId, results] => do
    let transactionId ← required Value.string? transactionId
    let results ← required (Json.itemsOf? Change.ofJson?) results
    some ⟨transactionId, results⟩
  | _ => none

end MutationResult

/-- The name of a reason. -/
def OmitReason.name : OmitReason → String
  | .existence => "existence"

/-- The reason that a value names. -/
def OmitReason.ofJson? (value : Json) : Option OmitReason :=
  (Json.variantName? value).bind (fun name => if name = "existence" then some .existence else none)

namespace Omitted

/-- An omission as JSON. -/
def toJson (omitted : Omitted) : Json :=
  Json.ofFields [("id", .string omitted.id), ("reason", .string omitted.reason.name)]

/-- The omission that a value writes. -/
def ofJson? (value : Json) : Option Omitted :=
  match Json.parts? ["id", "reason"] 2 value with
  | some [id, reason] => do
    let id ← required Value.string? id
    let reason ← required OmitReason.ofJson? reason
    some ⟨id, reason⟩
  | _ => none

end Omitted

namespace DocumentsResponse

/-- An answer with documents as JSON. -/
def toJson (response : DocumentsResponse) : Json :=
  Json.ofFields [("documents", Json.ofItems (response.documents.map Document.toJson)),
    ("omitted", Json.ofItems (response.omitted.map Omitted.toJson))]

/-- The answer that a value writes. -/
def ofJson? (value : Json) : Option DocumentsResponse :=
  match Json.parts? ["documents", "omitted"] 2 value with
  | some [documents, omitted] => do
    let documents ← required (Json.itemsOf? Document.ofJson?) documents
    let omitted ← required (Json.itemsOf? Omitted.ofJson?) omitted
    some ⟨documents, omitted⟩
  | _ => none

end DocumentsResponse

namespace ListenEntry

/-- A query listened to as JSON. -/
def toJson (entry : ListenEntry) : Json :=
  Json.ofFields [("query", .string entry.query), ("params", Json.ofFields entry.params)]

/-- The entry that a value writes. -/
def ofJson? (value : Json) : Option ListenEntry :=
  match Json.parts? ["query", "params"] 2 value with
  | some [query, params] => do
    let query ← required Value.string? query
    let params ← required Value.fields? params
    some ⟨query, params⟩
  | _ => none

end ListenEntry

namespace TransactionEntry

/-- A committed batch as JSON. -/
def toJson (entry : TransactionEntry) : Json :=
  Json.ofFields [("id", .string entry.id), ("timestamp", .string entry.timestamp),
    ("mutations", Json.ofItems (entry.mutations.map Mutation.toJson))]

/-- The entry that a value writes. -/
def ofJson? (value : Json) : Option TransactionEntry :=
  match Json.parts? ["id", "timestamp", "mutations"] 3 value with
  | some [id, timestamp, mutations] => do
    let id ← required Value.string? id
    let timestamp ← required Value.string? timestamp
    let mutations ← required (Json.itemsOf? Mutation.ofJson?) mutations
    some ⟨id, timestamp, mutations⟩
  | _ => none

end TransactionEntry

namespace StoreLog

/-- A log as JSON. -/
def toJson (log : StoreLog) : Json :=
  Json.ofFields [("listen", Json.ofItems (log.listen.map ListenEntry.toJson)),
    ("transactions", Json.ofItems (log.transactions.map TransactionEntry.toJson))]

/-- The log that a value writes. -/
def ofJson? (value : Json) : Option StoreLog :=
  match Json.parts? ["listen", "transactions"] 2 value with
  | some [listen, transactions] => do
    let listen ← required (Json.itemsOf? ListenEntry.ofJson?) listen
    let transactions ← required (Json.itemsOf? TransactionEntry.ofJson?) transactions
    some ⟨listen, transactions⟩
  | _ => none

end StoreLog

end DocumentStore
