import DocumentStore.Dataset
import DocumentStore.Json.Record

/-!
# Events

A listener is told once that it is registered, and then of every document that entered its result
or changed in it.  An event is generic in what it carries of the document: the record itself while
it waits, the document when it is written.

* `Transition`, `MutationEvent`, `ListenEvent` — what a listener is told.
* `ListenEvent.toJson`, `ListenEvent.ofJson?` — an event in JSON, tagged by `type`.
-/

set_option autoImplicit false

namespace DocumentStore

/-- Whether a document was in the result before. -/
inductive Transition where
  /-- It was, and changed. -/
  | update
  /-- It was not. -/
  | appear
  deriving DecidableEq

/-- The name of a transition. -/
def Transition.name : Transition → String
  | .update => "update"
  | .appear => "appear"

/-- The transition of a name. -/
def Transition.ofName? (name : String) : Option Transition :=
  if name = "update" then some .update
  else if name = "appear" then some .appear
  else none

/-- A document that a batch brought into a result or changed in it. -/
structure MutationEvent (R : Type) where
  eventId : String
  documentId : String
  transactionId : String
  transition : Transition
  identity : String
  mutations : List Mutation
  result : R
  previousRev : Option String
  resultRev : Option String
  timestamp : String
  visibility : String

/-- What a listener is told. -/
inductive ListenEvent (R : Type) where
  | welcome (listenerName : String)
  | mutation (event : MutationEvent R)

/-- An event with what it carries changed. -/
def ListenEvent.map {R S : Type} (f : R → S) : ListenEvent R → ListenEvent S
  | .welcome name => .welcome name
  | .mutation event => .mutation { event with result := f event.result }

/-- A text or null. -/
def Json.ofTextOrNull : Option String → Json
  | some text => .string text
  | none => .null

namespace MutationEvent

/-- The fields of an event. -/
def fields (event : MutationEvent Document) : Fields Json :=
  [("eventId", .string event.eventId),
    ("documentId", .string event.documentId),
    ("transactionId", .string event.transactionId),
    ("transition", .string event.transition.name),
    ("identity", .string event.identity),
    ("mutations", Json.ofItems (event.mutations.map Mutation.toJson)),
    ("result", event.result.toJson),
    ("previousRev", Json.ofTextOrNull event.previousRev),
    ("resultRev", Json.ofTextOrNull event.resultRev),
    ("timestamp", .string event.timestamp),
    ("visibility", .string event.visibility)]

/-- The names of the fields. -/
def fieldNames : List String :=
  ["eventId", "documentId", "transactionId", "transition", "identity", "mutations", "result",
    "previousRev", "resultRev", "timestamp", "visibility"]

/-- The transition that a value writes: its name, or an object of its name and nothing. -/
def transition? : Json → Option Transition
  | .object _ [(name, .object _ [])] => Transition.ofName? name
  | value => (Json.variantName? value).bind Transition.ofName?

/-- The event that a value writes. -/
def ofJson? (value : Json) : Option (MutationEvent Document) :=
  match Json.parts? fieldNames 11 value with
  | some [eventId, documentId, transactionId, transition, identity, mutations, result,
      previousRev, resultRev, timestamp, visibility] => do
    let eventId ← required Value.string? eventId
    let documentId ← required Value.string? documentId
    let transactionId ← required Value.string? transactionId
    let transition ← required transition? transition
    let identity ← required Value.string? identity
    let mutations ← required (Json.itemsOf? Mutation.ofJson?) mutations
    let result ← required Document.ofJson? result
    let previousRev ← optional Value.string? previousRev
    let resultRev ← optional Value.string? resultRev
    let timestamp ← required Value.string? timestamp
    let visibility ← required Value.string? visibility
    some ⟨eventId, documentId, transactionId, transition, identity, mutations, result,
      previousRev, resultRev, timestamp, visibility⟩
  | _ => none

end MutationEvent

namespace ListenEvent

/-- An event as JSON: its tag, then its fields. -/
def toJson : ListenEvent Document → Json
  | .welcome name => Json.ofFields [("type", .string "welcome"), ("listenerName", .string name)]
  | .mutation event => Json.ofFields (("type", .string "mutation") :: event.fields)

/-- The event of a tag with these contents. -/
def ofContents? (tag : String) (contents : Json) : Option (ListenEvent Document) :=
  if tag = "welcome" then
    match Json.parts? ["listenerName"] 1 contents with
    | some [name] => (required Value.string? name).map .welcome
    | _ => none
  else if tag = "mutation" then (MutationEvent.ofJson? contents).map .mutation
  else none

/-- The event that a value writes: an object with its tag among the fields, or an array that
starts with its tag. -/
def ofJson? : Json → Option (ListenEvent Document)
  | .object _ fields =>
    match Fields.get? fields "type" with
    | some (.string tag) => ofContents? tag (Json.ofFields (Fields.erase fields "type"))
    | _ => none
  | .array _ (.string tag :: contents) => ofContents? tag (Json.ofItems contents)
  | _ => none

end ListenEvent

end DocumentStore
