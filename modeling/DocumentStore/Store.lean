import DocumentStore.Config
import DocumentStore.Listener.Registry

/-!
# The store

A store holds one dataset, its listeners and a log of what was asked of it.  A batch is committed
whole or not at all; a committed batch makes a new snapshot, tells the listeners and is logged.

* `Snapshot`, `StoreLog`, `Store` — the state.
* `Store.mutate` — a batch.
* `Store.subscribe`, `Store.fetch` — listening and asking.
* `Store.getDocuments` — documents by id.
-/

set_option autoImplicit false

namespace DocumentStore

/-- The dataset after so many committed batches. -/
structure Snapshot where
  version : Nat
  dataset : Dataset

/-- Whether two snapshots of one store are the very same. -/
def Snapshot.same (a b : Snapshot) : Bool := a.version == b.version

/-- A query that was listened to. -/
structure ListenEntry where
  query : String
  params : Fields Json

/-- A batch that was committed. -/
structure TransactionEntry where
  id : String
  timestamp : String
  mutations : List Mutation

/-- What was asked of a store. -/
structure StoreLog where
  listen : List ListenEntry
  transactions : List TransactionEntry

/-- The answer to a committed batch. -/
structure MutationResult where
  transactionId : String
  results : List Change
  deriving DecidableEq

/-- The ids that a batch changed. -/
def MutationResult.affectedIds (result : MutationResult) : List String :=
  result.results.map Change.id

/-- Why a document asked for is not in the answer. -/
inductive OmitReason where
  | existence
  deriving DecidableEq

/-- A document asked for that is not in the answer. -/
structure Omitted where
  id : String
  reason : OmitReason
  deriving DecidableEq

/-- The answer to asking for documents by id. -/
structure DocumentsResponse where
  documents : List Document
  omitted : List Omitted
  deriving DecidableEq

/-- A dataset, its listeners and a log. -/
structure Store where
  config : Config
  evaluator : Evaluator
  snapshot : Snapshot
  registry : Registry
  log : StoreLog

namespace Store

/-- A store of these documents, and what there is to tell of them. -/
def new (config : Config) (evaluator : Evaluator) (docs : List Document) : Store × List Notice :=
  let (dataset, notices) := Dataset.ofDocuments docs
  (⟨config, evaluator, ⟨0, dataset⟩, .empty, ⟨[], []⟩⟩, notices)

/-- The current dataset. -/
def dataset (store : Store) : Dataset := store.snapshot.dataset

/-- The store after a batch that led to `next` was committed, and what there is to tell. -/
def commit (store : Store) (tx : Transaction) (mutations : List Mutation) (next : Dataset) :
    Store × List Notice :=
  let (registry, notices) :=
    store.registry.notify store.evaluator store.dataset next ⟨tx, store.config.identity, mutations⟩
  ({ store with
      snapshot := ⟨store.snapshot.version + 1, next⟩
      registry := registry
      log := { store.log with
        transactions := store.log.transactions ++ [⟨tx.id, tx.timestamp, mutations⟩] } },
    notices)

/-- A batch, committed whole or not at all. -/
def mutate (store : Store) (tx : Transaction) (mutations : List Mutation) :
    Store × Logged MutationResult :=
  let reduced := store.dataset.reduce tx mutations
  match reduced.result with
  | .error fault => (store, ⟨reduced.notices ++ [.transactionAborted], .error fault⟩)
  | .ok next =>
    let (committed, notices) := store.commit tx mutations next
    (committed, ⟨reduced.notices ++ notices, .ok ⟨tx.id, store.dataset.diff next⟩⟩)

/-- A batch in JSON, read leniently. -/
def mutateJson (store : Store) (tx : Transaction) (batch : Json) :
    Store × Logged MutationResult :=
  let (mutations, skipped) := decodeBatch batch
  let (store, logged) := store.mutate tx mutations
  (store, { logged with notices := skipped ++ logged.notices })

/-- A new listener for a query that can be answered, and its id. -/
def subscribe (store : Store) (name query : String) (params : Fields Json) :
    Store × Except Fault Nat :=
  match store.evaluator query params store.dataset with
  | .error fault => (store, .error fault)
  | .ok _ =>
    ({ store with
        registry := store.registry.register name query params
        log := { store.log with listen := store.log.listen ++ [⟨query, params⟩] } },
      .ok store.registry.nextId)

/-- A store without a listener; its subscription keeps what is queued. -/
def unsubscribe (store : Store) (id : Nat) : Store :=
  { store with registry := store.registry.unregister id }

/-- A store after a subscription was dropped. -/
def dropSubscription (store : Store) (id : Nat) : Store :=
  { store with registry := store.registry.drop id }

/-- The next event queued for a subscription, taken. -/
def tryNext (store : Store) (id : Nat) : Store × Option (ListenEvent Record) :=
  let (registry, event) := store.registry.tryNext id
  ({ store with registry := registry }, event)

/-- All events queued for a subscription, taken. -/
def drain (store : Store) (id : Nat) : Store × List (ListenEvent Record) :=
  let (registry, events) := store.registry.drain id
  ({ store with registry := registry }, events)

/-- What a subscription has to give now. -/
def poll (store : Store) (id : Nat) : Store × Registry.Poll :=
  let (registry, poll) := store.registry.poll id
  ({ store with registry := registry }, poll)

/-- The records that answer a query. -/
def fetch (store : Store) (query : String) (params : Fields Json) : Except Fault (List Record) :=
  store.evaluator query params store.dataset

/-- Documents by id, in the order asked; what is not there is omitted. -/
def getDocuments (store : Store) (ids : List String) : DocumentsResponse :=
  { documents := ids.filterMap (fun id => (store.dataset.get? id).map Record.document)
    omitted := (ids.filter (fun id => !store.dataset.contains id)).map
      (fun id => ⟨id, .existence⟩) }

end Store

end DocumentStore
