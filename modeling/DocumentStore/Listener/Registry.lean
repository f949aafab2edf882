import DocumentStore.Listener.Event
import DocumentStore.Query.Evaluator

/-!
# Listeners

A registry knows listeners and, for each subscription still held, the events queued for it.  A
dropped subscription leaves its listener registered until the next notification; an unregistered
listener leaves the queue of its subscription.

* `Listener`, `Subscription`, `Registry` — the two ends of each queue.
* `Registry.register`, `Registry.unregister`, `Registry.drop` — how they come and go.
* `Registry.notify` — the events of one batch.
* `Registry.tryNext`, `Registry.drain`, `Registry.poll` — taking events.
-/

set_option autoImplicit false

namespace DocumentStore

/-- The number of characters in the name of a listener. -/
def listenerNameLength : Nat := 22

/-- Someone who is told of changes in the result of a query. -/
structure Listener where
  id : Nat
  name : String
  query : String
  params : Fields Json

/-- The receiving end of a listener: the events queued and not yet taken. -/
structure Subscription where
  id : Nat
  queue : List (ListenEvent Record)

/-- The listeners registered and the subscriptions held. -/
structure Registry where
  /-- The id of the next listener.  A counter of 64 bits gives the same ids while fewer than `2 ^ 64`
  listeners were ever registered. -/
  nextId : Nat
  listeners : List Listener
  subscriptions : List Subscription

/-- What a notification says of the batch besides the two datasets. -/
structure BatchContext where
  transaction : Transaction
  identity : String
  mutations : List Mutation

/-- The records of `current`, in order, that are not in `previous` as they are, each with its
predecessor.  That is the first record of `previous` under the id.  A look-up that keeps the last
one gives the same as long as no id is there twice; an evaluator has to answer with records of the
dataset, whose ids are distinct, so only one that does not can tell the two apart. -/
def changedRecords (previous current : List Record) : List (Option Record × Record) :=
  current.filterMap (fun record =>
    match findRecord previous record.id with
    | none => some (none, record)
    | some old => if old.same record then none else some (some old, record))

/-- The event of one changed record. -/
def mutationEvent (batch : BatchContext) (previous : Option Record) (record : Record) :
    ListenEvent Record :=
  .mutation
    { eventId := batch.transaction.id ++ "#" ++ record.id
      documentId := record.id
      transactionId := batch.transaction.id
      transition := if previous.isSome then .update else .appear
      identity := batch.identity
      mutations := batch.mutations
      result := record
      previousRev := previous.bind (fun old => old.document.rev?)
      resultRev := record.document.rev?
      timestamp := batch.transaction.timestamp
      visibility := "query" }

namespace Listener

/-- The events of a batch for a listener. -/
def events (evaluate : Evaluator) (previous current : Dataset) (batch : BatchContext)
    (listener : Listener) : Except Fault (List (ListenEvent Record)) := do
  let before ← evaluate listener.query listener.params previous
  let after ← evaluate listener.query listener.params current
  .ok ((changedRecords before after).map (fun (old, record) => mutationEvent batch old record))

end Listener

namespace Registry

/-- The registry without listeners. -/
def empty : Registry := ⟨0, [], []⟩

/-- The number of listeners registered. -/
def size (registry : Registry) : Nat := registry.listeners.length

/-- Whether the subscription of a listener is still held. -/
def isHeld (registry : Registry) (id : Nat) : Bool :=
  registry.subscriptions.any (fun subscription => subscription.id == id)

/-- The queue of a subscription; empty when it is not held. -/
def queue (registry : Registry) (id : Nat) : List (ListenEvent Record) :=
  match registry.subscriptions.find? (fun subscription => subscription.id == id) with
  | some subscription => subscription.queue
  | none => []

/-- A registry with the queue of a subscription replaced. -/
def setQueue (registry : Registry) (id : Nat) (queue : List (ListenEvent Record)) : Registry :=
  { registry with
    subscriptions := registry.subscriptions.map (fun subscription =>
      if subscription.id = id then { subscription with queue := queue } else subscription) }

/-- A new listener, which is welcomed at once.  Its id is the next one. -/
def register (registry : Registry) (name query : String) (params : Fields Json) : Registry :=
  { nextId := registry.nextId + 1
    listeners := registry.listeners ++ [⟨registry.nextId, name, query, params⟩]
    subscriptions := registry.subscriptions ++ [⟨registry.nextId, [.welcome name]⟩] }

/-- A registry without a listener; its subscription keeps what is queued. -/
def unregister (registry : Registry) (id : Nat) : Registry :=
  { registry with listeners := registry.listeners.filter (fun listener => listener.id != id) }

/-- Whether unregistering an id takes a listener away. -/
def removes (registry : Registry) (id : Nat) : Bool :=
  (registry.unregister id).size != registry.size

/-- Whether a listener is registered. -/
def isRegistered (registry : Registry) (id : Nat) : Bool :=
  registry.listeners.any (fun listener => listener.id == id)

/-- A registry after a subscription was dropped. -/
def drop (registry : Registry) (id : Nat) : Registry :=
  { registry with
    subscriptions := registry.subscriptions.filter (fun subscription => subscription.id != id) }

/-- The events of one listener queued; a listener whose query fails is skipped. -/
def notifyOne (evaluate : Evaluator) (previous current : Dataset) (batch : BatchContext)
    (told : Registry × List Notice) (listener : Listener) : Registry × List Notice :=
  match listener.events evaluate previous current batch with
  | .ok events =>
    (told.1.setQueue listener.id (told.1.queue listener.id ++ events), told.2)
  | .error _ => (told.1, told.2 ++ [.listenerSkipped])

/-- The events of a batch queued for every listener whose subscription is held.  The others are
removed.

Nothing is dropped in the course of a notification, so a subscription that is held at its beginning
receives every event sent to it.  A listener whose subscription is not held is passed over before
its query is asked and leaves neither an event nor a notice, so it may be removed first, as here, or
after the others were told. -/
def notify (registry : Registry) (evaluate : Evaluator) (previous current : Dataset)
    (batch : BatchContext) : Registry × List Notice :=
  let held := registry.listeners.filter (fun listener => registry.isHeld listener.id)
  held.foldl (notifyOne evaluate previous current batch) ({ registry with listeners := held }, [])

/-- The next event queued, taken. -/
def tryNext (registry : Registry) (id : Nat) : Registry × Option (ListenEvent Record) :=
  match registry.queue id with
  | event :: rest => (registry.setQueue id rest, some event)
  | [] => (registry, none)

/-- All events queued, taken. -/
def drain (registry : Registry) (id : Nat) : Registry × List (ListenEvent Record) :=
  (registry.setQueue id [], registry.queue id)

/-- What a subscription has to give now. -/
inductive Poll where
  | event (event : ListenEvent Record)
  /-- The queue is empty and the listener is gone. -/
  | ended
  /-- The queue is empty and more may come. -/
  | pending

/-- The next event, if there is one, and whether more may come if there is none. -/
def poll (registry : Registry) (id : Nat) : Registry × Poll :=
  match registry.tryNext id with
  | (registry, some event) => (registry, .event event)
  | (registry, none) => (registry, if registry.isRegistered id then .pending else .ended)

end Registry

end DocumentStore
