import DocumentStore.Proofs.Store.Runs

/-!
# Batches as a whole

A batch is applied in order to a working copy.  When one of its mutations fails, the batch is
aborted with the fault of the first that does, and the store is the very same as before; so batches
that were aborted can be struck from the history of a store, and nobody can tell.

* `Dataset.Applies`, `Dataset.FirstFault` — mutations that succeed in order, and the first that
  fails.
* `Store.Reflects` — what a committed batch leaves.
* `Request`, `Reply`, `Store.transcript` — all that can be asked of a store, and its answers.
* `Store.withoutAborted` — requests without the batches that are aborted.

Principal results: `reduce_eq_ok_iff`, `reduce_eq_error_iff` — what becomes of a batch.
`after_withoutAborted`, `transcript_withoutAborted` — aborted batches leave no trace.
`mutate_atomic` — a batch is committed whole or not at all.
-/

set_option autoImplicit false

namespace DocumentStore

/-! ## Mutations in order -/

namespace Dataset

/-- The mutations succeed one after the other, and lead from the first dataset to the second. -/
inductive Applies (tx : Transaction) : Dataset → List Mutation → Dataset → Prop
  | nil (dataset : Dataset) : Applies tx dataset [] dataset
  | cons {dataset middle next : Dataset} {mutation : Mutation} {rest : List Mutation}
    (first : (dataset.apply tx mutation).result = .ok middle)
    (others : Applies tx middle rest next) : Applies tx dataset (mutation :: rest) next

/-- The mutations before one succeed, and that one fails. -/
def FirstFault (tx : Transaction) (dataset : Dataset) (mutations : List Mutation)
    (fault : Fault) : Prop :=
  ∃ before mutation behind middle, mutations = before ++ mutation :: behind ∧
    Applies tx dataset before middle ∧ (middle.apply tx mutation).result = .error fault

variable {tx : Transaction} {dataset next : Dataset} {mutations : List Mutation} {fault : Fault}

/-- **A batch succeeds when its mutations do**, one after the other. -/
theorem reduce_eq_ok_iff :
    (dataset.reduce tx mutations).result = .ok next ↔ Applies tx dataset mutations next := by
  induction mutations generalizing dataset with
  | nil =>
    constructor
    · intro h
      cases h
      exact .nil _
    · intro h
      cases h
      rfl
  | cons mutation rest ih =>
    constructor
    · intro h
      obtain ⟨middle, first, others⟩ := reduce_cons_ok h
      exact .cons first (ih.mp others)
    · intro h
      cases h with
      | cons first others =>
        rw [reduce, Logged.result_bind, first]
        exact ih.mpr others

theorem firstFault_cons {mutation : Mutation} {rest : List Mutation} :
    FirstFault tx dataset (mutation :: rest) fault ↔
      (dataset.apply tx mutation).result = .error fault ∨
        ∃ middle, (dataset.apply tx mutation).result = .ok middle ∧
          FirstFault tx middle rest fault := by
  constructor
  · rintro ⟨before, failing, behind, middle, hsplit, applies, fails⟩
    cases applies with
    | nil =>
      cases hsplit
      exact .inl fails
    | @cons _ middle' _ first before first_ok others =>
      cases hsplit
      exact .inr ⟨middle', first_ok, before, failing, behind, middle, rfl, others, fails⟩
  · rintro (fails | ⟨middle, first, before, failing, behind, last, rfl, applies, fails⟩)
    · exact ⟨[], mutation, rest, dataset, rfl, .nil dataset, fails⟩
    · exact ⟨mutation :: before, failing, behind, last, rfl, .cons first applies, fails⟩

/-- **A batch fails when one of its mutations does**, with the fault of the first. -/
theorem reduce_eq_error_iff :
    (dataset.reduce tx mutations).result = .error fault ↔
      FirstFault tx dataset mutations fault := by
  induction mutations generalizing dataset with
  | nil =>
    constructor
    · intro h
      cases h
    · rintro ⟨before, mutation, behind, middle, hsplit, -⟩
      cases before <;> cases hsplit
  | cons mutation rest ih =>
    rw [firstFault_cons, reduce, Logged.result_bind]
    cases (dataset.apply tx mutation).result with
    | error cause => simp [Except.bind]
    | ok middle => simp [Except.bind, ih]

end Dataset

/-! ## What a committed batch leaves -/

namespace Store

/-- The store reflects the whole batch: the dataset after it in a new snapshot, the batch behind the
log, and behind the queue of each listener that is held what it hears of the batch.  All else is as
before, but that the listeners that are not held are gone. -/
structure Reflects (tx : Transaction) (mutations : List Mutation) (next : Dataset)
    (before after : Store) : Prop where
  snapshot : after.snapshot = ⟨before.snapshot.version + 1, next⟩
  transactions : after.log.transactions =
    before.log.transactions ++ [⟨tx.id, tx.timestamp, mutations⟩]
  listen : after.log.listen = before.log.listen
  config : after.config = before.config
  evaluator : after.evaluator = before.evaluator
  ends : Registry.SameEnds { before.registry with
    listeners := before.registry.listeners.filter (fun l => before.registry.isHeld l.id) }
    after.registry
  queued : ∀ listener ∈ before.registry.listeners, before.registry.isHeld listener.id = true →
    after.registry.queue listener.id = before.registry.queue listener.id ++
      Registry.heard before.evaluator before.dataset next ⟨tx, before.config.identity, mutations⟩
        listener
  unqueued : ∀ id, id ∉ before.registry.listeners.map Listener.id →
    after.registry.queue id = before.registry.queue id

theorem reflects_commit {store : Store} (sound : store.registry.Sound) (tx : Transaction)
    (mutations : List Mutation) (next : Dataset) :
    Reflects tx mutations next store (store.commit tx mutations next).1 := by
  obtain ⟨-, ends, queued, unqueued⟩ := Registry.notify_queues store.evaluator store.dataset next
    ⟨tx, store.config.identity, mutations⟩ sound
  exact ⟨rfl, rfl, rfl, rfl, rfl, ends, queued, unqueued⟩

/-- **Every call keeps a registry sound**, whatever answers the queries. -/
theorem registry_sound_step {store : Store} (sound : store.registry.Sound) (action : Action) :
    (store.step action).registry.Sound := by
  have batch {tx : Transaction} {mutations : List Mutation}
      (hbatch : action.batch? = some (tx, mutations)) : (store.step action).registry.Sound := by
    rw [step_of_batch hbatch]
    cases hr : (store.dataset.reduce tx mutations).result with
    | error fault => rw [mutate_of_error hr]; exact sound
    | ok next => rw [mutate_of_ok hr]; exact sound.notify _ _ _ _
  cases action with
  | mutate tx mutations => exact batch rfl
  | mutateJson tx json => exact batch rfl
  | subscribe name query params =>
    show (store.subscribe name query params).1.registry.Sound
    unfold subscribe
    split
    · exact sound
    · exact sound.register name query params
  | unsubscribe id => exact sound.unregister id
  | dropSubscription id => exact sound.drop id
  | tryNext id => exact (Registry.sameEnds_tryNext _ id).sound sound
  | poll id => exact (Registry.sameEnds_poll _ id).sound sound
  | drain id => exact (Registry.sameEnds_setQueue _ id []).sound sound

end Store

/-! ## Requests and replies -/

/-- What can be asked of a store: a call, or a question that changes nothing. -/
inductive Request where
  | call (action : Action)
  | fetch (query : String) (params : Fields Json)
  | documents (ids : List String)
  | snapshot
  | log
  | listenerCount

/-- What a store answers. -/
inductive Reply where
  | batch (answer : Logged MutationResult)
  | listener (answer : Except Fault Nat)
  | unregistered (wasRegistered : Bool)
  | dropped
  | event (event : Option (ListenEvent Record))
  | polled (poll : Registry.Poll)
  | events (events : List (ListenEvent Record))
  | records (answer : Except Fault (List Record))
  | documents (response : DocumentsResponse)
  | snapshot (snapshot : Snapshot)
  | log (log : StoreLog)
  | count (listeners : Nat)

/-- Whether a reply tells that a batch was aborted. -/
def Reply.isAborted : Reply → Bool
  | .batch ⟨_, .error _⟩ => true
  | _ => false

theorem isAborted_batch {answer : Logged MutationResult} :
    (Reply.batch answer).isAborted = true ↔ ∃ fault, answer.result = .error fault := by
  obtain ⟨notices, result⟩ := answer
  cases result <;> simp [Reply.isAborted]

namespace Store

/-- The answer to a call. -/
def callReply (store : Store) : Action → Reply
  | .mutate tx mutations => .batch (store.mutate tx mutations).2
  | .mutateJson tx batch => .batch (store.mutateJson tx batch).2
  | .subscribe name query params => .listener (store.subscribe name query params).2
  | .unsubscribe id => .unregistered (store.registry.isRegistered id)
  | .dropSubscription _ => .dropped
  | .tryNext id => .event (store.tryNext id).2
  | .poll id => .polled (store.poll id).2
  | .drain id => .events (store.drain id).2

/-- The answer to a request. -/
def reply (store : Store) : Request → Reply
  | .call action => store.callReply action
  | .fetch query params => .records (store.fetch query params)
  | .documents ids => .documents (store.getDocuments ids)
  | .snapshot => .snapshot store.snapshot
  | .log => .log store.log
  | .listenerCount => .count store.registry.size

/-- The store after a request. -/
def serve (store : Store) : Request → Store
  | .call action => store.step action
  | _ => store

/-- The store after requests, one after the other. -/
def after (store : Store) (requests : List Request) : Store := requests.foldl serve store

/-- The requests, each with its reply. -/
def transcript (store : Store) : List Request → List (Request × Reply)
  | [] => []
  | request :: rest => (request, store.reply request) :: (store.serve request).transcript rest

/-- The requests without the batches that are aborted in their course. -/
def withoutAborted (store : Store) : List Request → List Request
  | [] => []
  | request :: rest =>
    if (store.reply request).isAborted then store.withoutAborted rest
    else request :: (store.serve request).withoutAborted rest

variable {store : Store}

/-- Only a batch that fails is told to be aborted, and it changes nothing. -/
theorem serve_of_aborted {request : Request} (h : (store.reply request).isAborted = true) :
    store.serve request = store := by
  cases request with
  | call action =>
    have batch {tx : Transaction} {mutations : List Mutation}
        (hbatch : action.batch? = some (tx, mutations))
        (fails : ∃ fault, (store.mutate tx mutations).2.result = .error fault) :
        store.step action = store := by
      obtain ⟨fault, fails⟩ := fails
      rw [step_of_batch hbatch]
      cases hr : (store.dataset.reduce tx mutations).result with
      | error cause => rw [mutate_of_error hr]
      | ok next => rw [mutate_of_ok hr] at fails; cases fails
    cases action with
    | mutate tx mutations => exact batch rfl (isAborted_batch.mp h)
    | mutateJson tx json =>
      have fails : ∃ fault, (store.mutateJson tx json).2.result = .error fault :=
        isAborted_batch.mp h
      exact batch rfl fails
    | _ => cases h
  | _ => cases h

/-- **Aborted batches leave no trace in a store.** -/
theorem after_withoutAborted : ∀ (requests : List Request) (store : Store),
    store.after (store.withoutAborted requests) = store.after requests
  | [], _ => rfl
  | request :: rest, store => by
    unfold withoutAborted
    show _ = (store.serve request).after rest
    split
    · rename_i aborted
      rw [serve_of_aborted aborted]
      exact after_withoutAborted rest store
    · exact after_withoutAborted rest (store.serve request)

/-- **Nor do they leave one in what it answers.** -/
theorem transcript_withoutAborted : ∀ (requests : List Request) (store : Store),
    store.transcript (store.withoutAborted requests) =
      (store.transcript requests).filter (fun entry => !entry.2.isAborted)
  | [], _ => rfl
  | request :: rest, store => by
    unfold withoutAborted
    rw [transcript]
    split
    · rename_i aborted
      rw [List.filter_cons_of_neg (by simp [aborted]), serve_of_aborted aborted]
      exact transcript_withoutAborted rest store
    · rename_i kept
      rw [List.filter_cons_of_pos (by simpa using kept), transcript]
      exact congrArg _ (transcript_withoutAborted rest (store.serve request))

theorem registry_sound_after : ∀ (requests : List Request) {store : Store}, store.registry.Sound →
    (store.after requests).registry.Sound
  | [], _, sound => sound
  | request :: rest, store, sound => by
    have served : (store.serve request).registry.Sound := by
      cases request with
      | call action => exact registry_sound_step sound action
      | _ => exact sound
    exact registry_sound_after rest served

/-- **A batch is committed whole or not at all**, in every state that requests lead to, whatever
answers the queries.  When one of its mutations fails in order, the batch fails with the fault of
the first that does and the store is the very same.  Otherwise the mutations lead to a dataset, the
answer lists what changed, and the store reflects the whole batch.  A history without the batches
aborted in it leads to the same store, so every later request is answered in the same way. -/
theorem mutate_atomic (config : Config) (evaluator : Evaluator) (docs : List Document)
    (history : List Request) (tx : Transaction) (mutations : List Mutation) :
    let first := (Store.new config evaluator docs).1
    let store := first.after history
    let answer := store.mutate tx mutations
    (∀ fault, Dataset.FirstFault tx store.dataset mutations fault →
        answer.2.result = .error fault ∧ answer.1 = store) ∧
      ((¬ ∃ fault, Dataset.FirstFault tx store.dataset mutations fault) →
        ∃ next, Dataset.Applies tx store.dataset mutations next ∧
          answer.2.result = .ok ⟨tx.id, store.dataset.diff next⟩ ∧
          Reflects tx mutations next store answer.1) ∧
      first.after (first.withoutAborted history) = store ∧
      first.transcript (first.withoutAborted history) =
        (first.transcript history).filter (fun entry => !entry.2.isAborted) ∧
      ∀ later, (first.after (first.withoutAborted history)).transcript later =
        store.transcript later := by
  intro first store answer
  have sound : store.registry.Sound := registry_sound_after history Registry.empty_sound
  have clean : first.after (first.withoutAborted history) = store :=
    after_withoutAborted history first
  refine ⟨?_, ?_, clean, transcript_withoutAborted history first, fun later => by rw [clean]⟩
  · intro fault fails
    have aborted : answer = _ := mutate_of_error (Dataset.reduce_eq_error_iff.mpr fails)
    rw [aborted]
    exact ⟨rfl, rfl⟩
  · intro none_fails
    cases hr : (store.dataset.reduce tx mutations).result with
    | error fault => exact absurd ⟨fault, Dataset.reduce_eq_error_iff.mp hr⟩ none_fails
    | ok next =>
      have committed : answer = _ := mutate_of_ok hr
      rw [committed]
      exact ⟨next, Dataset.reduce_eq_ok_iff.mp hr, rfl, reflects_commit sound tx mutations next⟩

/-- A fan, running, to be stored. -/
def newFan : Mutation := .create ⟨[("_id", .string "fan"), ("on", .bool true)], "fan", rfl⟩

/-- The record of the fan once a batch has stored it. -/
def runningFan (stamp : Nat) (tx : Transaction) : Record :=
  ⟨stamp, ⟨[("_id", .string "fan"), ("on", .bool true), ("_rev", .string tx.id),
    ("_createdAt", .string tx.timestamp), ("_updatedAt", .string tx.timestamp)], "fan", rfl⟩⟩

/-- A batch that stores the fan and then counts on the switch of the lamp. -/
def brokenBatch : List Mutation :=
  [newFan, .patch ((Patch.empty "lamp").add (.inc "on" (.ofCount 1)))]

/-- The fan is not stored, since the switch of the lamp is no number, and nobody hears of it.  Alone
it is stored, and whoever listens to what is on hears that it appeared. -/
theorem mutate_atomic_lamps :
    let tx : Transaction := ⟨"count", "1"⟩
    let history := [.call (.mutate tx brokenBatch), .call (.subscribe "watch" "*[on]" [])]
    let store := lamps.after history
    (∃ fault, Dataset.FirstFault tx store.dataset brokenBatch fault ∧
        fault.root.message = "type mismatch: expected number, found boolean" ∧
        (store.mutate tx brokenBatch).2.result = .error fault ∧
        (store.mutate tx brokenBatch).1 = store) ∧
      (∃ next, Dataset.Applies tx store.dataset [newFan] next ∧
        (store.mutate tx [newFan]).2.result = .ok ⟨"count", [⟨"fan", .create⟩]⟩ ∧
        Reflects tx [newFan] next store (store.mutate tx [newFan]).1) ∧
      (store.mutate tx [newFan]).1.registry.queue 0 = store.registry.queue 0 ++
        [.mutation
          { eventId := "count#fan"
            documentId := "fan"
            transactionId := "count"
            transition := .appear
            identity := "fake-user"
            mutations := [newFan]
            result := runningFan 1 tx
            previousRev := none
            resultRev := some "count"
            timestamp := "1"
            visibility := "query" }] ∧
      (lamps.withoutAborted history).length = 1 ∧
      lamps.after (lamps.withoutAborted history) = store := by
  intro tx history store
  have first : (Store.new .default Evaluator.filter [lamp true]).1 = lamps := rfl
  have reached : lamps.after history = store := rfl
  have broken := mutate_atomic .default Evaluator.filter [lamp true] history tx brokenBatch
  have whole := mutate_atomic .default Evaluator.filter [lamp true] history tx [newFan]
  simp only [first, reached] at broken whole
  have aborted : (lamps.reply (.call (.mutate tx brokenBatch))).isAborted = true := by
    decide +kernel
  -- All that the history leaves is the listener.
  have watched : store = watchedLamps := by
    show (lamps.serve (.call (.mutate tx brokenBatch))).serve
      (.call (.subscribe "watch" "*[on]" [])) = watchedLamps
    rw [serve_of_aborted aborted]
    rfl
  have reduced : (store.dataset.reduce tx [newFan]).result.toOption.map store.dataset.diff =
      some [⟨"fan", .create⟩] := by
    rw [watched]
    rfl
  obtain ⟨next, applies, answered, reflects⟩ := whole.2.1 (by
    rintro ⟨fault, fails⟩
    rw [Dataset.reduce_eq_error_iff.mpr fails] at reduced
    cases reduced)
  have committed := Dataset.reduce_eq_ok_iff.mpr applies
  refine ⟨?_, ⟨next, applies, ?_, reflects⟩, ?_, by decide +kernel, broken.2.2.1⟩
  · have reason : ((store.dataset.reduce tx brokenBatch).result.mapError
        (fun fault => fault.root.message)).map (fun _ => ()) =
          .error "type mismatch: expected number, found boolean" := by decide +kernel
    cases hr : (store.dataset.reduce tx brokenBatch).result with
    | ok next =>
      rw [hr] at reason
      cases reason
    | error fault =>
      rw [hr] at reason
      have fails := Dataset.reduce_eq_error_iff.mp hr
      exact ⟨fault, fails, Except.error.inj reason, broken.1 fault fails⟩
  · rw [committed] at reduced
    have changes : store.dataset.diff next = [⟨"fan", .create⟩] := Option.some.inj reduced
    rw [changes] at answered
    exact answered
  · rw [watched] at committed reflects ⊢
    cases committed
    exact reflects.queued ⟨0, "watch", "*[on]", []⟩ (.head _) rfl

end Store

end DocumentStore
