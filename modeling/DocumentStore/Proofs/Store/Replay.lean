import DocumentStore.Proofs.Store.Runs

/-!
# Replaying the log

The log of a store keeps of each committed batch what its reduction depends on: the transaction and
the mutations.  Aborted batches, listeners and questions leave no transaction in it.

* `Commit.entry` — the entry of a committed batch.
* `Dataset.replay` — the batches of a log, one after the other, each of which must succeed.

Principal results: `log_run` — the log of a run lists its commits.  `replay_log` — replaying the log
of a store from its first dataset succeeds and gives its current one.
-/

set_option autoImplicit false

namespace DocumentStore

/-- The entry of a committed batch in the log. -/
def Commit.entry (commit : Commit) : TransactionEntry :=
  ⟨commit.batch.transaction.id, commit.batch.transaction.timestamp, commit.batch.mutations⟩

/-- A dataset after the batches of a log, up to the first that fails. -/
def Dataset.replay (dataset : Dataset) (entries : List TransactionEntry) :
    Except Fault Dataset :=
  entries.foldlM (fun current entry =>
    (current.reduce ⟨entry.id, entry.timestamp⟩ entry.mutations).result) dataset

theorem Dataset.replay_append {start middle : Dataset} {entries : List TransactionEntry}
    (h : start.replay entries = .ok middle) (more : List TransactionEntry) :
    start.replay (entries ++ more) = middle.replay more := by
  unfold replay at h ⊢
  rw [List.foldlM_append, h]
  rfl

namespace Store

variable {store : Store}

/-- A call logs the batch that it commits, and no other. -/
theorem log_step (store : Store) (action : Action) :
    (store.step action).log.transactions =
      store.log.transactions ++ (store.committed? action).toList.map Commit.entry := by
  cases hc : store.committed? action with
  | none =>
    rw [(step_uncommitted hc).2.2]
    exact (List.append_nil _).symm
  | some commit =>
    obtain ⟨tx, mutations, next, _, _, hstep, rfl⟩ := committed?_eq_some hc
    rw [hstep]
    rfl

/-- **The log of a run lists the batches that it commits, in order.** -/
theorem log_run : ∀ (actions : List Action) (store : Store),
    (store.run actions).log.transactions =
      store.log.transactions ++ (store.commits actions).map Commit.entry
  | [], _ => (List.append_nil _).symm
  | action :: rest, store => by
    rw [commits, List.map_append, ← List.append_assoc, ← log_step]
    exact log_run rest (store.step action)

theorem replay_step (store : Store) (action : Action) :
    store.dataset.replay ((store.committed? action).toList.map Commit.entry) =
      .ok (store.step action).dataset := by
  cases hc : store.committed? action with
  | none =>
    rw [(step_uncommitted hc).1]
    rfl
  | some commit =>
    obtain ⟨tx, mutations, next, _, reduced, _, rfl⟩ := committed?_eq_some hc
    rw [(step_committed hc).1]
    show (store.dataset.reduce tx mutations).result >>= _ = _
    rw [reduced]
    rfl

theorem replay_commits : ∀ (actions : List Action) (store : Store),
    store.dataset.replay ((store.commits actions).map Commit.entry) =
      .ok (store.run actions).dataset
  | [], _ => rfl
  | action :: rest, store => by
    rw [commits, List.map_append, Dataset.replay_append (replay_step store action)]
    exact replay_commits rest (store.step action)

/-- **Replaying the log of a store gives its dataset**, whatever its evaluator and whatever was
asked of it.  The log lists the committed batches in order; each of them succeeds again from the
dataset of the ones before, and the last leaves the documents of the store in their order. -/
theorem replay_log (config : Config) (evaluator : Evaluator) (docs : List Document)
    (actions : List Action) :
    let start := (Store.new config evaluator docs).1
    let last := start.run actions
    last.log.transactions = (start.commits actions).map Commit.entry ∧
      (Dataset.ofDocuments docs).1.replay last.log.transactions = .ok last.dataset := by
  intro start last
  have hlog : last.log.transactions = (start.commits actions).map Commit.entry :=
    log_run actions start
  refine ⟨hlog, ?_⟩
  rw [hlog]
  exact replay_commits actions start

end Store

end DocumentStore
