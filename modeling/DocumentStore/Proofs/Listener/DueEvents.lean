import Mathlib.Data.List.Basic
import DocumentStore.Listener.Registry
import DocumentStore.Proofs.Dataset.Writes

/-!
# The events that a listener is due

What a listener hears of a batch is said here without its two results: entry by entry of the
answer to the batch, from the records under the id of the entry before and after.

* `Dataset.accepted?` — the record under an id, if a query accepts it.
* `dueEvent?` — the event that one entry of the answer is due.

Principal result: `changedRecords_accepted` — comparing the two results of a query record by record
gives the events due, one for each entry, in the order of the answer.  `events_filter` — hence a
listener of the built-in evaluator whose query can be read is never skipped.
-/

set_option autoImplicit false

namespace DocumentStore

/-- The record under an id, when a query accepts its document. -/
def Dataset.accepted? (dataset : Dataset) (query : Query) (id : String) : Option Record :=
  (dataset.get? id).filter (fun record => query.accepts record.document.toJson)

/-- The event of a written record, given its predecessor in the result of the query. -/
def writtenEvent (batch : BatchContext) (previous : Option Record) (record : Record) :
    ListenEvent Record :=
  .mutation
    { eventId := batch.transaction.id ++ "#" ++ record.id
      documentId := record.id
      transactionId := batch.transaction.id
      transition := match previous with
        | some _ => .update
        | none => .appear
      identity := batch.identity
      mutations := batch.mutations
      result := record
      previousRev := match previous with
        | some old => old.document.rev?
        | none => none
      resultRev := some batch.transaction.id
      timestamp := batch.transaction.timestamp
      visibility := "query" }

/-- The event that one entry of the answer to a batch is due: none for a deletion, and none when
the query does not accept the new document. -/
def dueEvent? (query : Query) (previous current : Dataset) (batch : BatchContext)
    (change : Change) : Option (ListenEvent Record) :=
  match change.kind with
  | .delete => none
  | .create | .update =>
    (current.accepted? query change.id).map
      (writtenEvent batch (previous.accepted? query change.id))

/-! ## Results of the built-in evaluator -/

theorem filter_eq_ok_iff {text : String} {params : Fields Json} {dataset : Dataset}
    {records : List Record} :
    Evaluator.filter text params dataset = .ok records ↔
      ∃ query, Query.ofText params text = .ok query ∧
        records = dataset.records.filter (fun record => query.accepts record.document.toJson) := by
  unfold Evaluator.filter
  cases Query.ofText params text with
  | error fault => simp [bind, Except.bind]
  | ok query =>
    simp only [bind, Except.bind, Except.ok.injEq, exists_eq_left']
    exact eq_comm

theorem accepted?_eq {dataset : Dataset} (sound : dataset.Sound) (query : Query) (id : String) :
    dataset.accepted? query id =
      findRecord (dataset.records.filter (fun record => query.accepts record.document.toJson)) id :=
  (findRecord_filter sound.ids_nodup _ id).symm

theorem accepted?_of_mem {dataset : Dataset} (sound : dataset.Sound) {query : Query}
    {record : Record} (member : record ∈ dataset.records) :
    dataset.accepted? query record.id =
      if query.accepts record.document.toJson then some record else none := by
  rw [Dataset.accepted?, Dataset.get?_of_mem sound.ids_nodup member, Option.filter_some]

/-! ## Both comparisons give the same events -/

variable {tx : Transaction} {previous current : Dataset} {batch : BatchContext}

theorem dueEvent?_of_mem (sound : current.Sound) {query : Query} {record : Record}
    (member : record ∈ current.records) {kind : ChangeKind} (hkind : kind ≠ .delete) :
    dueEvent? query previous current batch ⟨record.id, kind⟩ =
      if query.accepts record.document.toJson then
        some (writtenEvent batch (previous.accepted? query record.id) record)
      else none := by
  cases kind with
  | delete => exact absurd rfl hkind
  | create | update =>
    simp only [dueEvent?, accepted?_of_mem sound member]
    split <;> rfl

/-- A record that carries the transaction has the event that is due for it. -/
theorem mutationEvent_eq_writtenEvent {record : Record}
    (stamped : record.document.rev? = some batch.transaction.id) (old : Option Record) :
    mutationEvent batch old record = writtenEvent batch old record := by
  unfold mutationEvent writtenEvent
  rw [stamped]
  cases old <;> rfl

/-- What the comparison of two results says of a record, given what the first has under its id. -/
def comparedEvent? (batch : BatchContext) (old : Option Record) (record : Record) :
    Option (ListenEvent Record) :=
  (match old with
    | none => some (none, record)
    | some old => if old.same record then none else some (some old, record)).map
    (fun change : Option Record × Record => mutationEvent batch change.1 change.2)

/-- **One record, compared in two results of a query or in two datasets, gives the same event.** -/
theorem comparedEvent?_eq (query : Query) (sound : previous.Sound) (sound' : current.Sound)
    (written : previous.WrittenBy batch.transaction current) {record : Record}
    (member : record ∈ current.records) :
    (if query.accepts record.document.toJson then
      comparedEvent? batch (previous.accepted? query record.id) record else none) =
    (changeOf? previous record).bind (dueEvent? query previous current batch) := by
  by_cases h : previous.get? record.id = some record
  · -- The record is its own predecessor, so both results have it or neither has.
    rw [changeOf?_unchanged h, Option.bind_none]
    split
    · rename_i haccepts
      have hold : previous.accepted? query record.id = some record := by
        rw [Dataset.accepted?, h, Option.filter_some, if_pos haccepts]
      simp [comparedEvent?, hold, Record.same]
    · rfl
  · obtain ⟨kind, hkind, hchange⟩ := changeOf?_changed sound written member h
    rw [hchange, Option.bind_some, dueEvent?_of_mem sound' member hkind]
    congr 1
    rw [← mutationEvent_eq_writtenEvent (rev?_of_changed sound written member h)]
    cases hold : previous.accepted? query record.id with
    | none => rfl
    | some old =>
      have hget := (Option.filter_eq_some_iff.mp hold).1
      simp only [comparedEvent?]
      rw [if_neg (fun hsame => h (get?_of_same sound written member hget hsame)), Option.map_some]

theorem filterMap_deletions (query : Query) (records : List Record) :
    (records.map (fun record => (⟨record.id, .delete⟩ : Change))).filterMap
      (dueEvent? query previous current batch) = [] := by
  rw [List.filterMap_map, List.filterMap_eq_nil_iff]
  exact fun _ _ => rfl

/-- **The records that changed between two results of a query give the events due for the changes
between the datasets, in the same order.** -/
theorem changedRecords_accepted (query : Query) (sound : previous.Sound) (sound' : current.Sound)
    (written : previous.WrittenBy batch.transaction current) :
    (changedRecords
      (previous.records.filter (fun record => query.accepts record.document.toJson))
      (current.records.filter (fun record => query.accepts record.document.toJson))).map
        (fun change => mutationEvent batch change.1 change.2) =
    (previous.diff current).filterMap (dueEvent? query previous current batch) := by
  rw [Dataset.diff, List.filterMap_append, filterMap_deletions, List.append_nil, changedRecords,
    List.map_filterMap, List.filterMap_filter, List.filterMap_filterMap]
  refine List.filterMap_congr (fun record member => ?_)
  rw [← comparedEvent?_eq query sound sound' written member, accepted?_eq sound]
  rfl

/-- What a listener is due for a batch; one whose query cannot be read is due nothing. -/
def Listener.due (previous current : Dataset) (batch : BatchContext) (listener : Listener) :
    List (ListenEvent Record) :=
  match Query.ofText listener.params listener.query with
  | .ok query => (previous.diff current).filterMap (dueEvent? query previous current batch)
  | .error _ => []

theorem Listener.due_of_read (listener : Listener) {query : Query}
    (read : Query.ofText listener.params listener.query = .ok query) :
    listener.due previous current batch =
      (previous.diff current).filterMap (dueEvent? query previous current batch) := by
  rw [due, read]

/-- **A listener whose query can be read is never skipped, and hears what it is due.** -/
theorem events_filter {listener : Listener} {query : Query}
    (read : Query.ofText listener.params listener.query = .ok query) (sound : previous.Sound)
    (sound' : current.Sound) (written : previous.WrittenBy batch.transaction current) :
    listener.events Evaluator.filter previous current batch =
      .ok (listener.due previous current batch) := by
  have answered (dataset : Dataset) :
      Evaluator.filter listener.query listener.params dataset =
        .ok (dataset.records.filter (fun record => query.accepts record.document.toJson)) :=
    filter_eq_ok_iff.mpr ⟨query, read, rfl⟩
  rw [Listener.events, answered, answered, listener.due_of_read read]
  exact congrArg Except.ok (changedRecords_accepted query sound sound' written)

end DocumentStore
