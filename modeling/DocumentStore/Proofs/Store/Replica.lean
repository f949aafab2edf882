import DocumentStore.Proofs.Store.Streams

/-!
# Replicas

A listener can keep the result of its query without asking again: it starts from one answer and
writes down the record of every event.  Nothing is told of a document that leaves the result, so a
replica keeps records that are no longer there or no longer match; it is right about every document
that does.

* `Replica`, `Replica.after` — records by id, and what events make of them.
* `Replica.Covers` — the invariant: the records of a dataset that a query accepts.

Principal results: `Covers.commit` — the events due for one batch keep the invariant.
`replica_current` — at the end of every run a replica covers the dataset: it has the very record of
the store for each document that the query accepts.
-/

set_option autoImplicit false

namespace DocumentStore

/-- Records by id. -/
abbrev Replica := String → Option Record

namespace Replica

/-- The record of an event, written down under the id of its document. -/
def write (replica : Replica) : ListenEvent Record → Replica
  | .welcome _ => replica
  | .mutation event => fun id => if id = event.documentId then some event.result else replica id

/-- A replica after events, in order. -/
def after (replica : Replica) (events : List (ListenEvent Record)) : Replica :=
  events.foldl write replica

/-- A replica that has every record of a dataset that a query accepts.  It may have others. -/
def Covers (query : Query) (dataset : Dataset) (replica : Replica) : Prop :=
  ∀ id record, dataset.accepted? query id = some record → replica id = some record

/-! ## The events of one batch -/

variable {query : Query} {previous current : Dataset} {batch : BatchContext} {replica : Replica}
  {id : String} {record : Record}

theorem write_dueEvent {change : Change} {event : ListenEvent Record}
    (accepted : current.accepted? query id = some record)
    (due : dueEvent? query previous current batch change = some event) :
    replica.write event id = if change.id = id then some record else replica id := by
  unfold dueEvent? at due
  split at due
  · cases due
  all_goals
    obtain ⟨written, hwritten, rfl⟩ := Option.map_eq_some_iff.mp due
    have hget := (Option.filter_eq_some_iff.mp hwritten).1
    have hid : written.id = change.id := (mem_of_findRecord hget).2
    show (if id = written.id then some written else replica id) = _
    rw [hid]
    by_cases h : change.id = id
    · subst h
      rw [accepted, Option.some.injEq] at hwritten
      rw [if_pos rfl, if_pos rfl, hwritten]
    · rw [if_neg (Ne.symm h), if_neg h]

/-- No event that is due overwrites a current record with another. -/
theorem after_due_of_current (accepted : current.accepted? query id = some record) :
    ∀ (changes : List Change) {replica : Replica}, replica id = some record →
      replica.after (changes.filterMap (dueEvent? query previous current batch)) id = some record
  | [], _, has => has
  | change :: rest, replica, has => by
    rw [List.filterMap_cons]
    cases due : dueEvent? query previous current batch change with
    | none => exact after_due_of_current accepted rest has
    | some event =>
      show (replica.write event).after _ id = some record
      refine after_due_of_current accepted rest ?_
      rw [write_dueEvent accepted due, has, ite_self]

/-- An entry that creates or updates a document brings its record into the replica, whatever was
under its id before. -/
theorem after_due_of_mem (accepted : current.accepted? query id = some record) {kind : ChangeKind}
    (hkind : kind ≠ .delete) :
    ∀ (changes : List Change) {replica : Replica}, ⟨id, kind⟩ ∈ changes →
      replica.after (changes.filterMap (dueEvent? query previous current batch)) id = some record
  | change :: rest, replica, member => by
    rw [List.filterMap_cons]
    rcases List.mem_cons.mp member with rfl | later
    · have due : dueEvent? query previous current batch ⟨id, kind⟩ =
          some (writtenEvent batch (previous.accepted? query id) record) := by
        cases kind with
        | delete => exact absurd rfl hkind
        | create | update => simp only [dueEvent?, accepted, Option.map_some]
      rw [due]
      show (replica.write _).after _ id = some record
      refine after_due_of_current accepted rest ?_
      rw [write_dueEvent accepted due, if_pos rfl]
    · cases dueEvent? query previous current batch change with
      | none => exact after_due_of_mem accepted hkind rest later
      | some event => exact after_due_of_mem accepted hkind rest later

/-- **The events due for a batch keep a replica right about every document that matches.**  A
record that was there before was accepted before; any other has its entry in the answer. -/
theorem Covers.commit (covers : Covers query previous replica) (sound : previous.Sound)
    (written : previous.WrittenBy batch.transaction current) :
    Covers query current (replica.after
      ((previous.diff current).filterMap (dueEvent? query previous current batch))) := by
  intro id record accepted
  obtain ⟨hget, haccepts⟩ := Option.filter_eq_some_iff.mp accepted
  obtain ⟨member, rfl⟩ := mem_of_findRecord hget
  by_cases h : previous.get? record.id = some record
  · refine after_due_of_current accepted _ (covers record.id record ?_)
    rw [Dataset.accepted?, h, Option.filter_some, if_pos haccepts]
  · obtain ⟨kind, hkind, hchange⟩ := changeOf?_changed sound written member h
    exact after_due_of_mem accepted hkind _
      (List.mem_append_left _ (List.mem_filterMap.mpr ⟨record, member, hchange⟩))

end Replica

namespace Store

variable {store : Store} {query : Query} {replica : Replica}

/-! ## Runs -/

theorem covers_step (sound : store.Sound) (covers : replica.Covers query store.dataset)
    (action : Action) :
    (replica.after ((store.committed? action).toList.flatMap (Commit.due query))).Covers query
      (store.step action).dataset := by
  cases hc : store.committed? action with
  | none =>
    rw [(step_uncommitted hc).1]
    exact covers
  | some commit =>
    rw [(step_committed hc).1, Option.toList_some, List.flatMap_singleton]
    obtain ⟨tx, mutations, next, _, reduced, _, rfl⟩ := committed?_eq_some hc
    exact covers.commit sound.dataset_sound (Dataset.reduce_writtenBy reduced)

theorem covers_run : ∀ (actions : List Action) {store : Store} {replica : Replica}, store.Sound →
    replica.Covers query store.dataset →
    (replica.after ((store.commits actions).flatMap (Commit.due query))).Covers query
      (store.run actions).dataset
  | [], _, _, _, covers => covers
  | action :: rest, store, replica, sound, covers => by
    rw [commits, List.flatMap_append, Replica.after, List.foldl_append]
    exact covers_run rest (sound.step action) (covers_step sound covers action)

/-- The answer to a query is right about itself. -/
theorem covers_fetch (sound : store.Sound) {text : String} {params : Fields Json}
    (read : Query.ofText params text = .ok query) :
    ∃ records, store.fetch text params = .ok records ∧
      Replica.Covers query store.dataset (findRecord records) ∧
      ∀ record ∈ records, store.dataset.accepted? query record.id = some record := by
  have answered : store.fetch text params = .ok (store.dataset.records.filter
      (fun record => query.accepts record.document.toJson)) := by
    rw [fetch, sound.evaluator_eq]
    exact filter_eq_ok_iff.mpr ⟨query, read, rfl⟩
  refine ⟨_, answered, fun id record accepted => ?_, fun record member => ?_⟩
  · rw [← accepted?_eq sound.dataset_sound]
    exact accepted
  · obtain ⟨hr, haccepts⟩ := List.mem_filter.mp member
    rw [accepted?_of_mem sound.dataset_sound hr, if_pos haccepts]

/-- **A replica has the current record of every document that matches.**  It starts from the answer
to the query at the time of the subscription and writes down the record of every event of the
stream, taken or still queued.  Then, for every document of the dataset that the query accepts now,
it has the very record of the store; and these are the records that the query is answered with. -/
theorem replica_current {opened subscribed : Store} {id : Nat} {name text : String}
    {params : Fields Json} {actions : List Action} (reachable : opened.Reachable)
    (accepted : opened.subscribe name text params = (subscribed, .ok id))
    (held : .dropSubscription id ∉ actions) (registered : .unsubscribe id ∉ actions) :
    let last := subscribed.run actions
    ∃ query fetched, Query.ofText params text = .ok query ∧
      opened.fetch text params = .ok fetched ∧ subscribed.fetch text params = .ok fetched ∧
      Replica.Covers query last.dataset
        (Replica.after (findRecord fetched) (subscribed.stream id actions)) ∧
      ∃ records, last.fetch text params = .ok records ∧
        ∀ record, record ∈ records ↔ last.dataset.accepted? query record.id = some record := by
  have opened_sound := reachable_sound reachable
  obtain ⟨sound, _, _, _, query, read⟩ := subscribe_spec opened_sound accepted
  obtain ⟨_, _, _, snapshot, _, evaluator⟩ := subscribe_ok_inv accepted
  obtain ⟨fetched, hfetched, covers, _⟩ := covers_fetch sound read
  have unasked : opened.fetch text params = subscribed.fetch text params := by
    rw [fetch, fetch, dataset, dataset, snapshot, evaluator]
  have told : subscribed.stream id actions =
      .welcome name :: (subscribed.commits actions).flatMap (Commit.due query) := by
    rw [stream_subscribed opened_sound accepted read held, Action.takeWhile_registered registered]
  refine ⟨query, fetched, read, unasked.trans hfetched, hfetched, ?_, ?_⟩
  · -- The welcome writes nothing, and the batches keep what the first answer covers.
    rw [told]
    exact covers_run actions sound covers
  · obtain ⟨records, hrecords, current, accepts⟩ := covers_fetch (Sound.run actions sound) read
    exact ⟨records, hrecords, fun record =>
      ⟨accepts record, fun h => (mem_of_findRecord (current record.id record h)).1⟩⟩

/-- The lamp leaves the result, which is not told, and comes back: the replica still has the record
it started from when the lamp is off, and the one that the store has now at the end. -/
theorem replica_current_lamps :
    let calls := [.mutate ⟨"off", "1"⟩ [.createOrReplace (lamp false)], .drain 0,
      .mutate ⟨"on", "2"⟩ [.createOrReplace (lamp true)]]
    let off := watchedLamps.run (calls.take 2)
    let last := watchedLamps.run calls
    ∃ query fetched, Query.ofText [] "*[on]" = .ok query ∧
      lamps.fetch "*[on]" [] = .ok fetched ∧
      off.dataset.accepted? query "lamp" = none ∧
      Replica.after (findRecord fetched) (watchedLamps.stream 0 (calls.take 2)) "lamp" =
        some ⟨0, lamp true⟩ ∧
      last.dataset.accepted? query "lamp" = some (litLamp 2 ⟨"on", "2"⟩) ∧
      Replica.after (findRecord fetched) (watchedLamps.stream 0 calls) "lamp" =
        some (litLamp 2 ⟨"on", "2"⟩) := by
  intro calls off last
  obtain ⟨query, fetched, read, answered, -, covers, -⟩ :=
    replica_current lamps_reachable lamps_subscribe
      (show .dropSubscription 0 ∉ calls by simp [calls]) (by simp [calls])
  have current : last.dataset.accepted? query "lamp" = some (litLamp 2 ⟨"on", "2"⟩) := by
    cases read
    rfl
  refine ⟨query, fetched, read, answered, ?_, ?_, current, covers "lamp" _ current⟩
  · cases read
    rfl
  · cases answered
    rfl

end Store

end DocumentStore
