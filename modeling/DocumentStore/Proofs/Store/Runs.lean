import DocumentStore.Store
import DocumentStore.Proofs.Dataset.Notices
import DocumentStore.Proofs.Listener.DueEvents
import DocumentStore.Proofs.Listener.Queues

/-!
# Runs of a store

A run is any list of calls that change a store or take events from it; questions change nothing
and stand for no call.  Subscribing, mutating and taking follow one another in any order.

* `Action`, `Store.step`, `Store.run` — calls, and the store after them.
* `Commit`, `Store.commits` — the batches that a run commits, in order.
* `Store.taken` — the events that a run takes from a subscription, in order.
* `Store.Reachable`, `Store.Sound` — the states of a store with the built-in evaluator, and what
  all of them have in common.
* `Store.lamps`, `Store.watchedLamps` — a small store to try things on.

Principal results: `reachable_sound` — every reachable store is sound.  `commit_told` — a committed
batch queues for each listener what it is due, and skips none.
-/

set_option autoImplicit false

namespace DocumentStore

/-- A call that changes a store or takes events from it. -/
inductive Action where
  | mutate (tx : Transaction) (mutations : List Mutation)
  | mutateJson (tx : Transaction) (batch : Json)
  | subscribe (name query : String) (params : Fields Json)
  | unsubscribe (id : Nat)
  | dropSubscription (id : Nat)
  | tryNext (id : Nat)
  | poll (id : Nat)
  | drain (id : Nat)

/-- The batch that a call asks for. -/
def Action.batch? : Action → Option (Transaction × List Mutation)
  | .mutate tx mutations => some (tx, mutations)
  | .mutateJson tx batch => some (tx, (decodeBatch batch).1)
  | _ => none

/-- A batch that was committed: what was asked, the datasets before and after, and the answer. -/
structure Commit where
  batch : BatchContext
  previous : Dataset
  current : Dataset
  changes : List Change

/-- What a listener of a query is due for a committed batch. -/
def Commit.due (query : Query) (commit : Commit) : List (ListenEvent Record) :=
  commit.changes.filterMap (dueEvent? query commit.previous commit.current commit.batch)

namespace Store

/-- The store after one call. -/
def step (store : Store) : Action → Store
  | .mutate tx mutations => (store.mutate tx mutations).1
  | .mutateJson tx batch => (store.mutateJson tx batch).1
  | .subscribe name query params => (store.subscribe name query params).1
  | .unsubscribe id => store.unsubscribe id
  | .dropSubscription id => store.dropSubscription id
  | .tryNext id => (store.tryNext id).1
  | .poll id => (store.poll id).1
  | .drain id => (store.drain id).1

/-- The store after calls, one after the other. -/
def run (store : Store) (actions : List Action) : Store := actions.foldl step store

/-- The batch that a call commits. -/
def committed? (store : Store) (action : Action) : Option Commit :=
  match action.batch? with
  | none => none
  | some (tx, mutations) =>
    match store.mutate tx mutations with
    | (next, ⟨_, .ok result⟩) =>
      some ⟨⟨tx, store.config.identity, mutations⟩, store.dataset, next.dataset, result.results⟩
    | (_, ⟨_, .error _⟩) => none

/-- The batches that calls commit, in order. -/
def commits (store : Store) : List Action → List Commit
  | [] => []
  | action :: rest => (store.committed? action).toList ++ (store.step action).commits rest

/-- The events that a call takes from a subscription. -/
def takenAt (store : Store) (id : Nat) : Action → List (ListenEvent Record)
  | .tryNext target => if target = id then (store.tryNext target).2.toList else []
  | .poll target => if target = id then (store.poll target).2.event?.toList else []
  | .drain target => if target = id then (store.drain target).2 else []
  | _ => []

/-- The events that calls take from a subscription, in order. -/
def taken (store : Store) (id : Nat) : List Action → List (ListenEvent Record)
  | [] => []
  | action :: rest => store.takenAt id action ++ (store.step action).taken id rest

/-- What calls make of some new store with the built-in evaluator. -/
def Reachable (store : Store) : Prop :=
  ∃ (config : Config) (docs : List Document) (actions : List Action),
    store = (Store.new config Evaluator.filter docs).1.run actions

/-! ## Batches -/

variable {store : Store} {tx : Transaction} {mutations : List Mutation}

theorem mutate_of_ok {next : Dataset} (h : (store.dataset.reduce tx mutations).result = .ok next) :
    store.mutate tx mutations =
      ((store.commit tx mutations next).1,
        ⟨(store.dataset.reduce tx mutations).notices ++ (store.commit tx mutations next).2,
          .ok ⟨tx.id, store.dataset.diff next⟩⟩) := by
  simp only [mutate, h]

theorem mutate_of_error {fault : Fault}
    (h : (store.dataset.reduce tx mutations).result = .error fault) :
    store.mutate tx mutations =
      (store, ⟨(store.dataset.reduce tx mutations).notices ++ [.transactionAborted],
        .error fault⟩) := by
  simp only [mutate, h]

theorem mutate_ok_inv {result : MutationResult}
    (h : (store.mutate tx mutations).2.result = .ok result) :
    ∃ next, (store.dataset.reduce tx mutations).result = .ok next ∧
      result = ⟨tx.id, store.dataset.diff next⟩ := by
  cases hr : (store.dataset.reduce tx mutations).result with
  | error fault => rw [mutate_of_error hr] at h; cases h
  | ok next => rw [mutate_of_ok hr] at h; cases h; exact ⟨next, rfl, rfl⟩

theorem step_of_batch {action : Action} (h : action.batch? = some (tx, mutations)) :
    store.step action = (store.mutate tx mutations).1 := by
  cases action <;> cases h <;> rfl

theorem committed?_eq_some {action : Action} {commit : Commit}
    (h : store.committed? action = some commit) :
    ∃ tx mutations next, action.batch? = some (tx, mutations) ∧
      (store.dataset.reduce tx mutations).result = .ok next ∧
      store.step action = (store.commit tx mutations next).1 ∧
      commit = ⟨⟨tx, store.config.identity, mutations⟩, store.dataset, next,
        store.dataset.diff next⟩ := by
  unfold committed? at h
  split at h
  · cases h
  rename_i tx mutations hbatch
  cases hr : (store.dataset.reduce tx mutations).result with
  | error fault => rw [mutate_of_error hr] at h; cases h
  | ok next =>
    rw [mutate_of_ok hr] at h
    cases h
    exact ⟨tx, mutations, next, hbatch, hr, by rw [step_of_batch hbatch, mutate_of_ok hr], rfl⟩

theorem step_of_not_committed {action : Action} (h : store.committed? action = none)
    (hbatch : action.batch? = some (tx, mutations)) : store.step action = store := by
  rw [step_of_batch hbatch]
  cases hr : (store.dataset.reduce tx mutations).result with
  | error fault => rw [mutate_of_error hr]
  | ok next => simp [committed?, hbatch, mutate_of_ok hr] at h

theorem step_uncommitted {action : Action} (h : store.committed? action = none) :
    (store.step action).dataset = store.dataset ∧ (store.step action).config = store.config ∧
      (store.step action).log.transactions = store.log.transactions := by
  cases hb : action.batch? with
  | some batch => rw [step_of_not_committed h hb]; exact ⟨rfl, rfl, rfl⟩
  | none =>
    cases action with
    | mutate _ _ => cases hb
    | mutateJson _ _ => cases hb
    | subscribe name query params =>
      simp only [step, subscribe]
      split <;> exact ⟨rfl, rfl, rfl⟩
    | unsubscribe _ => exact ⟨rfl, rfl, rfl⟩
    | dropSubscription _ => exact ⟨rfl, rfl, rfl⟩
    | tryNext _ => exact ⟨rfl, rfl, rfl⟩
    | poll _ => exact ⟨rfl, rfl, rfl⟩
    | drain _ => exact ⟨rfl, rfl, rfl⟩

theorem step_committed {action : Action} {commit : Commit}
    (h : store.committed? action = some commit) :
    (store.step action).dataset = commit.current ∧ (store.step action).config = store.config := by
  obtain ⟨tx, mutations, next, _, _, hstep, rfl⟩ := committed?_eq_some h
  rw [hstep]
  exact ⟨rfl, rfl⟩

/-! ## What commits depend on -/

/-- What a call commits depends on the dataset and the settings alone. -/
theorem committed?_congr {other : Store} (hd : store.dataset = other.dataset)
    (hc : store.config = other.config) (action : Action) :
    store.committed? action = other.committed? action := by
  unfold committed?
  cases action.batch? with
  | none => rfl
  | some batch =>
    obtain ⟨tx, mutations⟩ := batch
    cases hr : (store.dataset.reduce tx mutations).result with
    | error fault => simp only [mutate_of_error hr, mutate_of_error (hd ▸ hr)]
    | ok next =>
      simp only [mutate_of_ok hr, mutate_of_ok (hd ▸ hr), hd, hc]
      rfl

theorem step_congr {other : Store} (hd : store.dataset = other.dataset)
    (hc : store.config = other.config) (action : Action) :
    (store.step action).dataset = (other.step action).dataset ∧
      (store.step action).config = (other.step action).config := by
  have hcommit := committed?_congr hd hc action
  cases h : store.committed? action with
  | none =>
    rw [h] at hcommit
    obtain ⟨hd₁, hc₁, _⟩ := step_uncommitted h
    obtain ⟨hd₂, hc₂, _⟩ := step_uncommitted hcommit.symm
    exact ⟨by rw [hd₁, hd₂, hd], by rw [hc₁, hc₂, hc]⟩
  | some commit =>
    rw [h] at hcommit
    obtain ⟨hd₁, hc₁⟩ := step_committed h
    obtain ⟨hd₂, hc₂⟩ := step_committed hcommit.symm
    exact ⟨by rw [hd₁, hd₂], by rw [hc₁, hc₂, hc]⟩

/-- **The commits of a run depend on its batches alone.** -/
theorem commits_filter :
    ∀ (actions : List Action) {store other : Store}, store.dataset = other.dataset →
      store.config = other.config →
      store.commits actions = other.commits (actions.filter (fun a => a.batch?.isSome))
  | [], _, _, _, _ => rfl
  | action :: rest, store, other, hd, hc => by
    cases hb : action.batch? with
    | none =>
      have hnone : store.committed? action = none := by simp [committed?, hb]
      obtain ⟨hd', hc', _⟩ := step_uncommitted hnone
      rw [commits, hnone, List.filter_cons_of_neg (by simp [hb])]
      exact commits_filter rest (hd'.trans hd) (hc'.trans hc)
    | some batch =>
      obtain ⟨hd', hc'⟩ := step_congr hd hc action
      rw [List.filter_cons_of_pos (by simp [hb]), commits, commits, committed?_congr hd hc action,
        commits_filter rest hd' hc']

/-! ## Subscriptions -/

theorem subscribe_ok_inv {name query : String} {params : Fields Json} {next : Store} {id : Nat}
    (h : store.subscribe name query params = (next, .ok id)) :
    (∃ records, store.evaluator query params store.dataset = .ok records) ∧
      id = store.registry.nextId ∧ next.registry = store.registry.register name query params ∧
      next.snapshot = store.snapshot ∧ next.config = store.config ∧
      next.evaluator = store.evaluator := by
  unfold subscribe at h
  split at h
  · cases h
  · rename_i records hanswer
    cases h
    exact ⟨⟨records, hanswer⟩, rfl, rfl, rfl, rfl, rfl⟩

theorem subscribe_error_inv {name query : String} {params : Fields Json} {next : Store}
    {fault : Fault} (h : store.subscribe name query params = (next, .error fault)) :
    next = store := by
  unfold subscribe at h
  split at h
  · cases h; rfl
  · cases h

/-! ## Sound stores -/

/-- The built-in evaluator, a sound dataset, a sound registry, and queries that can be read. -/
structure Sound (store : Store) : Prop where
  evaluator_eq : store.evaluator = Evaluator.filter
  dataset_sound : store.dataset.Sound
  registry_sound : store.registry.Sound
  readable : ∀ listener ∈ store.registry.listeners,
    ∃ query, Query.ofText listener.params listener.query = .ok query

/-- **A committed batch queues for each listener what it is due**, removes the listeners that are
not held, and tells nothing. -/
theorem commit_told {next : Dataset} (sound : store.Sound)
    (h : (store.dataset.reduce tx mutations).result = .ok next) :
    let told := store.commit tx mutations next
    told.2 = [] ∧
      Registry.SameEnds { store.registry with
        listeners := store.registry.listeners.filter (fun l => store.registry.isHeld l.id) }
        told.1.registry ∧
      (∀ listener ∈ store.registry.listeners, store.registry.isHeld listener.id = true →
        told.1.registry.queue listener.id = store.registry.queue listener.id ++
          listener.due store.dataset next ⟨tx, store.config.identity, mutations⟩) ∧
      ∀ id, id ∉ store.registry.listeners.map Listener.id →
        told.1.registry.queue id = store.registry.queue id := by
  refine Registry.notify_spec sound.registry_sound
    (Listener.due store.dataset next ⟨tx, store.config.identity, mutations⟩)
    (fun listener hl => ?_)
  obtain ⟨query, read⟩ := sound.readable listener hl
  rw [sound.evaluator_eq]
  exact events_filter read sound.dataset_sound (Dataset.reduce_sound sound.dataset_sound h)
    (Dataset.reduce_writtenBy h)

theorem Sound.commit {next : Dataset} (sound : store.Sound)
    (h : (store.dataset.reduce tx mutations).result = .ok next) :
    (store.commit tx mutations next).1.Sound := by
  obtain ⟨_, ends, _, _⟩ := commit_told sound h
  refine ⟨sound.evaluator_eq, Dataset.reduce_sound sound.dataset_sound h,
    ends.sound sound.registry_sound.onlyHeld, ?_⟩
  intro listener hl
  rw [ends.listeners_eq] at hl
  exact sound.readable listener (List.mem_filter.mp hl).1

theorem Sound.subscribe (sound : store.Sound) (name query : String) (params : Fields Json) :
    (store.subscribe name query params).1.Sound := by
  cases hs : store.subscribe name query params with
  | mk next answer =>
    cases answer with
    | error fault => rw [subscribe_error_inv hs]; exact sound
    | ok id =>
      obtain ⟨⟨records, hanswer⟩, _, hreg, hsnap, _, heval⟩ := subscribe_ok_inv hs
      rw [sound.evaluator_eq] at hanswer
      obtain ⟨parsed, read, _⟩ := filter_eq_ok_iff.mp hanswer
      refine ⟨heval.trans sound.evaluator_eq, ?_, ?_, ?_⟩
      · rw [dataset, hsnap]; exact sound.dataset_sound
      · rw [hreg]; exact sound.registry_sound.register name query params
      · rw [hreg]
        intro listener hl
        rcases List.mem_append.mp hl with hl | hl
        · exact sound.readable listener hl
        · rw [List.mem_singleton.mp hl]; exact ⟨parsed, read⟩

theorem Sound.of_sameEnds (sound : store.Sound) {registry : Registry}
    (ends : Registry.SameEnds store.registry registry) :
    { store with registry := registry }.Sound :=
  ⟨sound.evaluator_eq, sound.dataset_sound, ends.sound sound.registry_sound, by
    rw [ends.listeners_eq]; exact sound.readable⟩

/-- **Every call leaves a sound store sound.** -/
theorem Sound.step (sound : store.Sound) (action : Action) : (store.step action).Sound := by
  have batch {tx : Transaction} {mutations : List Mutation}
      (hbatch : action.batch? = some (tx, mutations)) : (store.step action).Sound := by
    rw [step_of_batch hbatch]
    cases hr : (store.dataset.reduce tx mutations).result with
    | error fault => rw [mutate_of_error hr]; exact sound
    | ok next => rw [mutate_of_ok hr]; exact sound.commit hr
  cases action with
  | mutate tx mutations => exact batch rfl
  | mutateJson tx json => exact batch rfl
  | subscribe name query params => exact sound.subscribe name query params
  | unsubscribe id =>
    exact ⟨sound.evaluator_eq, sound.dataset_sound, sound.registry_sound.unregister id,
      fun listener hl => sound.readable listener (Registry.mem_unregister.mp hl).1⟩
  | dropSubscription id =>
    exact ⟨sound.evaluator_eq, sound.dataset_sound, sound.registry_sound.drop id, sound.readable⟩
  | tryNext id => exact sound.of_sameEnds (Registry.sameEnds_tryNext _ id)
  | poll id => exact sound.of_sameEnds (Registry.sameEnds_poll _ id)
  | drain id => exact sound.of_sameEnds (Registry.sameEnds_setQueue _ id [])

theorem Sound.run : ∀ (actions : List Action) {store : Store}, store.Sound →
    (store.run actions).Sound
  | [], _, sound => sound
  | action :: rest, _, sound => Sound.run rest (sound.step action)

/-- **Every reachable store is sound.** -/
theorem reachable_sound (h : store.Reachable) : store.Sound := by
  obtain ⟨config, docs, actions, rfl⟩ := h
  exact Sound.run actions ⟨rfl, Dataset.ofDocuments_sound docs, Registry.empty_sound,
    fun _ hl => by cases hl⟩

/-! ## A small store -/

/-- A lamp that is on or off. -/
def lamp (on : Bool) : Document := ⟨[("_id", .string "lamp"), ("on", .bool on)], "lamp", rfl⟩

/-- The record of the lamp as a batch stores it switched on. -/
def litLamp (stamp : Nat) (tx : Transaction) : Record :=
  ⟨stamp, ⟨[("_id", .string "lamp"), ("on", .bool true), ("_rev", .string tx.id),
    ("_createdAt", .string tx.timestamp), ("_updatedAt", .string tx.timestamp)], "lamp", rfl⟩⟩

/-- A store with one lamp, which is on. -/
def lamps : Store := (Store.new .default Evaluator.filter [lamp true]).1

/-- The store after someone listened to the lamps that are on. -/
def watchedLamps : Store := (lamps.subscribe "watch" "*[on]" []).1

theorem lamps_reachable : lamps.Reachable := ⟨.default, [lamp true], [], rfl⟩

theorem lamps_subscribe : lamps.subscribe "watch" "*[on]" [] = (watchedLamps, .ok 0) := rfl

end Store

end DocumentStore
