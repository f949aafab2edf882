import Mathlib.Data.List.TakeWhile
import DocumentStore.Proofs.Store.Runs

/-!
# Streams of subscriptions

The stream of a subscription is what was taken from it followed by what is still queued.  It is
determined by the batches committed while its listener is registered: no taking, no other
subscription and no failed batch leaves a trace in it.

* `Store.stream` — the events taken from a subscription, and those still queued.
* `Store.RegistryEffect` — what one call can do to the registry of a sound store.
* `Action.unsubscribes`, `Action.bearsOn` — the calls that a stream depends on.

Principal results: `step_effect` — every call has one of the effects.  `stream_eq` — the stream of a
held subscription grows by what it is due, up to its unsubscription.  `batch_events` — what one
batch queues for a listener of a reachable store.  `subscription_stream` — the whole stream of a
subscription of a reachable store.
-/

set_option autoImplicit false

namespace DocumentStore

/-- Whether a call takes a listener from the registry. -/
def Action.unsubscribes (id : Nat) : Action → Bool
  | .unsubscribe target => target == id
  | _ => false

/-- Whether the stream of a subscription depends on a call: on batches and its unsubscription. -/
def Action.bearsOn (id : Nat) (action : Action) : Bool :=
  action.batch?.isSome || action.unsubscribes id

theorem Action.unsubscribes_iff {id : Nat} {action : Action} :
    action.unsubscribes id = true ↔ action = .unsubscribe id := by
  cases action <;> simp [unsubscribes]

theorem Action.takeWhile_registered {id : Nat} {actions : List Action}
    (registered : .unsubscribe id ∉ actions) :
    actions.takeWhile (fun a => !a.unsubscribes id) = actions := by
  refine List.takeWhile_eq_self_iff.mpr (fun action ha => ?_)
  rw [Bool.not_eq_true', ← Bool.not_eq_true, unsubscribes_iff]
  exact fun h => registered (h ▸ ha)

namespace Store

variable {store : Store} {id : Nat} {action : Action}

/-- The events taken from a subscription in a run, and those still queued at its end. -/
def stream (store : Store) (id : Nat) (actions : List Action) : List (ListenEvent Record) :=
  store.taken id actions ++ (store.run actions).registry.queue id

theorem stream_cons (action : Action) (rest : List Action) :
    store.stream id (action :: rest) =
      store.takenAt id action ++ (store.step action).stream id rest :=
  List.append_assoc _ _ _

/-! ## One call -/

/-- What one call can do to the registry: tell the listeners of a committed batch, register,
unregister or drop, or take from queues what it gives. -/
inductive RegistryEffect (store : Store) : Action → Registry → Prop where
  | told {action : Action} {commit : Commit} {registry : Registry}
      (committed : store.committed? action = some commit)
      (untaken : ∀ id, store.takenAt id action = [])
      (ends : Registry.SameEnds { store.registry with
        listeners := store.registry.listeners.filter (fun l => store.registry.isHeld l.id) }
        registry)
      (queues : ∀ listener ∈ store.registry.listeners,
        store.registry.isHeld listener.id = true →
          ∀ query, Query.ofText listener.params listener.query = .ok query →
            registry.queue listener.id =
              store.registry.queue listener.id ++ commit.due query)
      (others : ∀ id, id ∉ store.registry.listeners.map Listener.id →
        registry.queue id = store.registry.queue id) :
      RegistryEffect store action registry
  | registered (name query : String) (params : Fields Json) :
      RegistryEffect store (.subscribe name query params)
        (store.registry.register name query params)
  | unregistered (target : Nat) :
      RegistryEffect store (.unsubscribe target) (store.registry.unregister target)
  | dropped (target : Nat) :
      RegistryEffect store (.dropSubscription target) (store.registry.drop target)
  | taken {action : Action} {registry : Registry} (uncommitted : store.committed? action = none)
      (ends : Registry.SameEnds store.registry registry)
      (queues : ∀ id, store.takenAt id action ++ registry.queue id = store.registry.queue id) :
      RegistryEffect store action registry

theorem takenAt_queues {target : Nat} {registry : Registry} {given : List (ListenEvent Record)}
    (self : given ++ registry.queue target = store.registry.queue target)
    (others : ∀ id, id ≠ target → registry.queue id = store.registry.queue id) (id : Nat) :
    (if target = id then given else []) ++ registry.queue id = store.registry.queue id := by
  split
  · rename_i h; subst h; exact self
  · rename_i h; rw [List.nil_append, others id (Ne.symm h)]

theorem batch_effect (sound : store.Sound) {tx : Transaction} {mutations : List Mutation}
    (hbatch : action.batch? = some (tx, mutations)) :
    RegistryEffect store action (store.step action).registry := by
  have untaken (id : Nat) : store.takenAt id action = [] := by
    cases action <;> first | rfl | cases hbatch
  cases hc : store.committed? action with
  | none =>
    rw [step_of_not_committed hc hbatch]
    exact .taken hc (.refl _) (fun id => by rw [untaken id, List.nil_append])
  | some commit =>
    obtain ⟨tx, mutations, next, _, hr, hstep, rfl⟩ := committed?_eq_some hc
    obtain ⟨_, ends, queues, others⟩ := commit_told sound hr
    rw [hstep]
    refine .told hc untaken ends (fun listener hl held query read => ?_) others
    rw [queues listener hl held, listener.due_of_read read]
    rfl

/-- **Every call on a sound store has one of the effects.** -/
theorem step_effect (sound : store.Sound) (action : Action) :
    RegistryEffect store action (store.step action).registry := by
  cases action with
  | mutate tx mutations => exact batch_effect sound rfl
  | mutateJson tx batch => exact batch_effect sound rfl
  | subscribe name query params =>
    cases hs : store.subscribe name query params with
    | mk next answer =>
      rw [show (store.step (.subscribe name query params)) = next from congrArg Prod.fst hs]
      cases answer with
      | error fault =>
        rw [subscribe_error_inv hs]
        exact .taken rfl (.refl _) (fun _ => rfl)
      | ok new =>
        obtain ⟨_, _, hreg, _⟩ := subscribe_ok_inv hs
        rw [hreg]
        exact .registered name query params
  | unsubscribe target => exact .unregistered target
  | dropSubscription target => exact .dropped target
  | tryNext target =>
    exact .taken rfl (Registry.sameEnds_tryNext _ target) (takenAt_queues
      (Registry.tryNext_append_queue store.registry target)
      (fun _ h => Registry.queue_tryNext_ne h))
  | poll target =>
    exact .taken rfl (Registry.sameEnds_poll _ target) (takenAt_queues
      (Registry.poll_append_queue store.registry target)
      (fun _ h => Registry.queue_poll_ne h))
  | drain target =>
    exact .taken rfl (Registry.sameEnds_setQueue _ target []) (takenAt_queues
      (Registry.drain_append_queue store.registry target)
      (fun _ h => Registry.queue_setQueue_ne h []))

theorem held_step (sound : store.Sound) (held : store.registry.isHeld id = true)
    (kept : action ≠ .dropSubscription id) :
    (store.step action).registry.isHeld id = true := by
  have effect := step_effect sound action
  generalize (store.step action).registry = registry at effect
  cases effect with
  | told _ _ ends _ _ => rw [ends.held_eq]; exact held
  | registered name query params => rw [Registry.isHeld_register, held, Bool.true_or]
  | unregistered target => exact held
  | dropped target =>
    rw [Registry.isHeld_drop, held, Bool.true_and, bne_iff_ne]
    exact fun h => kept (h ▸ rfl)
  | taken _ ends _ => rw [ends.held_eq]; exact held

theorem registered_step (sound : store.Sound) {listener : Listener}
    (member : listener ∈ store.registry.listeners)
    (held : store.registry.isHeld listener.id = true)
    (kept : action ≠ .unsubscribe listener.id) :
    listener ∈ (store.step action).registry.listeners := by
  have effect := step_effect sound action
  generalize (store.step action).registry = registry at effect
  cases effect with
  | told _ _ ends _ _ => rw [ends.listeners_eq]; exact List.mem_filter.mpr ⟨member, held⟩
  | registered name query params => exact List.mem_append_left _ member
  | unregistered target =>
    exact Registry.mem_unregister.mpr ⟨member, fun h => kept (h ▸ rfl)⟩
  | dropped target => exact member
  | taken _ ends _ => rw [ends.listeners_eq]; exact member

/-- An id whose listener is gone is not given to another. -/
theorem unregistered_step (sound : store.Sound) (held : store.registry.isHeld id = true)
    (gone : id ∉ store.registry.listeners.map Listener.id) :
    id ∉ (store.step action).registry.listeners.map Listener.id := by
  have effect := step_effect sound action
  generalize (store.step action).registry = registry at effect
  have filtered {p : Listener → Bool} :
      id ∉ (store.registry.listeners.filter p).map Listener.id :=
    fun h => gone ((List.filter_sublist.map _).subset h)
  cases effect with
  | told _ _ ends _ _ => rw [ends.listeners_eq]; exact filtered
  | registered name query params =>
    show id ∉ (store.registry.listeners ++ [_]).map Listener.id
    rw [List.map_append, List.mem_append, not_or]
    have hlt := sound.registry_sound.held_lt id held
    refine ⟨gone, fun h => ?_⟩
    rw [List.mem_singleton.mp h] at hlt
    exact Nat.lt_irrefl _ hlt
  | unregistered target => exact filtered
  | dropped target => exact gone
  | taken _ ends _ => rw [ends.listeners_eq]; exact gone

/-- **One call moves a stream by what its listener is due**: the events taken and those queued
behind are the queue before and the events of the batch committed, if one was. -/
theorem stream_step_registered (sound : store.Sound) {listener : Listener} {query : Query}
    (member : listener ∈ store.registry.listeners)
    (held : store.registry.isHeld listener.id = true)
    (read : Query.ofText listener.params listener.query = .ok query)
    (kept : action ≠ .dropSubscription listener.id) :
    store.takenAt listener.id action ++ (store.step action).registry.queue listener.id =
      store.registry.queue listener.id ++
        (store.committed? action).toList.flatMap (Commit.due query) := by
  have effect := step_effect sound action
  generalize (store.step action).registry = registry at effect
  cases effect with
  | told committed untaken _ queues _ =>
    rw [untaken, queues listener member held query read, committed]
    simp
  | registered name text params =>
    have hlt := sound.registry_sound.listener_lt listener member
    simp [takenAt, committed?, Action.batch?, Registry.queue_register_of_lt name text params hlt]
  | unregistered target => simp [takenAt, committed?, Action.batch?, Registry.queue_unregister]
  | dropped target =>
    have hne : listener.id ≠ target := fun h => kept (h ▸ rfl)
    simp [takenAt, committed?, Action.batch?, Registry.queue_drop_ne hne]
  | taken uncommitted _ queues => rw [queues, uncommitted]; simp

theorem stream_step_unregistered (sound : store.Sound) (held : store.registry.isHeld id = true)
    (gone : id ∉ store.registry.listeners.map Listener.id)
    (kept : action ≠ .dropSubscription id) :
    store.takenAt id action ++ (store.step action).registry.queue id =
      store.registry.queue id := by
  have effect := step_effect sound action
  generalize (store.step action).registry = registry at effect
  cases effect with
  | told _ untaken _ _ others => rw [untaken, others id gone, List.nil_append]
  | registered name query params =>
    exact Registry.queue_register_of_lt name query params (sound.registry_sound.held_lt id held)
  | unregistered target => rfl
  | dropped target => exact Registry.queue_drop_ne (fun h => kept (h ▸ rfl))
  | taken _ _ queues => exact queues id

/-! ## Runs -/

theorem stream_unregistered :
    ∀ (actions : List Action) {store : Store}, store.Sound →
      store.registry.isHeld id = true → id ∉ store.registry.listeners.map Listener.id →
      .dropSubscription id ∉ actions →
      store.stream id actions = store.registry.queue id ∧
        id ∉ (store.run actions).registry.listeners.map Listener.id
  | [], _, _, _, gone, _ => ⟨rfl, gone⟩
  | action :: rest, store, sound, held, gone, kept => by
    rw [List.mem_cons, not_or] at kept
    have hstep := stream_step_unregistered sound held gone (Ne.symm kept.1)
    obtain ⟨hrest, hgone⟩ := stream_unregistered rest (sound.step action)
      (held_step sound held (Ne.symm kept.1)) (unregistered_step sound held gone) kept.2
    refine ⟨?_, hgone⟩
    rw [stream_cons, hrest, hstep]

/-- **The stream of a held subscription grows by what it is due for each batch committed before its
unsubscription.** -/
theorem stream_eq (listener : Listener) {query : Query}
    (read : Query.ofText listener.params listener.query = .ok query) :
    ∀ (actions : List Action) {store : Store}, store.Sound →
      listener ∈ store.registry.listeners → store.registry.isHeld listener.id = true →
      .dropSubscription listener.id ∉ actions →
      store.stream listener.id actions =
        store.registry.queue listener.id ++
          (store.commits (actions.takeWhile (fun a => !a.unsubscribes listener.id))).flatMap
            (Commit.due query)
  | [], store, _, _, _, _ => (List.append_nil _).symm
  | action :: rest, store, sound, member, held, kept => by
    rw [List.mem_cons, not_or] at kept
    have hheld := held_step sound held (Ne.symm kept.1)
    by_cases hun : action = .unsubscribe listener.id
    · -- The listener goes, and the stream is what it was.
      subst hun
      have hrest := (stream_unregistered rest (sound.step _) hheld Registry.gone_unregister
        kept.2).1
      rw [List.takeWhile_cons, if_neg (by simp [Action.unsubscribes]), commits, List.flatMap_nil,
        List.append_nil, stream_cons, hrest]
      rfl
    · have hstep := stream_step_registered sound member held read (Ne.symm kept.1)
      have hrest := stream_eq listener read rest (sound.step action)
        (registered_step sound member held hun) hheld kept.2
      have hgo : (!action.unsubscribes listener.id) = true := by
        rw [Bool.not_eq_true', ← Bool.not_eq_true, Action.unsubscribes_iff]
        exact hun
      rw [stream_cons, hrest, List.takeWhile_cons, if_pos hgo, commits, List.flatMap_append,
        ← List.append_assoc, ← List.append_assoc, hstep]

theorem held_run : ∀ (actions : List Action) {store : Store}, store.Sound →
    store.registry.isHeld id = true → .dropSubscription id ∉ actions →
    (store.run actions).registry.isHeld id = true
  | [], _, _, held, _ => held
  | action :: rest, store, sound, held, kept => by
    rw [List.mem_cons, not_or] at kept
    exact held_run rest (sound.step action) (held_step sound held (Ne.symm kept.1)) kept.2

theorem registered_run {listener : Listener} : ∀ (actions : List Action) {store : Store},
    store.Sound → listener ∈ store.registry.listeners →
    store.registry.isHeld listener.id = true → .dropSubscription listener.id ∉ actions →
    .unsubscribe listener.id ∉ actions → listener ∈ (store.run actions).registry.listeners
  | [], _, _, member, _, _, _ => member
  | action :: rest, store, sound, member, held, kept, staying => by
    rw [List.mem_cons, not_or] at kept staying
    exact registered_run rest (sound.step action)
      (registered_step sound member held (Ne.symm staying.1))
      (held_step sound held (Ne.symm kept.1)) kept.2 staying.2

theorem unregistered_run : ∀ (actions : List Action) {store : Store}, store.Sound →
    store.registry.isHeld id = true → .dropSubscription id ∉ actions →
    .unsubscribe id ∈ actions → id ∉ (store.run actions).registry.listeners.map Listener.id
  | action :: rest, store, sound, held, kept, leaving => by
    rw [List.mem_cons, not_or] at kept
    have hheld := held_step sound held (Ne.symm kept.1)
    rcases List.mem_cons.mp leaving with rfl | later
    · exact (stream_unregistered rest (sound.step _) hheld Registry.gone_unregister kept.2).2
    · exact unregistered_run rest (sound.step action) hheld kept.2 later

/-- Whether the listener of a held subscription is still registered is whether it was not
unsubscribed. -/
theorem isRegistered_run {listener : Listener} (actions : List Action) (sound : store.Sound)
    (member : listener ∈ store.registry.listeners)
    (held : store.registry.isHeld listener.id = true)
    (kept : .dropSubscription listener.id ∉ actions) :
    (store.run actions).registry.isRegistered listener.id =
      !actions.any (Action.unsubscribes listener.id) := by
  by_cases leaving : .unsubscribe listener.id ∈ actions
  · have gone := unregistered_run actions sound held kept leaving
    rw [← Registry.isRegistered_iff, Bool.not_eq_true] at gone
    rw [gone, List.any_eq_true.mpr ⟨_, leaving, Action.unsubscribes_iff.mpr rfl⟩]
    rfl
  · have stays := registered_run actions sound member held kept leaving
    rw [Registry.isRegistered_iff.mpr (List.mem_map_of_mem stays), eq_comm, Bool.not_eq_true',
      List.any_eq_false]
    exact fun action ha hun => leaving (Action.unsubscribes_iff.mp hun ▸ ha)

/-- The batches before an unsubscription are found among the calls that bear on the stream. -/
theorem batches_bearsOn (actions : List Action) :
    (actions.takeWhile (fun a => !a.unsubscribes id)).filter (fun a => a.batch?.isSome) =
      ((actions.filter (Action.bearsOn id)).takeWhile (fun a => !a.unsubscribes id)).filter
        (fun a => a.batch?.isSome) := by
  rw [List.takeWhile_filter, List.filter_filter]
  congr 1
  · funext a
    simp only [Action.bearsOn]
    cases a.batch?.isSome <;> rfl
  · congr 1
    funext a
    simp only [Action.bearsOn]
    cases a.unsubscribes id <;> simp

theorem commits_bearsOn {actions others : List Action}
    (same : others.filter (Action.bearsOn id) = actions.filter (Action.bearsOn id)) :
    store.commits (others.takeWhile (fun a => !a.unsubscribes id)) =
      store.commits (actions.takeWhile (fun a => !a.unsubscribes id)) := by
  rw [commits_filter _ rfl rfl, batches_bearsOn, same, ← batches_bearsOn,
    ← commits_filter _ rfl rfl]

/-- **Polling as often as there are events takes them all**, and then says whether the listener is
gone. -/
theorem poll_queue : ∀ (events : List (ListenEvent Record)) (store : Store),
    store.registry.queue id = events →
    let polls := List.replicate events.length (Action.poll id)
    store.taken id polls = events ∧
      ((store.run polls).poll id).2 =
        if store.registry.isRegistered id then .pending else .ended
  | [], store, empty => ⟨rfl, congrArg Prod.snd (Registry.poll_of_nil empty)⟩
  | event :: rest, store, queued => by
    have given := Registry.poll_of_cons queued
    have left := Registry.poll_append_queue store.registry id
    rw [given, queued] at left
    obtain ⟨htaken, hend⟩ := poll_queue rest (store.step (.poll id))
      (List.cons.inj left).2
    have hreg : (store.step (.poll id)).registry.isRegistered id =
        store.registry.isRegistered id :=
      (Registry.sameEnds_poll store.registry id).isRegistered_eq id
    refine ⟨?_, hreg ▸ hend⟩
    show store.takenAt id (.poll id) ++ (store.step (.poll id)).taken id _ = event :: rest
    rw [htaken]
    have hat : store.takenAt id (.poll id) = (store.registry.poll id).2.event?.toList := if_pos rfl
    rw [hat, given]
    rfl

/-! ## From the subscription on -/

/-- Right after a subscription was accepted its listener is registered and its welcome queued. -/
theorem subscribe_spec {name query : String} {params : Fields Json} {subscribed : Store}
    (sound : store.Sound) (accepted : store.subscribe name query params = (subscribed, .ok id)) :
    subscribed.Sound ∧ ⟨id, name, query, params⟩ ∈ subscribed.registry.listeners ∧
      subscribed.registry.isHeld id = true ∧ subscribed.registry.queue id = [.welcome name] ∧
      ∃ parsed, Query.ofText params query = .ok parsed := by
  obtain ⟨⟨records, answered⟩, rfl, registered, _⟩ := subscribe_ok_inv accepted
  rw [sound.evaluator_eq] at answered
  obtain ⟨parsed, read, _⟩ := filter_eq_ok_iff.mp answered
  refine ⟨?_, ?_, ?_, ?_, parsed, read⟩
  · have hnext := sound.subscribe name query params
    rw [accepted] at hnext
    exact hnext
  · rw [registered]; exact List.mem_append_right _ List.mem_cons_self
  · rw [registered, Registry.isHeld_register, beq_self_eq_true, Bool.or_true]
  · rw [registered, Registry.queue_register_self name query params sound.registry_sound]

theorem stream_subscribed {name query : String} {params : Fields Json} {subscribed : Store}
    {actions : List Action} {parsed : Query} (sound : store.Sound)
    (accepted : store.subscribe name query params = (subscribed, .ok id))
    (read : Query.ofText params query = .ok parsed) (held : .dropSubscription id ∉ actions) :
    subscribed.stream id actions = .welcome name ::
      (subscribed.commits (actions.takeWhile (fun a => !a.unsubscribes id))).flatMap
        (Commit.due parsed) := by
  obtain ⟨sound', member, hheld, queued, _⟩ := subscribe_spec sound accepted
  rw [stream_eq ⟨id, name, query, params⟩ read actions sound' member hheld held, queued]
  rfl

/-- **The events of one batch.**  A batch that is committed while a listener is registered and held
queues for it one event for each document created or updated that its query accepts, in the order
of the answer, and skips no listener. -/
theorem batch_events {opened subscribed : Store} {name query : String} {params : Fields Json}
    {actions : List Action} {tx : Transaction} {mutations : List Mutation} {result : MutationResult}
    (reachable : opened.Reachable)
    (accepted : opened.subscribe name query params = (subscribed, .ok id))
    (held : .dropSubscription id ∉ actions) (registered : .unsubscribe id ∉ actions)
    (committed : ((subscribed.run actions).mutate tx mutations).2.result = .ok result) :
    let before := subscribed.run actions
    let after := (before.mutate tx mutations).1
    (∃ parsed, Query.ofText params query = .ok parsed ∧
      after.registry.queue id = before.registry.queue id ++
        result.results.filterMap (dueEvent? parsed before.dataset after.dataset
          ⟨tx, before.config.identity, mutations⟩)) ∧
      (∀ change ∈ result.results, change.kind ≠ .delete →
        ∃ record, after.dataset.get? change.id = some record ∧
          record.document.rev? = some tx.id) ∧
      .listenerSkipped ∉ (before.mutate tx mutations).2.notices := by
  obtain ⟨sound, member, hheld, _, parsed, read⟩ :=
    subscribe_spec (reachable_sound reachable) accepted
  have member' := registered_run actions sound member hheld held registered
  have hheld' := held_run actions sound hheld held
  have sound' := Sound.run actions sound
  obtain ⟨next, reduced, rfl⟩ := mutate_ok_inv committed
  obtain ⟨quiet, _, queues, _⟩ := commit_told sound' reduced
  simp only [mutate_of_ok reduced]
  refine ⟨⟨parsed, read, ?_⟩, fun change hc hkind => ?_, ?_⟩
  · rw [queues ⟨id, name, query, params⟩ member' hheld',
      Listener.due_of_read ⟨id, name, query, params⟩ read]
    rfl
  · have nextSound := Dataset.reduce_sound sound'.dataset_sound reduced
    exact written_of_mem_diff sound'.dataset_sound nextSound (Dataset.reduce_writtenBy reduced)
      hc hkind
  · rw [quiet, List.append_nil]
    exact Dataset.reduce_quiet tx mutations _

/-- A lamp that was switched off is taken away and put back switched on.  The answer calls this an
update, but the lamp was not in the result before: it appears. -/
theorem batch_events_lamps :
    let calls := [.mutate ⟨"off", "1"⟩ [.createOrReplace (lamp false)]]
    let before := watchedLamps.run calls
    let back := [.delete (.ids (.one "lamp")), .create (lamp true)]
    let after := (before.mutate ⟨"back", "2"⟩ back).1
    (before.mutate ⟨"back", "2"⟩ back).2.result = .ok ⟨"back", [⟨"lamp", .update⟩]⟩ ∧
      after.registry.queue 0 = before.registry.queue 0 ++
        [.mutation
          { eventId := "back#lamp"
            documentId := "lamp"
            transactionId := "back"
            transition := .appear
            identity := "fake-user"
            mutations := back
            result := litLamp 2 ⟨"back", "2"⟩
            previousRev := none
            resultRev := some "back"
            timestamp := "2"
            visibility := "query" }] := by
  intro calls before back after
  have answered : (before.mutate ⟨"back", "2"⟩ back).2.result =
      .ok ⟨"back", [⟨"lamp", .update⟩]⟩ := rfl
  obtain ⟨⟨parsed, read, queued⟩, -, -⟩ := batch_events lamps_reachable lamps_subscribe
    (show .dropSubscription 0 ∉ calls by simp [calls]) (by simp [calls]) answered
  refine ⟨answered, queued.trans (congrArg _ ?_)⟩
  cases read
  rfl

/-- **The stream of a subscription, in every run.**  What was taken and what is still queued are
the welcome and then the events due for the batches committed before the unsubscription, in order.
Only batches and the unsubscription bear on it.  What is queued can be taken, also after the
unsubscription, and only then the stream ends. -/
theorem subscription_stream {opened subscribed : Store} {name query : String}
    {params : Fields Json} {actions : List Action} (reachable : opened.Reachable)
    (accepted : opened.subscribe name query params = (subscribed, .ok id))
    (held : .dropSubscription id ∉ actions) :
    (∃ parsed, Query.ofText params query = .ok parsed ∧
      subscribed.stream id actions = .welcome name ::
        (subscribed.commits (actions.takeWhile (fun a => !a.unsubscribes id))).flatMap
          (Commit.due parsed)) ∧
      (∀ others, .dropSubscription id ∉ others →
        others.filter (Action.bearsOn id) = actions.filter (Action.bearsOn id) →
        subscribed.stream id others = subscribed.stream id actions) ∧
      let last := subscribed.run actions
      let polls := List.replicate (last.registry.queue id).length (Action.poll id)
      last.taken id polls = last.registry.queue id ∧
        ((last.run polls).poll id).2 =
          if actions.any (Action.unsubscribes id) then .ended else .pending := by
  have opened_sound := reachable_sound reachable
  obtain ⟨sound, member, hheld, _, parsed, read⟩ := subscribe_spec opened_sound accepted
  have whole := stream_subscribed opened_sound accepted read held
  refine ⟨⟨parsed, read, whole⟩, ?_, ?_⟩
  · intro others kept same
    rw [stream_subscribed opened_sound accepted read kept, whole, commits_bearsOn same]
  · obtain ⟨htaken, hend⟩ := poll_queue _ (subscribed.run actions) rfl
    refine ⟨htaken, hend.trans ?_⟩
    rw [isRegistered_run actions sound member hheld held]
    cases actions.any (Action.unsubscribes id) <;> rfl

/-- A lamp is switched off and on; once nobody listens any more, it is switched off again. -/
theorem subscription_stream_lamps :
    let calls := [.mutate ⟨"off", "1"⟩ [.createOrReplace (lamp false)], .tryNext 0,
      .mutate ⟨"on", "2"⟩ [.createOrReplace (lamp true)], .unsubscribe 0,
      .mutate ⟨"dark", "3"⟩ [.createOrReplace (lamp false)]]
    let last := watchedLamps.run calls
    (∃ parsed, Query.ofText [] "*[on]" = .ok parsed ∧
      watchedLamps.stream 0 calls = .welcome "watch" ::
        (watchedLamps.commits (calls.take 3)).flatMap (Commit.due parsed)) ∧
      (watchedLamps.stream 0 calls).length = 2 ∧
      ((last.run [.poll 0]).poll 0).2 = .ended := by
  intro calls last
  obtain ⟨whole, _, _, ended⟩ := subscription_stream lamps_reachable lamps_subscribe
    (show .dropSubscription 0 ∉ calls by simp [calls])
  exact ⟨whole, rfl, ended⟩

end Store

end DocumentStore
