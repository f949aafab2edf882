import DocumentStore.Listener.Registry

/-!
# Queues of a registry

Each operation of a registry is described by what it does to the queue of one subscription, to the
listeners registered and to the subscriptions held.

* `Registry.Sound` — listeners with distinct ids, and every id given out below the next one.
* `Registry.SameEnds` — the same listeners and the same subscriptions, whatever is queued.
* `Registry.heard`, `Registry.skipped` — what a listener hears of a batch, and what is told of it.

Principal results: `notify_queues` — a notification queues for each listener that is held what it
hears, and removes the listeners that are not held.  `notify_spec` — it skips none when every query
is answered.  `tryNext_append_queue`, `drain_append_queue` — what is taken from a queue was at its
head.
-/

set_option autoImplicit false

namespace DocumentStore

namespace Registry

variable {registry : Registry} {id : Nat}

/-! ## Queues by id -/

theorem isHeld_iff :
    registry.isHeld id = true ↔ id ∈ registry.subscriptions.map Subscription.id := by
  simp [isHeld]

theorem isRegistered_iff :
    registry.isRegistered id = true ↔ id ∈ registry.listeners.map Listener.id := by
  simp [isRegistered]

theorem queue_eq : registry.queue id =
    ((registry.subscriptions.find? (fun s => s.id == id)).map Subscription.queue).getD [] := by
  unfold queue
  cases registry.subscriptions.find? (fun s => s.id == id) <;> rfl

theorem queue_of_not_held (h : registry.isHeld id ≠ true) : registry.queue id = [] := by
  have hnone : registry.subscriptions.find? (fun s => s.id == id) = none := by
    simpa [isHeld] using h
  rw [queue_eq, hnone]
  rfl

theorem held_of_mem_queue {event : ListenEvent Record} (h : event ∈ registry.queue id) :
    registry.isHeld id = true := by
  cases hheld : registry.isHeld id with
  | true => rfl
  | false => rw [queue_of_not_held (by simp [hheld])] at h; cases h

/-- Replacing a queue changes no id, so look-ups find the same subscriptions. -/
theorem find?_setQueue (queue : List (ListenEvent Record)) (other : Nat) :
    (registry.setQueue id queue).subscriptions.find? (fun s => s.id == other) =
      (registry.subscriptions.find? (fun s => s.id == other)).map
        (fun s => if s.id = id then { s with queue := queue } else s) := by
  unfold setQueue
  rw [List.find?_map]
  congr 2
  funext s
  simp only [Function.comp]
  split <;> rfl

theorem queue_setQueue_self (held : registry.isHeld id = true)
    (queue : List (ListenEvent Record)) : (registry.setQueue id queue).queue id = queue := by
  rw [queue_eq, find?_setQueue]
  cases hf : registry.subscriptions.find? (fun s => s.id == id) with
  | none =>
    rw [List.find?_eq_none] at hf
    obtain ⟨s, hs, hid⟩ := List.any_eq_true.mp held
    exact absurd hid (hf s hs)
  | some s =>
    have hid : s.id = id := by simpa using List.find?_some hf
    simp [hid]

theorem queue_setQueue_ne {other : Nat} (h : other ≠ id) (queue : List (ListenEvent Record)) :
    (registry.setQueue id queue).queue other = registry.queue other := by
  rw [queue_eq, queue_eq, find?_setQueue]
  cases hf : registry.subscriptions.find? (fun s => s.id == other) with
  | none => rfl
  | some s =>
    have hid : s.id = other := by simpa using List.find?_some hf
    simp [hid, h]

/-! ## Listeners and subscriptions -/

/-- Listeners have distinct ids, and every id of a listener or of a subscription was given out
before the next one. -/
structure Sound (registry : Registry) : Prop where
  listeners_nodup : (registry.listeners.map Listener.id).Nodup
  listener_lt : ∀ listener ∈ registry.listeners, listener.id < registry.nextId
  held_lt : ∀ id, registry.isHeld id = true → id < registry.nextId

/-- Two registries with the same listeners and the same subscriptions. -/
structure SameEnds (before after : Registry) : Prop where
  nextId_eq : after.nextId = before.nextId
  listeners_eq : after.listeners = before.listeners
  held_eq : ∀ id, after.isHeld id = before.isHeld id

theorem SameEnds.refl (registry : Registry) : SameEnds registry registry :=
  ⟨rfl, rfl, fun _ => rfl⟩

theorem SameEnds.trans {first second third : Registry} (h : SameEnds first second)
    (h' : SameEnds second third) : SameEnds first third :=
  ⟨h'.nextId_eq.trans h.nextId_eq, h'.listeners_eq.trans h.listeners_eq,
    fun id => (h'.held_eq id).trans (h.held_eq id)⟩

theorem SameEnds.sound {before after : Registry} (h : SameEnds before after)
    (sound : before.Sound) : after.Sound where
  listeners_nodup := h.listeners_eq ▸ sound.listeners_nodup
  listener_lt := by rw [h.nextId_eq, h.listeners_eq]; exact sound.listener_lt
  held_lt id hid := by rw [h.nextId_eq]; exact sound.held_lt id (h.held_eq id ▸ hid)

theorem SameEnds.isRegistered_eq {before after : Registry} (h : SameEnds before after) (id : Nat) :
    after.isRegistered id = before.isRegistered id := by
  unfold isRegistered
  rw [h.listeners_eq]

theorem sameEnds_setQueue (registry : Registry) (id : Nat) (queue : List (ListenEvent Record)) :
    SameEnds registry (registry.setQueue id queue) := by
  refine ⟨rfl, rfl, fun other => ?_⟩
  unfold isHeld setQueue
  rw [List.any_map]
  congr 1
  funext s
  simp only [Function.comp]
  split <;> rfl

theorem empty_sound : Registry.empty.Sound :=
  ⟨List.nodup_nil, fun _ h => (by cases h), fun _ h => (by simp [isHeld, Registry.empty] at h)⟩

/-! ## Coming and going -/

section
variable (name query : String) (params : Fields Json)

theorem isHeld_register (other : Nat) : (registry.register name query params).isHeld other =
    (registry.isHeld other || registry.nextId == other) := by
  simp [isHeld, register]

theorem Sound.register (sound : registry.Sound) : (registry.register name query params).Sound where
  listeners_nodup := by
    show ((registry.listeners ++ [_]).map Listener.id).Nodup
    rw [List.map_append, List.nodup_append]
    refine ⟨sound.listeners_nodup, by simp, ?_⟩
    intro a ha b hb hab
    obtain ⟨listener, hl, rfl⟩ := List.mem_map.mp ha
    have hlt := sound.listener_lt listener hl
    rw [hab, List.mem_singleton.mp hb] at hlt
    exact Nat.lt_irrefl _ hlt
  listener_lt listener hl := by
    rcases List.mem_append.mp hl with hl | hl
    · exact Nat.lt_succ_of_lt (sound.listener_lt listener hl)
    · rw [List.mem_singleton.mp hl]; exact Nat.lt_succ_self _
  held_lt id hid := by
    rw [isHeld_register, Bool.or_eq_true] at hid
    rcases hid with hid | hid
    · exact Nat.lt_succ_of_lt (sound.held_lt id hid)
    · rw [← beq_iff_eq.mp hid]; exact Nat.lt_succ_self _

theorem queue_register_self (sound : registry.Sound) :
    (registry.register name query params).queue registry.nextId = [.welcome name] := by
  have hnone : registry.subscriptions.find? (fun s => s.id == registry.nextId) = none := by
    rw [List.find?_eq_none]
    intro s hs hid
    have hlt := sound.held_lt s.id (isHeld_iff.mpr (List.mem_map_of_mem hs))
    rw [beq_iff_eq.mp hid] at hlt
    exact Nat.lt_irrefl _ hlt
  rw [queue_eq]
  simp [register, List.find?_append, hnone]

theorem queue_register_of_lt (h : id < registry.nextId) :
    (registry.register name query params).queue id = registry.queue id := by
  have hne : (registry.nextId == id) = false := beq_false_of_ne (by omega)
  simp [queue_eq, register, List.find?_append, hne]

end

theorem mem_unregister {listener : Listener} {target : Nat} :
    listener ∈ (registry.unregister target).listeners ↔
      listener ∈ registry.listeners ∧ listener.id ≠ target := by
  simp [unregister]

theorem gone_unregister : id ∉ (registry.unregister id).listeners.map Listener.id := by
  intro h
  obtain ⟨listener, hl, hid⟩ := List.mem_map.mp h
  exact (mem_unregister.mp hl).2 hid

theorem Sound.unregister (sound : registry.Sound) (target : Nat) :
    (registry.unregister target).Sound where
  listeners_nodup := sound.listeners_nodup.sublist (List.filter_sublist.map _)
  listener_lt listener hl := sound.listener_lt listener (mem_unregister.mp hl).1
  held_lt := sound.held_lt

theorem queue_unregister (target : Nat) :
    (registry.unregister target).queue id = registry.queue id := rfl

theorem isHeld_drop (target : Nat) :
    (registry.drop target).isHeld id = (registry.isHeld id && id != target) := by
  unfold isHeld drop
  rw [Bool.eq_iff_iff]
  simp only [List.any_filter, List.any_eq_true, Bool.and_eq_true, bne_iff_ne, beq_iff_eq]
  constructor
  · rintro ⟨s, hs, hne, rfl⟩; exact ⟨⟨s, hs, rfl⟩, hne⟩
  · rintro ⟨⟨s, hs, rfl⟩, hne⟩; exact ⟨s, hs, hne, rfl⟩

theorem Sound.drop (sound : registry.Sound) (target : Nat) : (registry.drop target).Sound where
  listeners_nodup := sound.listeners_nodup
  listener_lt := sound.listener_lt
  held_lt id hid := sound.held_lt id (by rw [isHeld_drop, Bool.and_eq_true] at hid; exact hid.1)

theorem queue_drop_ne {target : Nat} (h : id ≠ target) :
    (registry.drop target).queue id = registry.queue id := by
  rw [queue_eq, queue_eq]
  unfold drop
  rw [List.find?_filter]
  congr 3
  funext s
  by_cases hs : s.id = id
  · simp [hs, h]
  · simp [hs]

/-! ## Notification -/

section
variable (evaluate : Evaluator) (previous current : Dataset) (batch : BatchContext)

/-- What a listener hears of a batch: its events, or nothing when its query fails. -/
def heard (listener : Listener) : List (ListenEvent Record) :=
  match listener.events evaluate previous current batch with
  | .ok events => events
  | .error _ => []

/-- What is told of a listener: that it is skipped, when its query fails. -/
def skipped (listener : Listener) : List Notice :=
  match listener.events evaluate previous current batch with
  | .ok _ => []
  | .error _ => [.listenerSkipped]

/-- One listener told: what it hears goes behind its queue, and no other queue changes. -/
theorem notifyOne_spec (told : Registry × List Notice) {listener : Listener}
    (held : told.1.isHeld listener.id = true) :
    let told' := notifyOne evaluate previous current batch told listener
    told'.2 = told.2 ++ skipped evaluate previous current batch listener ∧
      SameEnds told.1 told'.1 ∧
      told'.1.queue listener.id =
        told.1.queue listener.id ++ heard evaluate previous current batch listener ∧
      ∀ id, id ≠ listener.id → told'.1.queue id = told.1.queue id := by
  unfold notifyOne skipped heard
  cases listener.events evaluate previous current batch with
  | error fault =>
    exact ⟨rfl, .refl _, (List.append_nil _).symm, fun _ _ => rfl⟩
  | ok events =>
    exact ⟨(List.append_nil _).symm, sameEnds_setQueue _ _ _, queue_setQueue_self held _,
      fun id hne => queue_setQueue_ne hne _⟩

theorem foldl_notifyOne :
    ∀ (listeners : List Listener) (told : Registry × List Notice),
      (listeners.map Listener.id).Nodup →
      (∀ listener ∈ listeners, told.1.isHeld listener.id = true) →
      let told' := listeners.foldl (notifyOne evaluate previous current batch) told
      told'.2 = told.2 ++ listeners.flatMap (skipped evaluate previous current batch) ∧
        SameEnds told.1 told'.1 ∧
        (∀ listener ∈ listeners, told'.1.queue listener.id =
          told.1.queue listener.id ++ heard evaluate previous current batch listener) ∧
        ∀ id, id ∉ listeners.map Listener.id → told'.1.queue id = told.1.queue id
  | [], told, _, _ =>
    ⟨(List.append_nil _).symm, .refl _, fun _ h => (by cases h), fun _ _ => rfl⟩
  | first :: rest, told, distinct, held => by
    rw [List.map_cons, List.nodup_cons] at distinct
    rw [List.forall_mem_cons] at held
    obtain ⟨hfirst, hends, hself, hne⟩ :=
      notifyOne_spec evaluate previous current batch told held.1
    obtain ⟨hnotices, hsame, hmem, hother⟩ := foldl_notifyOne rest
      (notifyOne evaluate previous current batch told first) distinct.2
      (fun listener hl => by rw [hends.held_eq]; exact held.2 listener hl)
    rw [List.foldl_cons]
    refine ⟨?_, hends.trans hsame, fun listener hl => ?_, fun id hid => ?_⟩
    · rw [hnotices, hfirst, List.flatMap_cons, List.append_assoc]
    · rcases List.mem_cons.mp hl with rfl | hl
      · rw [hother _ distinct.1, hself]
      · have apart : listener.id ≠ first.id := fun he =>
          distinct.1 (he ▸ List.mem_map_of_mem hl)
        rw [hmem listener hl, hne _ apart]
    · rw [List.map_cons, List.mem_cons, not_or] at hid
      rw [hother id hid.2, hne id hid.1]

theorem Sound.onlyHeld (sound : registry.Sound) :
    { registry with
      listeners := registry.listeners.filter (fun l => registry.isHeld l.id) }.Sound :=
  ⟨sound.listeners_nodup.sublist (List.filter_sublist.map _),
    fun listener hl => sound.listener_lt listener (List.mem_filter.mp hl).1, sound.held_lt⟩

/-- **A notification**: each listener that is held has what it hears queued behind what was there,
no other queue changes, and the listeners that are not held are removed. -/
theorem notify_queues (sound : registry.Sound) :
    let told := registry.notify evaluate previous current batch
    told.2 = (registry.listeners.filter (fun l => registry.isHeld l.id)).flatMap
        (skipped evaluate previous current batch) ∧
      SameEnds { registry with
        listeners := registry.listeners.filter (fun l => registry.isHeld l.id) } told.1 ∧
      (∀ listener ∈ registry.listeners, registry.isHeld listener.id = true →
        told.1.queue listener.id =
          registry.queue listener.id ++ heard evaluate previous current batch listener) ∧
      ∀ id, id ∉ registry.listeners.map Listener.id → told.1.queue id = registry.queue id := by
  obtain ⟨hnotices, hsame, hmem, hother⟩ := foldl_notifyOne evaluate previous current batch
    (registry.listeners.filter (fun l => registry.isHeld l.id))
    ({ registry with listeners := registry.listeners.filter (fun l => registry.isHeld l.id) }, [])
    sound.onlyHeld.listeners_nodup (fun listener hl => (List.mem_filter.mp hl).2)
  refine ⟨hnotices, hsame, fun listener hl hheld => ?_, fun id hid => ?_⟩
  · exact hmem listener (List.mem_filter.mpr ⟨hl, hheld⟩)
  · exact hother id (fun h => hid ((List.filter_sublist.map _).subset h))

theorem Sound.notify (sound : registry.Sound) :
    (registry.notify evaluate previous current batch).1.Sound :=
  (notify_queues evaluate previous current batch sound).2.1.sound sound.onlyHeld

end

variable {evaluate : Evaluator} {previous current : Dataset} {batch : BatchContext}

/-- **A notification in which every query is answered**: no listener is skipped, each one held has
its own events queued behind what was there, no other queue changes, and the listeners that are not
held are removed. -/
theorem notify_spec (sound : registry.Sound) (events : Listener → List (ListenEvent Record))
    (answered : ∀ listener ∈ registry.listeners,
      listener.events evaluate previous current batch = .ok (events listener)) :
    let told := registry.notify evaluate previous current batch
    told.2 = [] ∧
      SameEnds { registry with
        listeners := registry.listeners.filter (fun l => registry.isHeld l.id) } told.1 ∧
      (∀ listener ∈ registry.listeners, registry.isHeld listener.id = true →
        told.1.queue listener.id = registry.queue listener.id ++ events listener) ∧
      ∀ id, id ∉ registry.listeners.map Listener.id → told.1.queue id = registry.queue id := by
  obtain ⟨hnotices, hsame, hmem, hother⟩ := notify_queues evaluate previous current batch sound
  refine ⟨?_, hsame, fun listener hl hheld => ?_, hother⟩
  · rw [hnotices, List.flatMap_eq_nil_iff]
    intro listener hl
    rw [skipped, answered listener (List.mem_filter.mp hl).1]
  · rw [hmem listener hl hheld, heard, answered listener hl]

/-! ## Taking events -/

theorem tryNext_append_queue (registry : Registry) (id : Nat) :
    (registry.tryNext id).2.toList ++ (registry.tryNext id).1.queue id = registry.queue id := by
  unfold tryNext
  split
  · rename_i event rest hq
    have held : registry.isHeld id = true := held_of_mem_queue (hq ▸ List.mem_cons_self)
    rw [queue_setQueue_self held, hq]
    rfl
  · rfl

theorem queue_tryNext_ne {target : Nat} (h : id ≠ target) :
    (registry.tryNext target).1.queue id = registry.queue id := by
  unfold tryNext
  split
  · exact queue_setQueue_ne h _
  · rfl

theorem sameEnds_tryNext (registry : Registry) (target : Nat) :
    SameEnds registry (registry.tryNext target).1 := by
  unfold tryNext
  split
  · exact sameEnds_setQueue _ _ _
  · exact .refl _

theorem drain_append_queue (registry : Registry) (id : Nat) :
    (registry.drain id).2 ++ (registry.drain id).1.queue id = registry.queue id := by
  have hempty : (registry.setQueue id []).queue id = [] := by
    cases held : registry.isHeld id with
    | true => exact queue_setQueue_self held []
    | false =>
      exact queue_of_not_held (by simp [(sameEnds_setQueue registry id []).held_eq, held])
  exact (congrArg (registry.queue id ++ ·) hempty).trans (List.append_nil _)

/-- The event that polling took. -/
def Poll.event? : Poll → Option (ListenEvent Record)
  | .event taken => some taken
  | .ended => none
  | .pending => none

theorem poll_eq (registry : Registry) (id : Nat) :
    registry.poll id = ((registry.tryNext id).1, match (registry.tryNext id).2 with
      | some event => .event event
      | none => if registry.isRegistered id then .pending else .ended) := by
  unfold poll tryNext
  cases registry.queue id <;> rfl

theorem poll_append_queue (registry : Registry) (id : Nat) :
    (registry.poll id).2.event?.toList ++ (registry.poll id).1.queue id = registry.queue id := by
  have h := tryNext_append_queue registry id
  rw [poll_eq]
  cases ht : (registry.tryNext id).2 with
  | some event => rw [ht] at h; exact h
  | none =>
    rw [ht] at h
    simp only
    split <;> exact h

theorem queue_poll_ne {target : Nat} (h : id ≠ target) :
    (registry.poll target).1.queue id = registry.queue id := by
  rw [poll_eq]; exact queue_tryNext_ne h

theorem sameEnds_poll (registry : Registry) (target : Nat) :
    SameEnds registry (registry.poll target).1 := by
  rw [poll_eq]; exact sameEnds_tryNext registry target

theorem poll_of_cons {event : ListenEvent Record} {rest : List (ListenEvent Record)}
    (h : registry.queue id = event :: rest) : (registry.poll id).2 = .event event := by
  simp only [poll, tryNext, h]

theorem poll_of_nil (h : registry.queue id = []) :
    registry.poll id =
      (registry, if registry.isRegistered id then .pending else .ended) := by
  simp only [poll, tryNext, h]

end Registry

end DocumentStore
