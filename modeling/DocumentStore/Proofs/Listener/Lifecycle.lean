import DocumentStore.Proofs.Listener.Queues

/-!
# Listeners that come and go

A listener is in the registry from its registration until it is unregistered, or until the first
notification after its subscription was dropped.  No answer of an evaluator changes that, and no id
is given out twice.

* `Call`, `Registry.run` — what can be asked of a registry, and a run of it.
* `Registry.issued` — the ids that a run hands out.
* `Listens` — a listener that was registered, and neither unregistered nor dropped since.

Principal results: `Sound.mem_step`, `Sound.mem_run` — a listener that is held stays until it is
unregistered.  `Sound.gone_of_unregister`, `Sound.unheld_of_drop` — what was taken away does not
come back.  `Sound.registered_of_mem` — every listener was registered.  `listener_lifecycle` — all
of it over whole runs.
-/

set_option autoImplicit false

namespace DocumentStore

namespace Registry

/-- What can be asked of a registry. -/
inductive Call where
  | register (name query : String) (params : Fields Json)
  | unregister (id : Nat)
  | drop (id : Nat)
  | notify (evaluate : Evaluator) (previous current : Dataset) (batch : BatchContext)

/-- The registry after a call. -/
def step (registry : Registry) : Call → Registry
  | .register name query params => registry.register name query params
  | .unregister id => registry.unregister id
  | .drop id => registry.drop id
  | .notify evaluate previous current batch =>
    (registry.notify evaluate previous current batch).1

/-- The registry after calls, one after the other. -/
def run (registry : Registry) (calls : List Call) : Registry := calls.foldl step registry

/-- The id that a call hands out. -/
def issuedAt (registry : Registry) : Call → Option Nat
  | .register _ _ _ => some registry.nextId
  | _ => none

/-- The ids that calls hand out, in order. -/
def issued (registry : Registry) : List Call → List Nat
  | [] => []
  | call :: rest => (registry.issuedAt call).toList ++ (registry.step call).issued rest

/-- Some call registered the listener, and no call since then unregistered it or dropped its
subscription. -/
def Listens (calls : List Call) (listener : Listener) : Prop :=
  ∃ before after,
    calls = before ++ .register listener.name listener.query listener.params :: after ∧
      (empty.run before).nextId = listener.id ∧
      .unregister listener.id ∉ after ∧ .drop listener.id ∉ after

variable {registry : Registry} {id : Nat} {listener : Listener} {call : Call}

theorem run_append (registry : Registry) (calls later : List Call) :
    registry.run (calls ++ later) = (registry.run calls).run later :=
  List.foldl_append

/-! ## One call -/

theorem Sound.mem_notify (sound : registry.Sound) {evaluate : Evaluator}
    {previous current : Dataset} {batch : BatchContext} :
    listener ∈ (registry.notify evaluate previous current batch).1.listeners ↔
      listener ∈ registry.listeners ∧ registry.isHeld listener.id = true := by
  rw [(notify_queues evaluate previous current batch sound).2.1.listeners_eq]
  exact List.mem_filter

theorem Sound.isHeld_notify (sound : registry.Sound) (evaluate : Evaluator)
    (previous current : Dataset) (batch : BatchContext) (id : Nat) :
    (registry.notify evaluate previous current batch).1.isHeld id = registry.isHeld id :=
  (notify_queues evaluate previous current batch sound).2.1.held_eq id

theorem Sound.step (sound : registry.Sound) (call : Call) : (registry.step call).Sound := by
  cases call with
  | register name query params => exact sound.register name query params
  | unregister id => exact sound.unregister id
  | drop id => exact sound.drop id
  | notify evaluate previous current batch => exact sound.notify evaluate previous current batch

theorem Sound.nextId_step (sound : registry.Sound) (call : Call) :
    (registry.step call).nextId = registry.nextId + (registry.issuedAt call).toList.length := by
  cases call with
  | register _ _ _ => rfl
  | unregister _ => rfl
  | drop _ => rfl
  | notify evaluate previous current batch =>
    exact (notify_queues evaluate previous current batch sound).2.1.nextId_eq

/-- **A listener that is held is taken away by nothing but its being unregistered.** -/
theorem Sound.mem_step (sound : registry.Sound) (hmem : listener ∈ registry.listeners)
    (held : registry.isHeld listener.id = true) (other : call ≠ .unregister listener.id) :
    listener ∈ (registry.step call).listeners := by
  cases call with
  | register name query params => exact List.mem_append_left _ hmem
  | unregister id => exact mem_unregister.mpr ⟨hmem, fun same => other (same ▸ rfl)⟩
  | drop id => exact hmem
  | notify evaluate previous current batch => exact sound.mem_notify.mpr ⟨hmem, held⟩

theorem Sound.isHeld_step (sound : registry.Sound) (held : registry.isHeld id = true)
    (other : call ≠ .drop id) : (registry.step call).isHeld id = true := by
  cases call with
  | register name query params =>
    exact (isHeld_register name query params id).trans (by rw [held, Bool.true_or])
  | unregister _ => exact held
  | drop target =>
    have apart : (id != target) = true := bne_iff_ne.mpr (fun same => other (same ▸ rfl))
    exact (isHeld_drop target).trans (by rw [held, apart, Bool.true_and])
  | notify evaluate previous current batch =>
    exact (sound.isHeld_notify evaluate previous current batch id).trans held

/-- An id that was given out and is not registered is not registered again. -/
theorem Sound.gone_step (sound : registry.Sound) (given : id < registry.nextId)
    (gone : id ∉ registry.listeners.map Listener.id) (call : Call) :
    id ∉ (registry.step call).listeners.map Listener.id := by
  intro back
  obtain ⟨listener, hmem, rfl⟩ := List.mem_map.mp back
  refine gone (List.mem_map_of_mem ?_)
  cases call with
  | register name query params =>
    rcases List.mem_append.mp hmem with hmem | hnew
    · exact hmem
    · rw [List.mem_singleton.mp hnew] at given
      exact absurd given (Nat.lt_irrefl _)
  | unregister _ => exact (mem_unregister.mp hmem).1
  | drop _ => exact hmem
  | notify evaluate previous current batch => exact (sound.mem_notify.mp hmem).1

theorem Sound.unheld_step (sound : registry.Sound) (given : id < registry.nextId)
    (unheld : registry.isHeld id = false) (call : Call) :
    (registry.step call).isHeld id = false := by
  cases call with
  | register name query params =>
    have apart : (registry.nextId == id) = false := beq_false_of_ne (Nat.ne_of_gt given)
    exact (isHeld_register name query params id).trans (by rw [unheld, apart, Bool.false_or])
  | unregister _ => exact unheld
  | drop target => exact (isHeld_drop target).trans (by rw [unheld, Bool.false_and])
  | notify evaluate previous current batch =>
    exact (sound.isHeld_notify evaluate previous current batch id).trans unheld

/-- Whoever is registered after a call was so before, or is the one that the call registered. -/
theorem Sound.mem_step_inv (sound : registry.Sound)
    (hmem : listener ∈ (registry.step call).listeners) :
    listener ∈ registry.listeners ∨
      (call = .register listener.name listener.query listener.params ∧
        registry.nextId = listener.id) := by
  cases call with
  | register name query params =>
    rcases List.mem_append.mp hmem with hmem | hnew
    · exact .inl hmem
    · rw [List.mem_singleton.mp hnew]
      exact .inr ⟨rfl, rfl⟩
  | unregister _ => exact .inl (mem_unregister.mp hmem).1
  | drop _ => exact .inl hmem
  | notify evaluate previous current batch => exact .inl (sound.mem_notify.mp hmem).1

/-! ## Whole runs -/

theorem Sound.run : ∀ {registry : Registry}, registry.Sound → ∀ calls : List Call,
    (registry.run calls).Sound
  | _, sound, [] => sound
  | _, sound, call :: rest => Sound.run (sound.step call) rest

theorem Sound.nextId_le_run : ∀ {registry : Registry}, registry.Sound → ∀ calls : List Call,
    registry.nextId ≤ (registry.run calls).nextId
  | _, _, [] => Nat.le_refl _
  | registry, sound, call :: rest => by
    have first : registry.nextId ≤ (registry.step call).nextId := by
      rw [sound.nextId_step call]
      exact Nat.le_add_right _ _
    exact Nat.le_trans first (Sound.nextId_le_run (sound.step call) rest)

/-- **A listener that is held stays as long as it is neither unregistered nor dropped.** -/
theorem Sound.mem_run : ∀ {registry : Registry}, registry.Sound → ∀ {calls : List Call},
    listener ∈ registry.listeners → registry.isHeld listener.id = true →
      .unregister listener.id ∉ calls → .drop listener.id ∉ calls →
      listener ∈ (registry.run calls).listeners ∧
        (registry.run calls).isHeld listener.id = true
  | _, _, [], hmem, held, _, _ => ⟨hmem, held⟩
  | _, sound, call :: rest, hmem, held, kept, live => by
    rw [List.mem_cons, not_or] at kept live
    exact Sound.mem_run (sound.step call) (sound.mem_step hmem held (Ne.symm kept.1))
      (sound.isHeld_step held (Ne.symm live.1)) kept.2 live.2

theorem Sound.gone_run : ∀ {registry : Registry}, registry.Sound → id < registry.nextId →
    id ∉ registry.listeners.map Listener.id → ∀ calls : List Call,
      id ∉ (registry.run calls).listeners.map Listener.id
  | _, _, _, gone, [] => gone
  | _, sound, given, gone, call :: rest =>
    Sound.gone_run (sound.step call) (Nat.lt_of_lt_of_le given (sound.nextId_le_run [call]))
      (sound.gone_step given gone call) rest

theorem Sound.unheld_run : ∀ {registry : Registry}, registry.Sound → id < registry.nextId →
    registry.isHeld id = false → ∀ calls : List Call, (registry.run calls).isHeld id = false
  | _, _, _, unheld, [] => unheld
  | _, sound, given, unheld, call :: rest =>
    Sound.unheld_run (sound.step call) (Nat.lt_of_lt_of_le given (sound.nextId_le_run [call]))
      (sound.unheld_step given unheld call) rest

/-- **Whoever was unregistered is gone for good.** -/
theorem Sound.gone_of_unregister (sound : registry.Sound) {calls : List Call}
    (given : id < registry.nextId) (unregistered : .unregister id ∈ calls) :
    id ∉ (registry.run calls).listeners.map Listener.id := by
  obtain ⟨before, after, rfl⟩ := List.append_of_mem unregistered
  rw [run_append]
  have sound' := sound.run before
  have given' : id < (registry.run before).nextId :=
    Nat.lt_of_lt_of_le given (sound.nextId_le_run before)
  exact (sound'.unregister id).gone_run given' gone_unregister after

/-- **A subscription that was dropped is held no more.** -/
theorem Sound.unheld_of_drop (sound : registry.Sound) {calls : List Call}
    (given : id < registry.nextId) (dropped : .drop id ∈ calls) :
    (registry.run calls).isHeld id = false := by
  obtain ⟨before, after, rfl⟩ := List.append_of_mem dropped
  rw [run_append]
  have sound' := sound.run before
  have given' : id < (registry.run before).nextId :=
    Nat.lt_of_lt_of_le given (sound.nextId_le_run before)
  have unheld : ((registry.run before).drop id).isHeld id = false := by
    rw [isHeld_drop, bne_self_eq_false, Bool.and_false]
  exact (sound'.drop id).unheld_run given' unheld after

/-- **Every listener was there from the start or registered by a call.** -/
theorem Sound.registered_of_mem : ∀ {registry : Registry}, registry.Sound →
    ∀ {calls : List Call}, listener ∈ (registry.run calls).listeners →
      listener ∈ registry.listeners ∨ ∃ before after,
        calls = before ++ .register listener.name listener.query listener.params :: after ∧
          (registry.run before).nextId = listener.id
  | _, _, [], hmem => .inl hmem
  | _, sound, call :: rest, hmem => by
    rcases Sound.registered_of_mem (sound.step call) hmem with
      hfirst | ⟨before, after, rfl, hid⟩
    · rcases sound.mem_step_inv hfirst with hold | ⟨rfl, hid⟩
      · exact .inl hold
      · exact .inr ⟨[], rest, rfl, hid⟩
    · exact .inr ⟨call :: before, after, rfl, hid⟩

theorem Sound.issued_fresh : ∀ {registry : Registry}, registry.Sound → ∀ calls : List Call,
    (∀ id ∈ registry.issued calls, registry.nextId ≤ id) ∧ (registry.issued calls).Nodup
  | _, _, [] => ⟨fun _ h => (by cases h), List.nodup_nil⟩
  | registry, sound, call :: rest => by
    obtain ⟨later, distinct⟩ := Sound.issued_fresh (sound.step call) rest
    have next := sound.nextId_step call
    unfold issued
    cases hissued : registry.issuedAt call with
    | none =>
      have same : (registry.step call).nextId = registry.nextId := by rw [next, hissued]; rfl
      exact ⟨fun id hid => same ▸ later id hid, distinct⟩
    | some first =>
      have hfirst : first = registry.nextId := by
        cases call <;> cases hissued
        rfl
      subst hfirst
      have behind : ∀ id ∈ (registry.step call).issued rest, registry.nextId < id := by
        intro id hid
        have hle := later id hid
        rw [next, hissued] at hle
        exact hle
      refine ⟨fun id hid => ?_, List.nodup_cons.mpr ⟨fun again => ?_, distinct⟩⟩
      · rcases List.mem_cons.mp hid with rfl | hid
        · exact Nat.le_refl _
        · exact Nat.le_of_lt (behind id hid)
      · exact Nat.lt_irrefl _ (behind _ again)

theorem removes_iff : registry.removes id = true ↔ id ∈ registry.listeners.map Listener.id := by
  unfold removes size unregister
  rw [bne_iff_ne, ne_eq, List.length_filter_eq_length_iff]
  simp

/-! ## The life of a listener -/

theorem mem_of_listens {calls : List Call} (listens : Listens calls listener) :
    listener ∈ (empty.run calls).listeners ∧ (empty.run calls).isHeld listener.id = true := by
  obtain ⟨before, after, rfl, hid, kept, live⟩ := listens
  have sound := empty_sound.run before
  rw [run_append]
  refine (sound.register listener.name listener.query listener.params).mem_run ?_ ?_ kept live
  · refine List.mem_append_right _ (List.mem_singleton.mpr ?_)
    rw [hid]
  · rw [isHeld_register, hid, beq_self_eq_true, Bool.or_true]

theorem listens_of_mem {calls : List Call} (hmem : listener ∈ (empty.run calls).listeners)
    (held : (empty.run calls).isHeld listener.id = true) : Listens calls listener := by
  rcases empty_sound.registered_of_mem hmem with impossible | ⟨before, after, rfl, hid⟩
  · cases impossible
  have sound := (empty_sound.run before).register listener.name listener.query listener.params
  have given : listener.id < ((empty.run before).register listener.name listener.query
      listener.params).nextId := hid ▸ Nat.lt_succ_self _
  rw [run_append] at hmem held
  refine ⟨before, after, rfl, hid, fun unregistered => ?_, fun dropped => ?_⟩
  · exact sound.gone_of_unregister given unregistered (List.mem_map_of_mem hmem)
  · have unheld := sound.unheld_of_drop given dropped
    exact Bool.false_ne_true (unheld.symm.trans held)

/-- **The life of listeners.**  In every run the ids handed out are distinct.  Right after a
notification the listeners are exactly those that were registered, not unregistered, and whose
subscription was not dropped, whatever the evaluator answered.  Unregistering an id answers whether
a listener with it is there, and once it did so, never again in whatever follows.  And as long as
its subscription is held, a listener that was not unregistered is there.  Ids are natural numbers:
with a counter of 64 bits this is about runs that register fewer than `2 ^ 64` listeners. -/
theorem listener_lifecycle (calls : List Call) :
    (empty.issued calls).Nodup ∧
      (∀ evaluate previous current batch listener,
        listener ∈ (empty.run (calls ++ [.notify evaluate previous current batch])).listeners ↔
          Listens calls listener) ∧
      (∀ id, (empty.run calls).removes id = true ↔
        ∃ listener ∈ (empty.run calls).listeners, listener.id = id) ∧
      (∀ id later, (empty.run calls).removes id = true →
        (empty.run (calls ++ .unregister id :: later)).removes id = false) ∧
      ∀ listener, Listens calls listener → listener ∈ (empty.run calls).listeners := by
  have sound := empty_sound.run calls
  refine ⟨(empty_sound.issued_fresh calls).2, ?_, ?_, ?_, fun listener => ?_⟩
  · intro evaluate previous current batch listener
    rw [run_append]
    exact sound.mem_notify.trans ⟨fun h => listens_of_mem h.1 h.2, mem_of_listens⟩
  · intro id
    exact removes_iff.trans List.mem_map
  · intro id later removed
    obtain ⟨listener, hmem, rfl⟩ := List.mem_map.mp (removes_iff.mp removed)
    rw [run_append, Bool.eq_false_iff, ne_eq, removes_iff]
    exact sound.gone_of_unregister (sound.listener_lt listener hmem) List.mem_cons_self
  · exact fun listens => (mem_of_listens listens).1

end Registry

end DocumentStore
