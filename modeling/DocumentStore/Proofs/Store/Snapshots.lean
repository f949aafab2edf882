import DocumentStore.Proofs.Dataset.Changes
import DocumentStore.Proofs.Store.Runs

/-!
# The snapshots of a run

What holds of the dataset of a new store, and of the dataset that a successful batch leads to, holds
of every snapshot of a run.  Two things are read off this: the ids of a snapshot are in order, and
the identity of a record tells whether its document was touched.

* `Dataset.Sound` along a run: `dataset_sound_run`, for any evaluator.
* `Commit.lists` — whether the answer to a committed batch lists an id.

Principal results: `ids_run` — ids are distinct and not empty in every state, and a batch keeps and
appends ids in order.  `same_record_iff` — two snapshots hold the very same record of a document
exactly when no answer between them lists it.
-/

set_option autoImplicit false

namespace DocumentStore

/-- Whether the answer to a committed batch lists an id. -/
def Commit.lists (commit : Commit) (id : String) : Prop := id ∈ commit.changes.map Change.id

/-! ## One batch -/

section
variable {previous current : Dataset} {tx : Transaction} {id : String}

theorem get?_of_not_listed (sound : previous.Sound) (written : previous.WrittenBy tx current)
    (unlisted : id ∉ (previous.diff current).map Change.id) :
    current.get? id = previous.get? id := by
  cases hc : current.get? id with
  | none =>
    cases hp : previous.get? id with
    | none => rfl
    | some old =>
      -- The document is gone, so the answer lists its deletion.
      obtain ⟨member, rfl⟩ := mem_of_findRecord hp
      have gone : current.contains old.id = false :=
        Dataset.contains_eq_false_iff.mpr (findRecord_eq_none_iff.mp hc)
      have hold : old ∈ previous.records.filter (fun record => !current.contains record.id) :=
        List.mem_filter.mpr ⟨member, by simp [gone]⟩
      have listed : (⟨old.id, .delete⟩ : Change) ∈ previous.diff current :=
        List.mem_append_right _ (List.mem_map_of_mem hold)
      exact absurd (List.mem_map_of_mem listed) unlisted
  | some record =>
    obtain ⟨member, rfl⟩ := mem_of_findRecord hc
    by_cases kept : previous.get? record.id = some record
    · exact kept.symm
    · obtain ⟨kind, _, hchange⟩ := changeOf?_changed sound written member kept
      have listed : (⟨record.id, kind⟩ : Change) ∈ previous.diff current :=
        List.mem_append_left _ (List.mem_filterMap.mpr ⟨record, member, hchange⟩)
      exact absurd (List.mem_map_of_mem listed) unlisted

theorem stamp_of_listed (sound : previous.Sound) (sound' : current.Sound)
    (written : previous.WrittenBy tx current) (listed : id ∈ (previous.diff current).map Change.id)
    {record : Record} (found : current.get? id = some record) :
    previous.nextStamp ≤ record.stamp := by
  obtain ⟨change, member, rfl⟩ := List.mem_map.mp listed
  rcases List.mem_append.mp member with member | member
  · obtain ⟨changed, hr, hchange⟩ := List.mem_filterMap.mp member
    have heq : changed = record := by
      have := Dataset.get?_of_mem sound'.ids_nodup hr
      rw [← changeOf?_id hchange, found] at this
      exact (Option.some.inj this).symm
    subst heq
    rcases written.origin changed hr with before | ⟨fresh, _⟩
    · -- A record that was there before is not listed.
      rw [changeOf?_unchanged (Dataset.get?_of_mem sound.ids_nodup before)] at hchange
      cases hchange
    · exact fresh
  · obtain ⟨old, hold, rfl⟩ := List.mem_map.mp member
    have gone := (List.mem_filter.mp hold).2
    have there : current.contains old.id = true := by
      obtain ⟨hmem, hid⟩ := mem_of_findRecord found
      have hids : record.id ∈ current.ids := List.mem_map_of_mem hmem
      rw [hid] at hids
      exact Dataset.contains_iff.mpr hids
    simp [there] at gone

end

namespace Store

variable {store : Store} {id : String}

/-! ## Runs -/

/-- What every successful batch keeps holds of the dataset of a run when it holds at the start. -/
theorem dataset_run {P : Dataset → Prop}
    (kept : ∀ dataset tx mutations next, P dataset →
      (Dataset.reduce dataset tx mutations).result = .ok next → P next) :
    ∀ (actions : List Action) {store : Store}, P store.dataset → P (store.run actions).dataset
  | [], _, holds => holds
  | action :: rest, store, holds => by
    refine dataset_run kept rest ?_
    cases hc : store.committed? action with
    | none => rw [(step_uncommitted hc).1]; exact holds
    | some commit =>
      rw [(step_committed hc).1]
      obtain ⟨tx, mutations, next, _, reduced, _, rfl⟩ := committed?_eq_some hc
      exact kept _ _ _ _ holds reduced

theorem dataset_sound_run (sound : store.dataset.Sound) (actions : List Action) :
    (store.run actions).dataset.Sound :=
  dataset_run (fun _ _ _ _ hs reduced => Dataset.reduce_sound hs reduced) actions sound

theorem new_sound (config : Config) (evaluator : Evaluator) (docs : List Document) :
    (Store.new config evaluator docs).1.dataset.Sound := Dataset.ofDocuments_sound docs

theorem dataset_mutate {tx : Transaction} {mutations : List Mutation} {result : MutationResult}
    (h : (store.mutate tx mutations).2.result = .ok result) :
    (store.dataset.reduce tx mutations).result = .ok (store.mutate tx mutations).1.dataset := by
  obtain ⟨next, reduced, _⟩ := mutate_ok_inv h
  rw [mutate_of_ok reduced]
  exact reduced

/-- **The ids of a dataset.**  They are distinct and not empty in every state of a store, and in
every state that mutations applied one by one lead to, also when some of them fail.  After a batch
that succeeds they are those from before that no mutation removed, in their order, and then those
that the batch appended and did not remove again, in the order of their last append. -/
theorem ids_run (config : Config) (evaluator : Evaluator) (docs : List Document)
    (actions : List Action) (calls : List (Transaction × Mutation)) :
    let last := (Store.new config evaluator docs).1.run actions
    ProperIds last.dataset.ids ∧
      ProperIds ((Dataset.ofDocuments docs).1.applyEach calls).ids ∧
      (∀ dataset tx batch next, (Dataset.reduce dataset tx batch).result = .ok next →
        let changes := dataset.idChanges tx batch
        next.ids = dataset.ids.filter (fun id => !changes.any (IdChange.removes id)) ++
          standing changes) ∧
      ∀ tx batch result, (last.mutate tx batch).2.result = .ok result →
        let changes := last.dataset.idChanges tx batch
        (last.mutate tx batch).1.dataset.ids =
          last.dataset.ids.filter (fun id => !changes.any (IdChange.removes id)) ++
            standing changes := by
  intro last
  have start : (Dataset.ofDocuments docs).1.ids.Nodup := (Dataset.ofDocuments_sound docs).ids_nodup
  have sound : last.dataset.Sound := dataset_sound_run (new_sound config evaluator docs) actions
  refine ⟨Dataset.properIds_of_nodup sound.ids_nodup,
    Dataset.properIds_of_nodup (Dataset.applyEach_nodup calls start),
    fun dataset tx batch next reduced => Dataset.reduce_ids reduced,
    fun tx batch result answered => Dataset.reduce_ids (dataset_mutate answered)⟩

/-- A lamp that is taken away and put back stands behind the fan stored in between. -/
theorem ids_run_lamps :
    let fan : Document := ⟨[("_id", .string "fan")], "fan", rfl⟩
    let batch := [.delete (.ids (.one "lamp")), .create fan, .create (lamp true)]
    let answer := lamps.mutate ⟨"swap", "1"⟩ batch
    lamps.dataset.ids = ["lamp"] ∧ (∃ result, answer.2.result = .ok result) ∧
      ProperIds answer.1.dataset.ids ∧ answer.1.dataset.ids = ["fan", "lamp"] := by
  intro fan batch answer
  obtain ⟨result, answered⟩ : ∃ result, answer.2.result = .ok result := ⟨_, rfl⟩
  have swapped := ids_run .default Evaluator.filter [lamp true] [.mutate ⟨"swap", "1"⟩ batch] []
  have start := ids_run .default Evaluator.filter [lamp true] [] []
  have ids : answer.1.dataset.ids = ["fan", "lamp"] := start.2.2.2 _ batch result answered
  exact ⟨rfl, ⟨result, answered⟩, swapped.1, ids⟩

/-! ## Identity -/

theorem nextStamp_le_run : ∀ (actions : List Action) (store : Store),
    store.dataset.nextStamp ≤ (store.run actions).dataset.nextStamp
  | [], _ => Nat.le_refl _
  | action :: rest, store => by
    refine Nat.le_trans ?_ (nextStamp_le_run rest (store.step action))
    cases hc : store.committed? action with
    | none => exact Nat.le_of_eq (congrArg Dataset.nextStamp (step_uncommitted hc).1.symm)
    | some commit =>
      rw [(step_committed hc).1]
      obtain ⟨tx, mutations, next, _, reduced, _, rfl⟩ := committed?_eq_some hc
      exact (Dataset.reduce_writtenBy reduced).nextStamp_le

theorem get?_step (sound : store.dataset.Sound) (action : Action)
    (unlisted : ∀ commit ∈ (store.committed? action).toList, ¬ commit.lists id) :
    (store.step action).dataset.get? id = store.dataset.get? id := by
  cases hc : store.committed? action with
  | none => rw [(step_uncommitted hc).1]
  | some commit =>
    rw [(step_committed hc).1]
    have none := unlisted commit (by simp [hc])
    obtain ⟨tx, mutations, next, _, reduced, _, rfl⟩ := committed?_eq_some hc
    exact get?_of_not_listed sound (Dataset.reduce_writtenBy reduced) none

theorem stamp_step (sound : store.dataset.Sound) {action : Action}
    (listed : ∃ commit ∈ (store.committed? action).toList, commit.lists id) {record : Record}
    (found : (store.step action).dataset.get? id = some record) :
    store.dataset.nextStamp ≤ record.stamp := by
  obtain ⟨commit, member, hlisted⟩ := listed
  have hc := Option.mem_toList.mp member
  rw [(step_committed hc).1] at found
  obtain ⟨tx, mutations, next, _, reduced, _, rfl⟩ := committed?_eq_some hc
  exact stamp_of_listed sound (Dataset.reduce_sound sound reduced)
    (Dataset.reduce_writtenBy reduced) hlisted found

theorem get?_run : ∀ (actions : List Action) {store : Store}, store.dataset.Sound →
    (∀ commit ∈ store.commits actions, ¬ commit.lists id) →
    (store.run actions).dataset.get? id = store.dataset.get? id
  | [], _, _, _ => rfl
  | action :: rest, store, sound, unlisted => by
    have hsound : (store.step action).dataset.Sound := dataset_sound_run sound [action]
    have hrest := get?_run rest hsound
      (fun commit hc => unlisted commit (List.mem_append_right _ hc))
    exact hrest.trans (get?_step sound action
      (fun commit hc => unlisted commit (List.mem_append_left _ hc)))

/-- A document that some answer of a run lists, and that is there at the end, has a record with a
stamp that was not given at the start. -/
theorem stamp_run : ∀ (actions : List Action) {store : Store}, store.dataset.Sound →
    (∃ commit ∈ store.commits actions, commit.lists id) →
    ∀ {record : Record}, (store.run actions).dataset.get? id = some record →
      store.dataset.nextStamp ≤ record.stamp
  | action :: rest, store, sound, listed, record, found => by
    have sound' : (store.step action).dataset.Sound := dataset_sound_run sound [action]
    by_cases later : ∃ commit ∈ (store.step action).commits rest, commit.lists id
    · exact Nat.le_trans (nextStamp_le_run [action] store) (stamp_run rest sound' later found)
    · -- Only the first call lists the document, so the record at the end is the one it left.
      have first : ∃ commit ∈ (store.committed? action).toList, commit.lists id := by
        obtain ⟨commit, member, hlisted⟩ := listed
        rcases List.mem_append.mp member with member | member
        · exact ⟨commit, member, hlisted⟩
        · exact absurd ⟨commit, member, hlisted⟩ later
      refine stamp_step sound first ?_
      rw [← get?_run rest sound' (fun commit hc hl => later ⟨commit, hc, hl⟩)]
      exact found

/-- **Identity tells whether a document was touched.**  Of two snapshots of a run that both have a
document, the later one holds the very same record as the earlier one exactly when no answer in
between lists the document; then the record has the same contents, too.  Once it is listed, whatever
stands under its id is none of the records of the earlier snapshot. -/
theorem same_record_iff (config : Config) (evaluator : Evaluator) (docs : List Document)
    (before between : List Action) {old new : Record} :
    let earlier := (Store.new config evaluator docs).1.run before
    let later := earlier.run between
    earlier.dataset.get? id = some old → later.dataset.get? id = some new →
      (old.same new = true ↔ ∀ commit ∈ earlier.commits between, ¬ commit.lists id) ∧
        (old.same new = true → old = new) ∧
        ((∃ commit ∈ earlier.commits between, commit.lists id) →
          ∀ record ∈ earlier.dataset.records, record.same new = false) := by
  intro earlier later found found'
  have sound : earlier.dataset.Sound := dataset_sound_run (new_sound config evaluator docs) before
  have untouched (unlisted : ∀ commit ∈ earlier.commits between, ¬ commit.lists id) :
      old = new := by
    have kept := get?_run between sound unlisted
    rw [found] at kept
    exact Option.some.inj (kept.symm.trans found')
  have touched (listed : ∃ commit ∈ earlier.commits between, commit.lists id) :
      ∀ record ∈ earlier.dataset.records, record.same new = false := by
    intro record member
    have fresh := stamp_run between sound listed found'
    have given := sound.stamp_lt record member
    simp only [Record.same, beq_eq_false_iff_ne]
    omega
  have unlisted_of_same (same : old.same new = true) :
      ∀ commit ∈ earlier.commits between, ¬ commit.lists id := by
    intro commit member hlisted
    rw [touched ⟨commit, member, hlisted⟩ old (mem_of_findRecord found).1] at same
    cases same
  refine ⟨⟨unlisted_of_same, fun unlisted => ?_⟩, fun same => untouched (unlisted_of_same same),
    touched⟩
  rw [untouched unlisted]
  exact beq_self_eq_true _

/-- A lamp that is taken away and put back, twice alike, is another record with the same content. -/
theorem same_record_iff_lamps :
    let swap := [.mutate ⟨"swap", "1"⟩ [.delete (.ids (.one "lamp")), .create (lamp true)]]
    let old : Record := ⟨1, (lamp true).created ⟨"swap", "1"⟩⟩
    let new : Record := ⟨2, (lamp true).created ⟨"swap", "1"⟩⟩
    let earlier := lamps.run swap
    let later := earlier.run swap
    earlier.dataset.get? "lamp" = some old ∧ later.dataset.get? "lamp" = some new ∧
      (old.same new = true ↔ ∀ commit ∈ earlier.commits swap, ¬ commit.lists "lamp") ∧
      old.same new = false ∧ old.document = new.document := by
  intro swap old new earlier later
  have found : earlier.dataset.get? "lamp" = some old := rfl
  have found' : later.dataset.get? "lamp" = some new := rfl
  have identity := same_record_iff .default Evaluator.filter [lamp true] swap swap found found'
  exact ⟨found, found', identity.1, rfl, rfl⟩

end Store

end DocumentStore
