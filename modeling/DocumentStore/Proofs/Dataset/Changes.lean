import Mathlib.Data.List.Basic
import DocumentStore.Proofs.Dataset.Ids
import DocumentStore.Proofs.Patch.Verdict

/-!
# What a batch is told to have changed

The answer to a batch compares the records before and after it.  What the mutations say decides it:
a record that was there stays the very same one until a mutation of the batch deletes its document
or writes it anew, and then it never comes back.

* `Dataset.Reachable` — the datasets that documents and mutations make.
* `Mutation.deletes`, `Mutation.creates`, `Mutation.revises` — what a mutation says of a document.
* `Rewrites` — a batch that writes a document anew.

Principal results: `apply_keeps_iff`, `reduce_keeps_iff` — when a mutation, and a whole batch, keeps
the very same record.  `rewrites_iff` — a document that is deleted and there again was created
again.  `diff_of_batch` — what the answer to a batch lists, and in which order.
-/

set_option autoImplicit false

namespace DocumentStore

/-- A dataset of documents, or what a mutation makes of such a dataset. -/
inductive Dataset.Reachable : Dataset → Prop
  | ofDocuments (docs : List Document) : Reachable (ofDocuments docs).1
  | apply {dataset next : Dataset} {tx : Transaction} {mutation : Mutation}
    (before : Reachable dataset) (applied : (dataset.apply tx mutation).result = .ok next) :
    Reachable next

namespace Mutation

/-- Whether a mutation takes the document with an id away. -/
def deletes (id : String) : Mutation → Bool
  | .delete (.ids selector) => selector.contains id
  | _ => false

/-- Whether a mutation stores a document with an id where there is none. -/
def creates (id : String) : Mutation → Bool
  | .create doc | .createIfNotExists doc | .createOrReplace doc => doc.id == id
  | _ => false

/-- Whether a mutation writes the document with an id anew where there is one. -/
def revises (id : String) : Mutation → Bool
  | .createOrReplace doc => doc.id == id
  | .patch edits => edits.id == id && !edits.operations.isEmpty
  | _ => false

end Mutation

/-- A batch writes a document anew: a mutation replaces it or patches it with an operation, or one
deletes it and a later one creates it again. -/
inductive Rewrites (id : String) (batch : List Mutation) : Prop
  | revised {mutation : Mutation} (member : mutation ∈ batch)
    (revises : mutation.revises id = true) : Rewrites id batch
  | recreated (before behind : List Mutation) {deletion creation : Mutation}
    (split : batch = before ++ deletion :: behind) (deletes : deletion.deletes id = true)
    (member : creation ∈ behind) (creates : creation.creates id = true) : Rewrites id batch

theorem Rewrites.cons {id : String} {rest : List Mutation} (h : Rewrites id rest)
    (mutation : Mutation) : Rewrites id (mutation :: rest) := by
  cases h with
  | revised member revises => exact .revised (List.mem_cons_of_mem _ member) revises
  | recreated before behind split deletes member creates =>
    exact .recreated (mutation :: before) behind (congrArg (mutation :: ·) split) deletes member
      creates

namespace Dataset

variable {dataset next : Dataset} {tx : Transaction} {id : String} {old : Record}

theorem Reachable.sound (reachable : dataset.Reachable) : dataset.Sound := by
  induction reachable with
  | ofDocuments docs => exact ofDocuments_sound docs
  | apply _ applied ih => exact (apply_effect applied).sound ih

theorem Reachable.reduce {batch : List Mutation} (reachable : dataset.Reachable)
    (reduced : (dataset.reduce tx batch).result = .ok next) : next.Reachable := by
  induction batch generalizing dataset with
  | nil => cases reduced; exact reachable
  | cons mutation rest ih =>
    obtain ⟨middle, applied, later⟩ := reduce_cons_ok reduced
    exact ih (reachable.apply applied) later

/-! ## One mutation -/

/-- **A mutation keeps the very same record** unless it says to delete the document or to write it
anew. -/
theorem apply_keeps_iff (sound : dataset.Sound) (found : dataset.get? id = some old)
    {mutation : Mutation} (h : (dataset.apply tx mutation).result = .ok next) :
    next.get? id = some old ↔ mutation.revises id = false ∧ mutation.deletes id = false := by
  have given : old.stamp < dataset.nextStamp := sound.stamp_lt old (mem_of_findRecord found).1
  have anew (doc : Document) : ¬ some (⟨dataset.nextStamp, doc⟩ : Record) = some old := by
    intro same
    cases same
    exact Nat.lt_irrefl _ given
  have appended (doc : Document) : (dataset.append doc).get? id = some old := by
    rw [get?_append, found, Option.some_or]
  cases mutation with
  | create doc | createIfNotExists doc =>
    simp only [Mutation.revises, Mutation.deletes, and_self, iff_true]
    simp only [apply] at h
    split at h
    · cases h; exact found
    · cases h; exact appended _
  | createOrReplace doc =>
    simp only [Mutation.revises, Mutation.deletes, beq_eq_false_iff_ne, and_true]
    simp only [apply] at h
    split at h
    · rename_i place hplace
      cases h
      rw [get?_writeAt sound.ids_nodup hplace (show (doc.created tx).id = doc.id from rfl)]
      by_cases hid : doc.id = id
      · simp [hid, anew]
      · simp [hid, found]
    · rename_i missing
      cases h
      have hid : doc.id ≠ id := by
        rintro rfl
        exact position?_eq_none_iff.mp missing (mem_ids_of_get? found)
      simp [hid, appended]
  | delete selection =>
    simp only [Mutation.revises, true_and]
    cases selection with
    | ids selector =>
      cases h
      rw [get?_remove sound.ids_nodup, Mutation.deletes]
      cases selector.contains id <;> simp [found]
    | query _ _ =>
      cases h
      simp [Mutation.deletes, found]
  | patch edits =>
    simp only [Mutation.revises, Mutation.deletes, and_true, Bool.and_eq_false_iff,
      beq_eq_false_iff_ne, Bool.not_eq_false', List.isEmpty_iff]
    simp only [apply] at h
    split at h
    · rename_i place record hplace hrecord
      obtain ⟨-, hid⟩ := mem_of_findRecord hrecord
      have hdoc : record.document.id = edits.id := hid
      rw [Logged.result_bind] at h
      obtain ⟨revised, hreduce, h⟩ := bind_eq_ok.mp h
      cases revised with
      | none =>
        cases h
        have idle := reduce_eq_none_iff.mp hreduce
        rw [hdoc] at idle
        have empty : edits.operations = [] := idle.resolve_left (fun other => other rfl)
        simp [found, empty]
      | some doc =>
        cases h
        have busy := Patch.busy_of_reduce (by rw [hreduce]; rintro ⟨⟩)
        rw [get?_writeAt sound.ids_nodup hplace ((Patch.reduce_spec hreduce).1.trans hdoc)]
        by_cases same : edits.id = id
        · simp [same, anew, busy.2]
        · simp [same, found]
    · rename_i missing
      cases h
      have other : edits.id ≠ id := by
        rintro rfl
        obtain ⟨place, hplace⟩ :=
          Option.isSome_iff_exists.mp (contains_iff.mpr (mem_ids_of_get? found))
        exact missing place old hplace found
      simp [found, other]

/-- An id is there after a mutation that does not create it only when it was there before, and was
not deleted. -/
theorem mem_ids_of_apply {mutation : Mutation}
    (h : (dataset.apply tx mutation).result = .ok next) (there : id ∈ next.ids) :
    mutation.creates id = true ∨ (id ∈ dataset.ids ∧ mutation.deletes id = false) := by
  rw [apply_ids h, IdChange.mem_after] at there
  rcases there with appended | ⟨before, kept⟩
  · left
    cases mutation with
    | create doc | createIfNotExists doc | createOrReplace doc =>
      simp only [idChange] at appended
      split at appended
      · cases appended
      · exact appended
    | delete selection => cases selection <;> cases appended
    | patch _ => cases appended
  · refine .inr ⟨before, ?_⟩
    cases mutation with
    | delete selection =>
      cases selection with
      | ids selector =>
        simpa [idChange, IdChange.removes, List.mem_filter, before, Mutation.deletes] using kept
      | query _ _ => rfl
    | _ => rfl

/-! ## Batches -/

/-- A record that is there after mutations was there before them, unless they wrote it. -/
theorem get?_of_later (sound : dataset.Sound) (written : dataset.WrittenBy tx next)
    (given : old.stamp < dataset.nextStamp) (later : next.get? id = some old) :
    dataset.get? id = some old := by
  obtain ⟨member, rfl⟩ := mem_of_findRecord later
  rcases written.origin old member with before | ⟨fresh, -⟩
  · exact get?_of_mem sound.ids_nodup before
  · omega

/-- **A batch keeps the very same record** unless one of its mutations says to delete the document
or to write it anew. -/
theorem reduce_keeps_iff {batch : List Mutation} (sound : dataset.Sound)
    (found : dataset.get? id = some old) (h : (dataset.reduce tx batch).result = .ok next) :
    next.get? id = some old ↔
      ∀ mutation ∈ batch, mutation.revises id = false ∧ mutation.deletes id = false := by
  induction batch generalizing dataset with
  | nil =>
    cases h
    simp [found]
  | cons mutation rest ih =>
    obtain ⟨middle, applied, later⟩ := reduce_cons_ok h
    have sound' : middle.Sound := (apply_effect applied).sound sound
    rw [List.forall_mem_cons, ← apply_keeps_iff sound found applied]
    constructor
    · intro last
      have given : old.stamp < middle.nextStamp :=
        Nat.lt_of_lt_of_le (sound.stamp_lt old (mem_of_findRecord found).1)
          (apply_effect applied).writtenBy.nextStamp_le
      have kept : middle.get? id = some old :=
        get?_of_later sound' (reduce_writtenBy later) given last
      exact ⟨kept, (ih sound' kept later).mp last⟩
    · rintro ⟨kept, others⟩
      exact (ih sound' kept later).mpr others

theorem exists_creation {batch : List Mutation} (missing : id ∉ dataset.ids)
    (h : (dataset.reduce tx batch).result = .ok next) (there : id ∈ next.ids) :
    ∃ mutation ∈ batch, mutation.creates id = true := by
  induction batch generalizing dataset with
  | nil =>
    cases h
    exact absurd there missing
  | cons mutation rest ih =>
    obtain ⟨middle, applied, later⟩ := reduce_cons_ok h
    by_cases present : id ∈ middle.ids
    · rcases mem_ids_of_apply applied present with creates | ⟨before, -⟩
      · exact ⟨mutation, List.mem_cons_self, creates⟩
      · exact absurd before missing
    · obtain ⟨creation, member, creates⟩ := ih present later
      exact ⟨creation, List.mem_cons_of_mem _ member, creates⟩

theorem not_mem_ids_of_deletes {mutation : Mutation} (deletes : mutation.deletes id = true)
    (h : (dataset.apply tx mutation).result = .ok next) : id ∉ next.ids := by
  intro there
  rcases mem_ids_of_apply h there with creates | ⟨-, kept⟩
  · cases mutation <;> first | cases creates | cases deletes
  · rw [deletes] at kept
    cases kept

/-- **A document that is there after a batch was written anew by it** when a mutation says to write
it anew or to delete it: once deleted, it can only be there because it was created again. -/
theorem rewrites_iff {batch : List Mutation} (h : (dataset.reduce tx batch).result = .ok next)
    (there : id ∈ next.ids) : Rewrites id batch ↔
      ∃ mutation ∈ batch, mutation.revises id = true ∨ mutation.deletes id = true := by
  constructor
  · rintro (⟨member, revises⟩ | ⟨before, behind, rfl, deletes, -, -⟩)
    · exact ⟨_, member, .inl revises⟩
    · exact ⟨_, List.mem_append_right _ List.mem_cons_self, .inr deletes⟩
  · rintro ⟨mutation, member, revises | deletes⟩
    · exact .revised member revises
    · induction batch generalizing dataset with
      | nil => cases member
      | cons first rest ih =>
        obtain ⟨middle, applied, later⟩ := reduce_cons_ok h
        rcases List.mem_cons.mp member with rfl | member
        · have gone : id ∉ middle.ids := not_mem_ids_of_deletes deletes applied
          obtain ⟨creation, created, creates⟩ := exists_creation gone later there
          exact .recreated [] rest rfl deletes created creates
        · exact (ih later member).cons first

/-! ## The answer -/

section
variable {previous : Dataset}

theorem filter_ids (dataset : Dataset) (p : String → Bool) :
    dataset.ids.filter p = (dataset.records.filter (fun record => p record.id)).map Record.id :=
  List.filter_map

/-- **The answer to a batch, id by id**: what was written, in the order of the later dataset, and
then what is gone, in the order of the earlier one. -/
theorem diff_eq (sound : previous.Sound) (sound' : next.Sound)
    (written : previous.WrittenBy tx next) :
    previous.diff next =
      (next.ids.filter (fun id => previous.get? id ≠ next.get? id)).map
          (fun id => ⟨id, if id ∈ previous.ids then .update else .create⟩) ++
        (previous.ids.filter (fun id => id ∉ next.ids)).map (fun id => ⟨id, .delete⟩) := by
  have told : next.records.filterMap (changeOf? previous) =
      (next.ids.filter (fun id => previous.get? id ≠ next.get? id)).map
        (fun id => ⟨id, if id ∈ previous.ids then .update else .create⟩) := by
    rw [filter_ids, List.map_map, ← List.filterMap_eq_map, List.filterMap_filter]
    refine List.filterMap_congr (fun record member => ?_)
    have later : next.get? record.id = some record := get?_of_mem sound'.ids_nodup member
    rw [changeOf?_eq sound written member]
    by_cases kept : previous.get? record.id = some record <;> simp [kept, later]
  have gone : previous.records.filter (fun record => !next.contains record.id) =
      previous.records.filter (fun record => record.id ∉ next.ids) := by
    refine List.filter_congr (fun record _ => ?_)
    rw [Bool.eq_iff_iff, Bool.not_eq_true', contains_eq_false_iff, decide_eq_true_iff]
  unfold diff
  rw [told, gone, filter_ids previous, List.map_map]
  rfl

theorem ids_diff (sound : previous.Sound) (sound' : next.Sound)
    (written : previous.WrittenBy tx next) :
    (previous.diff next).map Change.id =
      next.ids.filter (fun id => previous.get? id ≠ next.get? id) ++
        previous.ids.filter (fun id => id ∉ next.ids) := by
  rw [diff_eq sound sound' written, List.map_append, List.map_map, List.map_map]
  exact congrArg₂ (· ++ ·) (List.map_id _) (List.map_id _)

theorem nodup_ids_diff (sound : previous.Sound) (sound' : next.Sound)
    (written : previous.WrittenBy tx next) : ((previous.diff next).map Change.id).Nodup := by
  rw [ids_diff sound sound' written]
  refine List.nodup_append.mpr ⟨sound'.ids_nodup.filter _, sound.ids_nodup.filter _, ?_⟩
  intro id hwritten other hgone same
  have there : id ∈ next.ids := (List.mem_filter.mp hwritten).1
  have missing : other ∉ next.ids := of_decide_eq_true (List.mem_filter.mp hgone).2
  exact missing (same ▸ there)

theorem mem_diff_iff (sound : previous.Sound) (sound' : next.Sound)
    (written : previous.WrittenBy tx next) {kind : ChangeKind} :
    (⟨id, kind⟩ : Change) ∈ previous.diff next ↔
      (id ∈ next.ids ∧ previous.get? id ≠ next.get? id ∧
        kind = if id ∈ previous.ids then .update else .create) ∨
      (id ∈ previous.ids ∧ id ∉ next.ids ∧ kind = .delete) := by
  rw [diff_eq sound sound' written, List.mem_append, List.mem_map, List.mem_map]
  simp only [List.mem_filter, decide_eq_true_eq, Change.mk.injEq]
  constructor
  · rintro (⟨_, ⟨there, changed⟩, rfl, rfl⟩ | ⟨_, ⟨before, gone⟩, rfl, rfl⟩)
    · exact .inl ⟨there, changed, rfl⟩
    · exact .inr ⟨before, gone, rfl⟩
  · rintro (⟨there, changed, rfl⟩ | ⟨before, gone, rfl⟩)
    · exact .inl ⟨id, ⟨there, changed⟩, rfl, rfl⟩
    · exact .inr ⟨id, ⟨before, gone⟩, rfl, rfl⟩

theorem create_mem_diff_iff (sound : previous.Sound) (sound' : next.Sound)
    (written : previous.WrittenBy tx next) :
    (⟨id, .create⟩ : Change) ∈ previous.diff next ↔ id ∈ next.ids ∧ id ∉ previous.ids := by
  rw [mem_diff_iff sound sound' written]
  constructor
  · rintro (⟨there, -, told⟩ | ⟨-, -, told⟩)
    · refine ⟨there, fun before => ?_⟩
      rw [if_pos before] at told
      cases told
    · cases told
  · rintro ⟨there, missing⟩
    refine .inl ⟨there, ?_, (if_neg missing).symm⟩
    rw [get?_eq_none_iff.mpr missing]
    exact fun none => get?_eq_none_iff.mp none.symm there

theorem update_mem_diff_iff (sound : previous.Sound) (sound' : next.Sound)
    (written : previous.WrittenBy tx next) :
    (⟨id, .update⟩ : Change) ∈ previous.diff next ↔
      id ∈ next.ids ∧ id ∈ previous.ids ∧ previous.get? id ≠ next.get? id := by
  rw [mem_diff_iff sound sound' written]
  constructor
  · rintro (⟨there, changed, told⟩ | ⟨-, -, told⟩)
    · refine ⟨there, ?_, changed⟩
      by_contra missing
      rw [if_neg missing] at told
      cases told
    · cases told
  · rintro ⟨there, before, changed⟩
    exact .inl ⟨there, changed, (if_pos before).symm⟩

theorem delete_mem_diff_iff (sound : previous.Sound) (sound' : next.Sound)
    (written : previous.WrittenBy tx next) :
    (⟨id, .delete⟩ : Change) ∈ previous.diff next ↔ id ∈ previous.ids ∧ id ∉ next.ids := by
  rw [mem_diff_iff sound sound' written]
  constructor
  · rintro (⟨-, -, told⟩ | ⟨before, gone, -⟩)
    · split at told <;> cases told
    · exact ⟨before, gone⟩
  · rintro ⟨before, gone⟩
    exact .inr ⟨before, gone, rfl⟩

theorem get?_eq_iff_same (sound : previous.Sound) (written : previous.WrittenBy tx next)
    {old new : Record} (found : previous.get? id = some old) (found' : next.get? id = some new) :
    old.same new = true ↔ old = new := by
  constructor
  · intro same
    obtain ⟨member, hid⟩ := mem_of_findRecord found'
    rw [← hid] at found
    have kept := get?_of_same sound written member found same
    rw [found, Option.some.injEq] at kept
    exact kept
  · rintro rfl
    exact beq_self_eq_true _

/-- A document that is there before and after a batch has another record exactly when the batch
writes it anew. -/
theorem changed_iff_rewrites {batch : List Mutation} (sound : previous.Sound)
    (reduced : (previous.reduce tx batch).result = .ok next) (before : id ∈ previous.ids)
    (there : id ∈ next.ids) : previous.get? id ≠ next.get? id ↔ Rewrites id batch := by
  obtain ⟨old, found⟩ : ∃ old, previous.get? id = some old :=
    Option.ne_none_iff_exists'.mp (fun missing => get?_eq_none_iff.mp missing before)
  rw [found, ne_comm, ne_eq, reduce_keeps_iff sound found reduced, rewrites_iff reduced there]
  simp only [not_forall, Classical.not_and_iff_not_or_not, Bool.not_eq_false, exists_prop]

end

/-- **What the answer to a batch lists.**  No id is listed twice.  First stand, in the order of the
later dataset, the documents that are new and those whose record is another one; then, in the order
of the earlier dataset, those that are gone.  A document that is there before and after is listed
as updated exactly when its record is not the very same, and exactly when a mutation of the batch
wrote it anew; where it is not listed it is the very same record.  Whatever is listed as created or
updated carries the transaction. -/
theorem diff_of_batch {previous next : Dataset} {tx : Transaction} {batch : List Mutation}
    (reachable : previous.Reachable) (reduced : (previous.reduce tx batch).result = .ok next) :
    let changes := previous.diff next
    (changes.map Change.id).Nodup ∧
      changes.map Change.id =
        next.ids.filter (fun id => previous.get? id ≠ next.get? id) ++
          previous.ids.filter (fun id => id ∉ next.ids) ∧
      (∀ id,
        ((⟨id, .create⟩ : Change) ∈ changes ↔ id ∈ next.ids ∧ id ∉ previous.ids) ∧
        ((⟨id, .update⟩ : Change) ∈ changes ↔
          id ∈ next.ids ∧ id ∈ previous.ids ∧ Rewrites id batch) ∧
        ((⟨id, .delete⟩ : Change) ∈ changes ↔ id ∈ previous.ids ∧ id ∉ next.ids) ∧
        ∀ old new, previous.get? id = some old → next.get? id = some new →
          ((⟨id, .update⟩ : Change) ∈ changes ↔ old.same new = false) ∧
            (id ∉ changes.map Change.id → old.same new = true ∧ old = new)) ∧
      ∀ change ∈ changes, change.kind ≠ .delete →
        ∃ record, next.get? change.id = some record ∧ record.document.rev? = some tx.id := by
  intro changes
  have sound : previous.Sound := reachable.sound
  have sound' : next.Sound := reduce_sound sound reduced
  have written : previous.WrittenBy tx next := reduce_writtenBy reduced
  refine ⟨nodup_ids_diff sound sound' written, ids_diff sound sound' written, fun id => ?_,
    fun change member => written_of_mem_diff sound sound' written member⟩
  have updated : (⟨id, .update⟩ : Change) ∈ changes ↔
      id ∈ next.ids ∧ id ∈ previous.ids ∧ previous.get? id ≠ next.get? id :=
    update_mem_diff_iff sound sound' written
  refine ⟨create_mem_diff_iff sound sound' written, ?_, delete_mem_diff_iff sound sound' written,
    ?_⟩
  · rw [updated]
    refine and_congr_right (fun there => and_congr_right (fun before => ?_))
    exact changed_iff_rewrites sound reduced before there
  · intro old new found found'
    have there : id ∈ next.ids := mem_ids_of_get? found'
    have before : id ∈ previous.ids := mem_ids_of_get? found
    have same_iff : old.same new = true ↔ old = new := get?_eq_iff_same sound written found found'
    have told : (⟨id, .update⟩ : Change) ∈ changes ↔ old.same new = false := by
      rw [updated, found, found', ← Bool.not_eq_true, same_iff]
      simp [there, before]
    refine ⟨told, fun unlisted => ?_⟩
    have same : old.same new = true := by
      by_contra different
      exact unlisted (List.mem_map_of_mem (told.mpr (Bool.not_eq_true _ ▸ different)))
    exact ⟨same, same_iff.mp same⟩

/-- Of four documents one is deleted and created again, one patched without an operation, one
deleted and one new. -/
theorem diff_of_batch_rooms :
    let fan : Document := ⟨[("_id", .string "fan")], "fan", rfl⟩
    let lamp : Document := ⟨[("_id", .string "lamp")], "lamp", rfl⟩
    let hall : Document := ⟨[("_id", .string "hall")], "hall", rfl⟩
    let desk : Document := ⟨[("_id", .string "desk")], "desk", rfl⟩
    let previous := (ofDocuments [hall, lamp, fan]).1
    let batch : List Mutation := [.delete (.ids (.many ["lamp", "hall"])), .create lamp,
      .patch (.empty "fan"), .create desk]
    ∃ next, previous.Reachable ∧ (previous.reduce ⟨"swap", "1"⟩ batch).result = .ok next ∧
      (previous.diff next).map Change.id = ["lamp", "desk", "hall"] ∧
      (⟨"lamp", .update⟩ : Change) ∈ previous.diff next ∧
      (⟨"desk", .create⟩ : Change) ∈ previous.diff next ∧
      (⟨"hall", .delete⟩ : Change) ∈ previous.diff next ∧
      ∃ record, next.get? "desk" = some record ∧ record.document.rev? = some "swap" := by
  intro fan lamp hall desk previous batch
  obtain ⟨next, reduced, hids⟩ : ∃ next, (previous.reduce ⟨"swap", "1"⟩ batch).result = .ok next ∧
      next.ids = ["fan", "lamp", "desk"] := ⟨_, rfl, rfl⟩
  have reachable : previous.Reachable := .ofDocuments [hall, lamp, fan]
  obtain ⟨-, order, kinds, stamped⟩ := diff_of_batch reachable reduced
  have rewritten : Rewrites "lamp" batch :=
    .recreated [] _ rfl (by decide) List.mem_cons_self (by decide)
  have lampUpdated := (kinds "lamp").2.1.mpr ⟨by simp [hids], by decide, rewritten⟩
  have deskCreated := (kinds "desk").1.mpr ⟨by simp [hids], by decide⟩
  have hallDeleted := (kinds "hall").2.2.1.mpr ⟨by decide, by simp [hids]⟩
  refine ⟨next, reachable, reduced, ?_, lampUpdated, deskCreated, hallDeleted,
    stamped _ deskCreated (by decide)⟩
  cases reduced
  exact order.trans (by decide)

end Dataset

end DocumentStore
