import DocumentStore.Proofs.Dataset.Writes

/-!
# The ids of a dataset

What a mutation does to the list of ids is said without looking at documents: it keeps the list,
puts one id behind it, or takes ids out.  The ids after a whole batch follow from these changes.

* `ProperIds` — ids that are distinct and not empty.
* `IdChange`, `Dataset.idChange`, `Dataset.idChanges` — what a mutation, and each mutation of a
  batch, does to the ids.
* `standing` — the ids appended for good, in the order of their last append.
* `Dataset.applyEach` — mutations one by one, those that fail passed over.

Principal results: `apply_ids` — a mutation changes the ids as `idChange` says.  `reduce_ids` — a
batch that succeeds keeps the ids that none of its mutations removed, and appends the standing ones.
`properIds_of_nodup`, `applyEach_nodup` — ids stay distinct, and are never empty.
-/

set_option autoImplicit false

namespace DocumentStore

/-- Ids that are distinct and not empty. -/
structure ProperIds (ids : List String) : Prop where
  nonempty : ∀ id ∈ ids, id ≠ ""
  nodup : ids.Nodup

/-- What a mutation does to the ids of a dataset. -/
inductive IdChange where
  | kept
  | appended (id : String)
  | removed (gone : List String)

namespace IdChange

/-- The ids after a change. -/
def after (ids : List String) : IdChange → List String
  | .kept => ids
  | .appended id => ids ++ [id]
  | .removed gone => ids.filter (fun id => !gone.contains id)

/-- Whether a change appends an id. -/
def appends (id : String) : IdChange → Bool
  | .appended other => other == id
  | _ => false

/-- Whether a change removes an id. -/
def removes (id : String) : IdChange → Bool
  | .removed gone => gone.contains id
  | _ => false

theorem mem_after {ids : List String} {change : IdChange} {id : String} :
    id ∈ change.after ids ↔
      change.appends id = true ∨ (id ∈ ids ∧ change.removes id = false) := by
  cases change with
  | kept => simp [after, appends, removes]
  | appended other =>
    have hcomm : (id = other) ↔ (other = id) := eq_comm
    simp [after, appends, removes, hcomm, or_comm]
  | removed gone => simp [after, appends, removes]

end IdChange

/-- The ids that changes append for good: the last append of an id counts, and only when no later
change removes the id again. -/
def standing : List IdChange → List String
  | [] => []
  | .appended id :: rest =>
    if rest.any (IdChange.appends id) || rest.any (IdChange.removes id) then standing rest
    else id :: standing rest
  | _ :: rest => standing rest

namespace Dataset

/-- What a mutation does to the ids: a document whose id is not there is appended, a deletion
removes the ids that it lists, and nothing else bears on them. -/
def idChange (dataset : Dataset) : Mutation → IdChange
  | .create doc | .createIfNotExists doc | .createOrReplace doc =>
    if dataset.contains doc.id then .kept else .appended doc.id
  | .delete (.ids selector) => .removed (dataset.ids.filter selector.contains)
  | .delete (.query _ _) => .kept
  | .patch _ => .kept

/-- What each mutation of a batch does to the ids, up to the first that fails. -/
def idChanges (dataset : Dataset) (tx : Transaction) : List Mutation → List IdChange
  | [] => []
  | mutation :: rest =>
    dataset.idChange mutation :: match (dataset.apply tx mutation).result with
      | .ok next => next.idChanges tx rest
      | .error _ => []

/-- One mutation after the other, each with its transaction; one that fails changes nothing. -/
def applyEach (dataset : Dataset) (calls : List (Transaction × Mutation)) : Dataset :=
  calls.foldl (fun current call => match (current.apply call.1 call.2).result with
    | .ok next => next
    | .error _ => current) dataset

/-! ## One mutation -/

variable {dataset next : Dataset} {tx : Transaction}

theorem ids_append (dataset : Dataset) (doc : Document) :
    (dataset.append doc).ids = dataset.ids ++ [doc.id] := by
  simp [ids, append, Record.id]

theorem ids_remove (dataset : Dataset) (selector : IdSelector) :
    (dataset.remove selector).ids = dataset.ids.filter (fun id => !selector.contains id) := by
  unfold ids remove
  rw [List.filter_map]
  rfl

theorem after_removed (ids : List String) (selector : IdSelector) :
    (IdChange.removed (ids.filter selector.contains)).after ids =
      ids.filter (fun id => !selector.contains id) := by
  refine List.filter_congr (fun id member => ?_)
  rw [List.contains_eq_mem]
  simp [List.mem_filter, member]

/-- **A mutation that succeeds changes the ids as its kind says.** -/
theorem apply_ids {mutation : Mutation} (h : (dataset.apply tx mutation).result = .ok next) :
    next.ids = (dataset.idChange mutation).after dataset.ids := by
  cases mutation with
  | create doc | createIfNotExists doc =>
    simp only [apply] at h
    split at h
    · rename_i hc
      cases h
      simp [idChange, hc, IdChange.after]
    · rename_i hc
      cases h
      simp [idChange, hc, IdChange.after, ids_append, Document.created]
  | createOrReplace doc =>
    simp only [apply] at h
    split at h
    · rename_i place hp
      cases h
      obtain ⟨old, found, hid⟩ := record_of_position? hp
      have hc : dataset.contains doc.id = true := by simp [contains, hp]
      simp only [idChange, hc, if_true, IdChange.after]
      exact ids_writeAt found hid.symm
    · rename_i hp
      cases h
      have hc : dataset.contains doc.id = false := by simp [contains, hp]
      simp [idChange, hc, IdChange.after, ids_append, Document.created]
  | delete selection =>
    cases selection with
    | ids selector =>
      cases h
      rw [idChange, after_removed, ids_remove]
    | query _ _ => cases h; rfl
  | patch edits =>
    simp only [apply] at h
    split at h
    · rename_i place record hp hg
      rw [Logged.result_bind] at h
      cases hr : (edits.reduce record.document tx).result with
      | error fault => rw [hr] at h; cases h
      | ok revised =>
        rw [hr] at h
        cases revised with
        | none => cases h; rfl
        | some doc =>
          cases h
          obtain ⟨old, found, holdId⟩ := record_of_position? hp
          refine ids_writeAt found ?_
          rw [(Patch.reduce_spec hr).1, holdId]
          exact (mem_of_findRecord hg).2
    · cases h; rfl

theorem not_mem_of_appends {mutation : Mutation} {id : String}
    (h : (dataset.idChange mutation).appends id = true) : id ∉ dataset.ids := by
  cases mutation with
  | create doc | createIfNotExists doc | createOrReplace doc =>
    simp only [idChange] at h
    split at h
    · cases h
    · rename_i hc
      have hid : doc.id = id := by simpa [IdChange.appends] using h
      rw [← hid]
      exact fun member => hc (contains_iff.mpr member)
  | delete selection => cases selection <;> cases h
  | patch _ => cases h

theorem apply_nodup {mutation : Mutation} (distinct : dataset.ids.Nodup)
    (h : (dataset.apply tx mutation).result = .ok next) : next.ids.Nodup := by
  rw [apply_ids h]
  cases hc : dataset.idChange mutation with
  | kept => exact distinct
  | appended id =>
    have appended : (dataset.idChange mutation).appends id = true := by
      simp [hc, IdChange.appends]
    have absent : id ∉ dataset.ids := not_mem_of_appends appended
    refine List.nodup_append.mpr ⟨distinct, by simp, ?_⟩
    intro a ha b hb hab
    exact absent (List.mem_singleton.mp hb ▸ hab ▸ ha)
  | removed gone => exact distinct.filter _

theorem properIds_of_nodup (distinct : dataset.ids.Nodup) : ProperIds dataset.ids where
  nonempty id member := by
    obtain ⟨record, _, rfl⟩ := List.mem_map.mp member
    exact record.document.id_ne_empty
  nodup := distinct

/-! ## Batches -/

theorem idChanges_cons {middle : Dataset} {mutation : Mutation} (rest : List Mutation)
    (h : (dataset.apply tx mutation).result = .ok middle) :
    dataset.idChanges tx (mutation :: rest) =
      dataset.idChange mutation :: middle.idChanges tx rest := by
  rw [idChanges, h]

/-- As long as an id is not removed it is not appended again. -/
theorem appends_of_mem {batch : List Mutation} {id : String} :
    ∀ {dataset : Dataset}, id ∈ dataset.ids →
      (dataset.idChanges tx batch).any (IdChange.removes id) = false →
      (dataset.idChanges tx batch).any (IdChange.appends id) = false := by
  induction batch with
  | nil => intro dataset _ _; rfl
  | cons mutation rest ih =>
    intro dataset member kept
    have here : (dataset.idChange mutation).appends id = false :=
      Bool.not_eq_true _ ▸ fun h => not_mem_of_appends h member
    cases hm : (dataset.apply tx mutation).result with
    | error fault => simp [idChanges, hm, here]
    | ok middle =>
      rw [idChanges_cons rest hm, List.any_cons, Bool.or_eq_false_iff] at kept
      have stays : id ∈ middle.ids := by
        rw [apply_ids hm]
        exact IdChange.mem_after.mpr (.inr ⟨member, kept.1⟩)
      rw [idChanges_cons rest hm, List.any_cons, here, ih stays kept.2]
      rfl

/-- **The ids after a batch**: those from before that no mutation removed, in their order, and then
those that the batch appended and did not remove again, in the order of their last append. -/
theorem reduce_ids {batch : List Mutation} :
    ∀ {dataset next : Dataset}, (dataset.reduce tx batch).result = .ok next →
      next.ids =
        dataset.ids.filter (fun id => !(dataset.idChanges tx batch).any (IdChange.removes id)) ++
          standing (dataset.idChanges tx batch) := by
  induction batch with
  | nil =>
    intro dataset next h
    cases h
    rw [idChanges, standing, List.append_nil]
    exact (List.filter_eq_self.mpr (fun _ _ => rfl)).symm
  | cons mutation rest ih =>
    intro dataset next h
    obtain ⟨middle, hm, hrest⟩ := reduce_cons_ok h
    rw [ih hrest, idChanges_cons rest hm, apply_ids hm]
    cases hc : dataset.idChange mutation with
    | kept => simp [IdChange.after, IdChange.removes, standing]
    | removed gone =>
      simp only [IdChange.after, standing, List.filter_filter, List.any_cons, IdChange.removes,
        Bool.not_or, Bool.and_comm]
    | appended id =>
      have there : id ∈ middle.ids := by simp [apply_ids hm, hc, IdChange.after]
      simp only [IdChange.after, List.any_cons, IdChange.removes, Bool.false_or,
        List.filter_append, List.append_assoc]
      congr 1
      -- The appended id stands exactly when the rest of the batch does not remove it.
      cases removed : (middle.idChanges tx rest).any (IdChange.removes id) with
      | true => simp [standing, removed]
      | false => simp [standing, removed, appends_of_mem there removed]

/-! ## Sequences of mutations -/

theorem applyEach_nodup : ∀ (calls : List (Transaction × Mutation)) {dataset : Dataset},
    dataset.ids.Nodup → (dataset.applyEach calls).ids.Nodup
  | [], _, distinct => distinct
  | (tx, mutation) :: rest, dataset, distinct => by
    refine applyEach_nodup rest ?_
    dsimp only
    cases h : (dataset.apply tx mutation).result with
    | error fault => exact distinct
    | ok next => exact apply_nodup distinct h

end Dataset

end DocumentStore
