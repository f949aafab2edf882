import DocumentStore.Dataset
import DocumentStore.Proofs.Success

/-!
# What writes keep

A mutation does one of four things to a dataset: it keeps it, appends a document, writes one in
the place of its predecessor, or takes records away.  Everything that batches keep is read off
these four.

* `Dataset.Sound` — distinct ids, and stamps below the next one.
* `Dataset.Effect` — the four things that a mutation can do.
* `Dataset.WrittenBy` — where the records of a later dataset come from.

Principal results: `apply_effect` — a mutation that succeeds has one of the effects.
`reduce_sound`, `reduce_writtenBy` — a batch that succeeds keeps a dataset sound, and each of its
records was there before or is stamped anew and carries the transaction.  `changeOf?_eq` — what is
told of a record then.  `ofDocuments_sound` — the dataset that a store begins with is sound.
-/

set_option autoImplicit false

namespace DocumentStore

/-! ## Records by id -/

theorem mem_of_findRecord {records : List Record} {id : String} {record : Record}
    (h : findRecord records id = some record) : record ∈ records ∧ record.id = id :=
  ⟨List.mem_of_find?_eq_some h, by simpa using List.find?_some h⟩

theorem findRecord_eq_none_iff {records : List Record} {id : String} :
    findRecord records id = none ↔ id ∉ records.map Record.id := by
  simp [findRecord]

theorem findRecord_of_mem {records : List Record} (distinct : (records.map Record.id).Nodup)
    {record : Record} (member : record ∈ records) :
    findRecord records record.id = some record := by
  induction records with
  | nil => cases member
  | cons first rest ih =>
    rw [List.map_cons, List.nodup_cons] at distinct
    unfold findRecord
    rcases List.mem_cons.mp member with rfl | later
    · simp
    · have hne : first.id ≠ record.id := fun he =>
        distinct.1 (he ▸ List.mem_map_of_mem later)
      rw [List.find?_cons_of_neg (by simpa using hne)]
      exact ih distinct.2 later

theorem findRecord_filter {records : List Record} (distinct : (records.map Record.id).Nodup)
    (p : Record → Bool) (id : String) :
    findRecord (records.filter p) id = (findRecord records id).filter p := by
  cases hf : findRecord records id with
  | none =>
    rw [findRecord_eq_none_iff] at hf
    rw [Option.filter_none, findRecord_eq_none_iff]
    intro h
    obtain ⟨record, member, rfl⟩ := List.mem_map.mp h
    exact hf (List.mem_map_of_mem (List.mem_filter.mp member).1)
  | some found =>
    obtain ⟨member, rfl⟩ := mem_of_findRecord hf
    have hd : ((records.filter p).map Record.id).Nodup :=
      distinct.sublist (List.filter_sublist.map _)
    cases hp : p found with
    | true =>
      rw [findRecord_of_mem hd (List.mem_filter.mpr ⟨member, hp⟩), Option.filter_some, if_pos hp]
    | false =>
      rw [Option.filter_some, if_neg (by simp [hp]), findRecord_eq_none_iff]
      intro h
      obtain ⟨other, ho, he⟩ := List.mem_map.mp h
      obtain ⟨hm, hpo⟩ := List.mem_filter.mp ho
      -- Both records stand under one id, so they are one record.
      have := findRecord_of_mem distinct hm
      rw [he, hf, Option.some.injEq] at this
      rw [← this, hp] at hpo
      cases hpo

theorem findRecord_set {new old : Record} {id : String} :
    ∀ {records : List Record} {place : Nat}, (records.map Record.id).Nodup →
      records[place]? = some old → new.id = old.id →
      findRecord (records.set place new) id =
        if old.id = id then some new else findRecord records id
  | [], _, _, found, _ => by simp at found
  | first :: rest, 0, _, found, sameId => by
    have hfirst : first = old := by simpa using found
    subst hfirst
    rw [List.set_cons_zero, findRecord, findRecord, List.find?_cons, List.find?_cons, sameId]
    by_cases h : first.id = id
    · simp [h]
    · rw [beq_false_of_ne h, if_neg h]
  | first :: rest, place + 1, distinct, found, sameId => by
    rw [List.map_cons, List.nodup_cons] at distinct
    have later : rest[place]? = some old := by simpa using found
    have hne : first.id ≠ old.id := fun he =>
      distinct.1 (he ▸ List.mem_map_of_mem (List.mem_of_getElem? later))
    have ih : findRecord (rest.set place new) id =
        if old.id = id then some new else findRecord rest id :=
      findRecord_set distinct.2 later sameId
    unfold findRecord at ih ⊢
    rw [List.set_cons_succ, List.find?_cons, List.find?_cons, ih]
    by_cases h : first.id = id
    · have hold : old.id ≠ id := fun he => hne (h.trans he.symm)
      simp [h, hold]
    · rw [beq_false_of_ne h]

namespace Dataset

theorem get?_of_mem {dataset : Dataset} (distinct : dataset.ids.Nodup) {record : Record}
    (member : record ∈ dataset.records) : dataset.get? record.id = some record :=
  findRecord_of_mem distinct member

theorem contains_eq_false_iff {dataset : Dataset} {id : String} :
    dataset.contains id = false ↔ id ∉ dataset.ids := by
  simp [contains, position?, ids]

theorem contains_iff {dataset : Dataset} {id : String} :
    dataset.contains id = true ↔ id ∈ dataset.ids := by
  rw [← Bool.not_eq_false, contains_eq_false_iff, Classical.not_not]

theorem position?_eq_none_iff {dataset : Dataset} {id : String} :
    dataset.position? id = none ↔ id ∉ dataset.ids := by
  rw [← contains_eq_false_iff, contains, Option.isSome_eq_false_iff, Option.isNone_iff_eq_none]

theorem get?_eq_none_iff {dataset : Dataset} {id : String} :
    dataset.get? id = none ↔ id ∉ dataset.ids := findRecord_eq_none_iff

theorem mem_ids_of_get? {dataset : Dataset} {id : String} {record : Record}
    (h : dataset.get? id = some record) : id ∈ dataset.ids := by
  obtain ⟨member, rfl⟩ := mem_of_findRecord h
  exact List.mem_map_of_mem member

theorem record_of_position? {dataset : Dataset} {id : String} {place : Nat}
    (h : dataset.position? id = some place) :
    ∃ record, dataset.records[place]? = some record ∧ record.id = id := by
  obtain ⟨hlt, hid, _⟩ := List.findIdx?_eq_some_iff_getElem.mp h
  exact ⟨dataset.records[place], List.getElem?_eq_getElem hlt, by simpa using hid⟩

/-! ## Look-ups after writes -/

theorem get?_append (dataset : Dataset) (doc : Document) (id : String) :
    (dataset.append doc).get? id =
      (dataset.get? id).or (if doc.id = id then some ⟨dataset.nextStamp, doc⟩ else none) := by
  unfold get? findRecord append
  rw [List.find?_append]
  by_cases h : doc.id = id <;> simp [Record.id, h]

theorem get?_remove {dataset : Dataset} (distinct : dataset.ids.Nodup) (selector : IdSelector)
    (id : String) :
    (dataset.remove selector).get? id =
      if selector.contains id then none else dataset.get? id := by
  unfold get? remove
  rw [findRecord_filter distinct]
  cases hf : findRecord dataset.records id with
  | none => simp
  | some record =>
    obtain ⟨_, rfl⟩ := mem_of_findRecord hf
    by_cases h : selector.contains record.id <;> simp [h]

theorem get?_writeAt {dataset : Dataset} (distinct : dataset.ids.Nodup) {place : Nat}
    {target : String} (found : dataset.position? target = some place) {doc : Document}
    (hid : doc.id = target) (id : String) :
    (dataset.writeAt place doc).get? id =
      if target = id then some ⟨dataset.nextStamp, doc⟩ else dataset.get? id := by
  obtain ⟨old, hold, rfl⟩ := record_of_position? found
  have sameId : Record.id ⟨dataset.nextStamp, doc⟩ = old.id := hid
  exact findRecord_set distinct hold sameId

end Dataset

/-! ## Stamps on documents -/

theorem Document.rev?_created (doc : Document) (tx : Transaction) :
    (doc.created tx).rev? = some tx.id := by
  unfold Document.rev? Document.text? Document.field? Document.created stampCreation
  rw [get?_setIfAbsent_ne (by decide), get?_setIfAbsent_ne (by decide), Fields.get?_set_self]
  rfl

theorem Document.rev?_revised (doc : Document) (tx : Transaction) :
    (doc.revised tx).rev? = some tx.id := by
  unfold Document.rev? Document.text? Document.field? Document.revised stampRevision
  rw [Fields.get?_set_ne (by decide), Fields.get?_set_self]
  rfl

/-- A document that a patch makes keeps its id and carries the transaction. -/
theorem Patch.reduce_spec {patch : Patch} {doc revised : Document} {tx : Transaction}
    (h : (patch.reduce doc tx).result = .ok (some revised)) :
    revised.id = doc.id ∧ revised.rev? = some tx.id := by
  obtain ⟨sameId, busy⟩ := Patch.busy_of_reduce (by rw [h]; exact nofun)
  rw [Patch.reduce_of_operations sameId busy] at h
  obtain ⟨root, -, stamped⟩ := bind_eq_ok.mp h
  obtain ⟨out, stamped, found⟩ := map_eq_ok.mp stamped
  cases found
  obtain ⟨changed, -, sameId, rfl⟩ := reviseValue_eq_ok_iff.mp stamped
  exact ⟨sameId, changed.rev?_revised tx⟩

namespace Dataset

/-! ## The effects of a mutation -/

/-- What one mutation can do to a dataset: nothing, write a document behind all others or in the
place of its predecessor, or take records away. -/
inductive Effect (tx : Transaction) (dataset : Dataset) : Dataset → Prop where
  | kept : Effect tx dataset dataset
  | appended {doc : Document} (absent : doc.id ∉ dataset.ids)
      (stamped : doc.rev? = some tx.id) : Effect tx dataset (dataset.append doc)
  | replaced {place : Nat} {old : Record} {doc : Document}
      (found : dataset.records[place]? = some old) (sameId : doc.id = old.id)
      (stamped : doc.rev? = some tx.id) : Effect tx dataset (dataset.writeAt place doc)
  | removed (selector : IdSelector) : Effect tx dataset (dataset.remove selector)

/-- **A mutation that succeeds has one of the four effects.** -/
theorem apply_effect {dataset next : Dataset} {tx : Transaction} {mutation : Mutation}
    (h : (dataset.apply tx mutation).result = .ok next) : Effect tx dataset next := by
  cases mutation with
  | create doc =>
    simp only [apply] at h
    split at h
    · cases h; exact .kept
    · rename_i habsent
      cases h
      exact .appended (fun hm => habsent (contains_iff.mpr hm)) (doc.rev?_created tx)
  | createIfNotExists doc =>
    simp only [apply] at h
    split at h
    · cases h; exact .kept
    · rename_i habsent
      cases h
      exact .appended (fun hm => habsent (contains_iff.mpr hm)) (doc.rev?_created tx)
  | createOrReplace doc =>
    simp only [apply] at h
    split at h
    · rename_i place hp
      cases h
      obtain ⟨old, hold, hid⟩ := record_of_position? hp
      exact .replaced hold hid.symm (doc.rev?_created tx)
    · rename_i hp
      cases h
      exact .appended (position?_eq_none_iff.mp hp) (doc.rev?_created tx)
  | delete selection =>
    cases selection with
    | ids selector => cases h; exact .removed selector
    | query _ _ => cases h; exact .kept
  | patch edits =>
    simp only [apply] at h
    split at h
    · rename_i place record hp hg
      rw [Logged.result_bind] at h
      cases hr : (edits.reduce record.document tx).result with
      | error fault => rw [hr] at h; cases h
      | ok revised =>
        rw [hr] at h
        cases revised with
        | none => cases h; exact .kept
        | some doc =>
          cases h
          obtain ⟨hid, hrev⟩ := Patch.reduce_spec hr
          obtain ⟨old, hold, holdId⟩ := record_of_position? hp
          refine .replaced hold ?_ hrev
          rw [hid, holdId]
          exact (mem_of_findRecord hg).2
    · cases h; exact .kept

/-! ## What batches keep -/

/-- The ids of a dataset are distinct, and every stamp was given before the next one. -/
structure Sound (dataset : Dataset) : Prop where
  ids_nodup : dataset.ids.Nodup
  stamp_lt : ∀ record ∈ dataset.records, record.stamp < dataset.nextStamp

/-- Each record of the later dataset was in the earlier one, or was written since and carries the
transaction. -/
structure WrittenBy (tx : Transaction) (previous current : Dataset) : Prop where
  nextStamp_le : previous.nextStamp ≤ current.nextStamp
  origin : ∀ record ∈ current.records, record ∈ previous.records ∨
    (previous.nextStamp ≤ record.stamp ∧ record.document.rev? = some tx.id)

theorem Sound.append {dataset : Dataset} (sound : dataset.Sound) {doc : Document}
    (absent : doc.id ∉ dataset.ids) : (dataset.append doc).Sound where
  ids_nodup := by
    show ((dataset.records ++ [_]).map Record.id).Nodup
    rw [List.map_append, List.nodup_append]
    refine ⟨sound.ids_nodup, by simp, ?_⟩
    intro a ha b hb hab
    have hid : a = doc.id := by rw [hab, List.mem_singleton.mp hb]; rfl
    exact absent (hid ▸ ha)
  stamp_lt record hr := by
    rcases List.mem_append.mp hr with hr | hr
    · exact Nat.lt_succ_of_lt (sound.stamp_lt record hr)
    · rw [List.mem_singleton.mp hr]; exact Nat.lt_succ_self _

theorem ids_writeAt {dataset : Dataset} {place : Nat} {old : Record} {doc : Document}
    (found : dataset.records[place]? = some old) (sameId : doc.id = old.id) :
    (dataset.writeAt place doc).ids = dataset.ids := by
  unfold ids writeAt
  rw [List.map_set]
  refine List.ext_getElem? (fun i => ?_)
  rw [List.getElem?_set]
  split
  · rename_i hi
    subst hi
    rw [List.getElem?_map, found]
    rw [List.length_map, if_pos (List.getElem?_eq_some_iff.mp found).1]
    exact congrArg some sameId
  · rfl

theorem Effect.sound {dataset next : Dataset} {tx : Transaction} (effect : Effect tx dataset next)
    (sound : dataset.Sound) : next.Sound := by
  cases effect with
  | kept => exact sound
  | appended absent _ => exact sound.append absent
  | replaced found sameId _ =>
    refine ⟨by rw [ids_writeAt found sameId]; exact sound.ids_nodup, fun record hr => ?_⟩
    rcases List.mem_or_eq_of_mem_set hr with hr | rfl
    · exact Nat.lt_succ_of_lt (sound.stamp_lt record hr)
    · exact Nat.lt_succ_self _
  | removed selector =>
    exact ⟨sound.ids_nodup.sublist (List.filter_sublist.map _),
      fun record hr => sound.stamp_lt record (List.mem_filter.mp hr).1⟩

theorem WrittenBy.refl (tx : Transaction) (dataset : Dataset) : WrittenBy tx dataset dataset :=
  ⟨Nat.le_refl _, fun _ hr => .inl hr⟩

theorem WrittenBy.trans {tx : Transaction} {first second third : Dataset}
    (h : WrittenBy tx first second) (h' : WrittenBy tx second third) :
    WrittenBy tx first third := by
  refine ⟨Nat.le_trans h.nextStamp_le h'.nextStamp_le, fun record hr => ?_⟩
  rcases h'.origin record hr with hr | ⟨hs, hrev⟩
  · exact h.origin record hr
  · exact .inr ⟨Nat.le_trans h.nextStamp_le hs, hrev⟩

theorem Effect.writtenBy {dataset next : Dataset} {tx : Transaction}
    (effect : Effect tx dataset next) : WrittenBy tx dataset next := by
  cases effect with
  | kept => exact .refl tx dataset
  | appended _ stamped =>
    refine ⟨Nat.le_succ _, fun record hr => ?_⟩
    rcases List.mem_append.mp hr with hr | hr
    · exact .inl hr
    · rw [List.mem_singleton.mp hr]; exact .inr ⟨Nat.le_refl _, stamped⟩
  | replaced _ _ stamped =>
    refine ⟨Nat.le_succ _, fun record hr => ?_⟩
    rcases List.mem_or_eq_of_mem_set hr with hr | rfl
    · exact .inl hr
    · exact .inr ⟨Nat.le_refl _, stamped⟩
  | removed selector =>
    exact ⟨Nat.le_refl _, fun record hr => .inl (List.mem_filter.mp hr).1⟩

theorem reduce_cons_ok {dataset next : Dataset} {tx : Transaction} {mutation : Mutation}
    {rest : List Mutation} (h : (dataset.reduce tx (mutation :: rest)).result = .ok next) :
    ∃ middle, (dataset.apply tx mutation).result = .ok middle ∧
      (middle.reduce tx rest).result = .ok next := by
  rw [reduce, Logged.result_bind] at h
  cases hm : (dataset.apply tx mutation).result with
  | error fault => rw [hm] at h; cases h
  | ok middle => rw [hm] at h; exact ⟨middle, rfl, h⟩

/-- **A batch that succeeds keeps a dataset sound.** -/
theorem reduce_sound {tx : Transaction} {mutations : List Mutation} :
    ∀ {dataset next : Dataset}, dataset.Sound →
      (dataset.reduce tx mutations).result = .ok next → next.Sound := by
  induction mutations with
  | nil => intro dataset next sound h; cases h; exact sound
  | cons mutation rest ih =>
    intro dataset next sound h
    obtain ⟨middle, hm, hrest⟩ := reduce_cons_ok h
    exact ih ((apply_effect hm).sound sound) hrest

/-- **A batch that succeeds leaves records that were there or that it wrote.** -/
theorem reduce_writtenBy {tx : Transaction} {mutations : List Mutation} :
    ∀ {dataset next : Dataset}, (dataset.reduce tx mutations).result = .ok next →
      WrittenBy tx dataset next := by
  induction mutations with
  | nil => intro dataset next h; cases h; exact .refl tx dataset
  | cons mutation rest ih =>
    intro dataset next h
    obtain ⟨middle, hm, hrest⟩ := reduce_cons_ok h
    exact (apply_effect hm).writtenBy.trans (ih hrest)

end Dataset

/-! ## What is told of each record -/

section
variable {previous current : Dataset} {tx : Transaction}

/-- A record has the stamp of its predecessor only when it is its predecessor. -/
theorem get?_of_same (sound : previous.Sound) (written : previous.WrittenBy tx current)
    {old record : Record} (member : record ∈ current.records)
    (found : previous.get? record.id = some old) (same : old.same record = true) :
    previous.get? record.id = some record := by
  have hlt := sound.stamp_lt old (mem_of_findRecord found).1
  have hstamp : old.stamp = record.stamp := by simpa [Record.same] using same
  rcases written.origin record member with hr | ⟨hge, _⟩
  · exact Dataset.get?_of_mem sound.ids_nodup hr
  · omega

theorem rev?_of_changed (sound : previous.Sound) (written : previous.WrittenBy tx current)
    {record : Record} (member : record ∈ current.records)
    (changed : previous.get? record.id ≠ some record) : record.document.rev? = some tx.id := by
  rcases written.origin record member with hr | ⟨_, hrev⟩
  · exact absurd (Dataset.get?_of_mem sound.ids_nodup hr) changed
  · exact hrev

/-- **What is told of a record**: nothing when it is its predecessor, else that its document was
created, or updated when there was one with its id before. -/
theorem changeOf?_eq (sound : previous.Sound) (written : previous.WrittenBy tx current)
    {record : Record} (member : record ∈ current.records) :
    changeOf? previous record = if previous.get? record.id = some record then none
      else some ⟨record.id, if record.id ∈ previous.ids then .update else .create⟩ := by
  unfold changeOf?
  cases hold : previous.get? record.id with
  | none => simp [Dataset.get?_eq_none_iff.mp hold]
  | some old =>
    simp only [Dataset.mem_ids_of_get? hold, if_true]
    by_cases same : old.same record = true
    · have kept := get?_of_same sound written member hold same
      rw [if_pos same, if_pos (hold.symm.trans kept)]
    · have changed : ¬ some old = some record := by
        rintro ⟨rfl⟩
        exact same (beq_self_eq_true _)
      rw [if_neg same, if_neg changed]

theorem changeOf?_unchanged {record : Record} (h : previous.get? record.id = some record) :
    changeOf? previous record = none := by
  simp [changeOf?, h, Record.same]

theorem changeOf?_changed (sound : previous.Sound) (written : previous.WrittenBy tx current)
    {record : Record} (member : record ∈ current.records)
    (changed : previous.get? record.id ≠ some record) :
    ∃ kind, kind ≠ .delete ∧ changeOf? previous record = some ⟨record.id, kind⟩ := by
  rw [changeOf?_eq sound written member, if_neg changed]
  refine ⟨_, ?_, rfl⟩
  split <;> decide

theorem changeOf?_id {record : Record} {change : Change}
    (h : changeOf? previous record = some change) : change.id = record.id := by
  unfold changeOf? at h
  split at h
  · cases h; rfl
  · split at h
    · cases h
    · cases h; rfl

/-- What an answer calls created or updated is there, and carries the transaction. -/
theorem written_of_mem_diff (sound : previous.Sound) (sound' : current.Sound)
    (written : previous.WrittenBy tx current) {change : Change}
    (member : change ∈ previous.diff current) (hkind : change.kind ≠ .delete) :
    ∃ record, current.get? change.id = some record ∧ record.document.rev? = some tx.id := by
  rcases List.mem_append.mp member with member | member
  · obtain ⟨record, hr, hchange⟩ := List.mem_filterMap.mp member
    have changed : previous.get? record.id ≠ some record := by
      intro h
      rw [changeOf?_unchanged h] at hchange
      cases hchange
    rw [changeOf?_id hchange]
    exact ⟨record, Dataset.get?_of_mem sound'.ids_nodup hr,
      rev?_of_changed sound written hr changed⟩
  · obtain ⟨record, _, rfl⟩ := List.mem_map.mp member
    exact absurd rfl hkind

end

namespace Dataset

/-! ## The first dataset -/

theorem addDocument_sound {loaded : Dataset × List Notice} (sound : loaded.1.Sound)
    (doc : Document) : (addDocument loaded doc).1.Sound := by
  unfold addDocument
  split
  · exact sound
  · rename_i habsent
    exact sound.append (fun hm => habsent (contains_iff.mpr hm))

theorem foldl_addDocument_sound :
    ∀ (docs : List Document) (loaded : Dataset × List Notice), loaded.1.Sound →
      (docs.foldl addDocument loaded).1.Sound
  | [], _, sound => sound
  | doc :: docs, _, sound => foldl_addDocument_sound docs _ (addDocument_sound sound doc)

/-- **The dataset of any documents is sound.** -/
theorem ofDocuments_sound (docs : List Document) : (ofDocuments docs).1.Sound :=
  foldl_addDocument_sound docs (empty, [])
    ⟨List.nodup_nil, fun _ hr => by cases hr⟩

end Dataset

end DocumentStore
