import Mathlib.Data.List.FinRange
import Mathlib.Data.Fintype.Basic
import Mathlib.Tactic.FinCases
import DocumentStore.Proofs.Dataset.Ids

/-!
# Documents apart from each other

A mutation is about the documents that it targets, and a batch does to each document what its
mutations about that document do when they stand alone.  Hence only the order of mutations that
share a target matters.

* `Mutation.targets`, `batchFor` — what a mutation is about, and the part of a batch about one id.
* `Dataset.document?` — the document stored under an id.
* `Mutation.rewrite`, `rewriteAll` — what mutations do to the one document that they target.
* `Reorders` — a batch in another order that keeps mutations with a common target in theirs.

Principal results: `apply_document` — a mutation rewrites its targets and nothing else.
`reduce_apart` — a batch succeeds when each of its parts does, and then leaves under each id what
the part about that id leaves; a reordered batch leaves the same documents.
-/

set_option autoImplicit false

namespace DocumentStore

/-- Whether a mutation is about the document with an id. -/
def Mutation.targets (id : String) : Mutation → Bool
  | .create doc | .createIfNotExists doc | .createOrReplace doc => doc.id == id
  | .delete (.ids selector) => selector.contains id
  | .delete (.query _ _) => false
  | .patch edits => edits.id == id

/-- The mutations of a batch that are about the document with an id. -/
def batchFor (id : String) (batch : List Mutation) : List Mutation :=
  batch.filter (Mutation.targets id)

/-- The document stored under an id. -/
def Dataset.document? (dataset : Dataset) (id : String) : Option Document :=
  (dataset.get? id).map Record.document

/-- What a mutation makes of the document stored under an id that it targets. -/
def Mutation.rewrite (tx : Transaction) (stored : Option Document) :
    Mutation → Except Fault (Option Document)
  | .create doc | .createIfNotExists doc => .ok (some (stored.getD (doc.created tx)))
  | .createOrReplace doc => .ok (some (doc.created tx))
  | .delete _ => .ok none
  | .patch edits =>
    match stored with
    | none => .ok none
    | some doc => (edits.reduce doc tx).result.map (fun revised => some (revised.getD doc))

/-- What mutations that all target one document make of it, one after the other. -/
def rewriteAll (tx : Transaction) (batch : List Mutation) (stored : Option Document) :
    Except Fault (Option Document) :=
  batch.foldlM (fun current mutation => mutation.rewrite tx current) stored

/-- The same mutations in another order, in which any two that share a target stand in the order
that they had. -/
def Reorders (batch other : List Mutation) : Prop :=
  ∃ place : Fin other.length ≃ Fin batch.length,
    (∀ i, other[i] = batch[place i]) ∧
      ∀ i j, i < j → (∃ id, other[i].targets id = true ∧ other[j].targets id = true) →
        place i < place j

/-! ## Look-ups after writes -/

namespace Dataset

variable {dataset next : Dataset} {tx : Transaction} {id : String}

theorem document?_eq_none_iff : dataset.document? id = none ↔ id ∉ dataset.ids := by
  rw [document?, Option.map_eq_none_iff]
  exact findRecord_eq_none_iff

theorem document?_append (dataset : Dataset) (doc : Document) :
    (dataset.append doc).document? id =
      (dataset.document? id).or (if doc.id = id then some doc else none) := by
  unfold document?
  rw [get?_append, Option.map_or]
  split <;> rfl

theorem document?_remove (distinct : dataset.ids.Nodup) (selector : IdSelector) :
    (dataset.remove selector).document? id =
      if selector.contains id then none else dataset.document? id := by
  unfold document?
  rw [get?_remove distinct]
  split <;> rfl

theorem document?_writeAt (distinct : dataset.ids.Nodup) {place : Nat} {target : String}
    (found : dataset.position? target = some place) {doc : Document} (hid : doc.id = target) :
    (dataset.writeAt place doc).document? id =
      if target = id then some doc else dataset.document? id := by
  unfold document?
  rw [get?_writeAt distinct found hid]
  split <;> rfl

/-! ## One mutation -/

theorem document?_of_contains (h : dataset.contains id = true) :
    ∃ doc, dataset.document? id = some doc := by
  cases hd : dataset.document? id with
  | none => exact absurd (contains_iff.mp h) (document?_eq_none_iff.mp hd)
  | some doc => exact ⟨doc, rfl⟩

theorem document?_appended {doc : Document} (absent : doc.id ∉ dataset.ids) (id : String) :
    (dataset.append (doc.created tx)).document? id =
      if doc.id = id then some (doc.created tx) else dataset.document? id := by
  rw [document?_append]
  show (dataset.document? id).or (if doc.id = id then _ else _) = _
  by_cases h : doc.id = id
  · subst h
    simp [document?_eq_none_iff.mpr absent]
  · rw [if_neg h, if_neg h, Option.or_none]

/-- **A mutation that succeeds rewrites the documents that it targets, and no other.** -/
theorem apply_document (distinct : dataset.ids.Nodup) {mutation : Mutation}
    (h : (dataset.apply tx mutation).result = .ok next) (id : String) :
    (mutation.targets id = true →
      mutation.rewrite tx (dataset.document? id) = .ok (next.document? id)) ∧
      (mutation.targets id = false → next.document? id = dataset.document? id) := by
  cases mutation with
  | create doc | createIfNotExists doc =>
    simp only [apply] at h
    simp only [Mutation.targets, beq_iff_eq, beq_eq_false_iff_ne, Mutation.rewrite]
    split at h
    · rename_i there
      cases h
      refine ⟨fun hid => ?_, fun _ => rfl⟩
      obtain ⟨stored, hstored⟩ := document?_of_contains (hid ▸ there)
      rw [hstored, Option.getD_some]
    · rename_i missing
      cases h
      have absent : doc.id ∉ dataset.ids := fun hm => missing (contains_iff.mpr hm)
      refine ⟨fun hid => ?_, fun hid => ?_⟩
      · subst hid
        rw [document?_appended absent, if_pos rfl, document?_eq_none_iff.mpr absent,
          Option.getD_none]
      · rw [document?_appended absent, if_neg hid]
  | createOrReplace doc =>
    simp only [apply] at h
    simp only [Mutation.targets, beq_iff_eq, beq_eq_false_iff_ne, Mutation.rewrite]
    have written : next.document? id =
        if doc.id = id then some (doc.created tx) else dataset.document? id := by
      split at h
      · rename_i place hp
        cases h
        exact document?_writeAt distinct hp rfl
      · rename_i hp
        cases h
        exact document?_appended (position?_eq_none_iff.mp hp) id
    exact ⟨fun hid => by rw [written, if_pos hid], fun hid => by rw [written, if_neg hid]⟩
  | delete selection =>
    cases selection with
    | ids selector =>
      cases h
      simp only [Mutation.targets, Mutation.rewrite]
      rw [document?_remove distinct]
      exact ⟨fun hs => by rw [if_pos hs], fun hs => by rw [hs]; rfl⟩
    | query _ _ =>
      cases h
      exact ⟨fun hq => absurd hq Bool.false_ne_true, fun _ => rfl⟩
  | patch edits =>
    simp only [Mutation.targets, beq_iff_eq, beq_eq_false_iff_ne]
    simp only [apply] at h
    split at h
    · rename_i place record hp hg
      have stored : dataset.document? edits.id = some record.document := by
        rw [document?, hg, Option.map_some]
      rw [Logged.result_bind] at h
      cases hr : (edits.reduce record.document tx).result with
      | error fault => rw [hr] at h; cases h
      | ok revised =>
        rw [hr] at h
        cases revised with
        | none =>
          cases h
          refine ⟨fun hid => ?_, fun _ => rfl⟩
          rw [← hid, stored]
          simp [Mutation.rewrite, hr, Except.map]
        | some doc =>
          cases h
          have hdoc : doc.id = edits.id := by
            rw [(Patch.reduce_spec hr).1]
            exact (mem_of_findRecord hg).2
          rw [document?_writeAt distinct hp hdoc]
          refine ⟨fun hid => ?_, fun hid => by rw [if_neg hid]⟩
          rw [if_pos hid, ← hid, stored]
          simp [Mutation.rewrite, hr, Except.map]
    · rename_i missing
      cases h
      refine ⟨fun hid => ?_, fun _ => rfl⟩
      cases hd : dataset.document? id with
      | none => rfl
      | some doc =>
        -- A document under the id of the patch would have been found.
        obtain ⟨record, hg, _⟩ := Option.map_eq_some_iff.mp hd
        have there : edits.id ∈ dataset.ids := by
          obtain ⟨member, hrecord⟩ := mem_of_findRecord hg
          rw [hid, ← hrecord]
          exact List.mem_map_of_mem member
        obtain ⟨place, hp⟩ := Option.isSome_iff_exists.mp (contains_iff.mpr there)
        exact absurd (hid ▸ hg) (missing place record hp)

/-- Only a patch can fail, and it fails on the document that it targets. -/
theorem apply_fails {mutation : Mutation} {fault : Fault}
    (h : (dataset.apply tx mutation).result = .error fault) :
    ∃ edits, mutation = .patch edits ∧
      mutation.rewrite tx (dataset.document? edits.id) = .error fault := by
  cases mutation with
  | create doc | createIfNotExists doc | createOrReplace doc =>
    simp only [apply] at h
    split at h <;> cases h
  | delete selection => cases selection <;> cases h
  | patch edits =>
    simp only [apply] at h
    split at h
    · rename_i place record hp hg
      rw [Logged.result_bind] at h
      refine ⟨edits, rfl, ?_⟩
      rw [document?, hg, Option.map_some]
      cases hr : (edits.reduce record.document tx).result with
      | error cause =>
        rw [hr] at h
        cases h
        simp [Mutation.rewrite, hr, Except.map]
      | ok revised =>
        rw [hr] at h
        cases revised <;> cases h
    · cases h

/-! ## Batches -/

variable {batch : List Mutation}

theorem mem_batchFor {mutation : Mutation} :
    mutation ∈ batchFor id batch ↔ mutation ∈ batch ∧ mutation.targets id = true :=
  List.mem_filter

theorem batchFor_batchFor (id : String) (batch : List Mutation) :
    batchFor id (batchFor id batch) = batchFor id batch := by
  unfold batchFor
  rw [List.filter_filter]
  exact List.filter_congr (fun _ _ => Bool.and_self _)

theorem rewriteAll_cons (mutation : Mutation) (rest : List Mutation) (stored : Option Document) :
    rewriteAll tx (mutation :: rest) stored =
      (mutation.rewrite tx stored).bind (rewriteAll tx rest) := by
  unfold rewriteAll
  rw [List.foldlM_cons]
  rfl

/-- After a mutation that succeeds, its part in the story of each document is told. -/
theorem rewriteAll_step (distinct : dataset.ids.Nodup) {mutation : Mutation} {middle : Dataset}
    (h : (dataset.apply tx mutation).result = .ok middle) (rest : List Mutation) (id : String) :
    rewriteAll tx (batchFor id (mutation :: rest)) (dataset.document? id) =
      rewriteAll tx (batchFor id rest) (middle.document? id) := by
  obtain ⟨rewritten, untouched⟩ := apply_document distinct h id
  unfold batchFor
  cases ht : mutation.targets id with
  | true =>
    rw [List.filter_cons_of_pos ht, rewriteAll_cons, rewritten ht]
    rfl
  | false => rw [List.filter_cons_of_neg (by simp [ht]), untouched ht]

theorem rewriteAll_of_reduce :
    ∀ {batch : List Mutation} {dataset next : Dataset}, dataset.ids.Nodup →
      (dataset.reduce tx batch).result = .ok next → ∀ id,
      rewriteAll tx (batchFor id batch) (dataset.document? id) = .ok (next.document? id)
  | [], _, _, _, h, _ => by cases h; rfl
  | mutation :: rest, dataset, next, distinct, h, id => by
    obtain ⟨middle, hm, hrest⟩ := reduce_cons_ok h
    rw [rewriteAll_step distinct hm]
    exact rewriteAll_of_reduce (apply_nodup distinct hm) hrest id

/-- A batch that fails has a patch that fails on what stands under its id by then. -/
theorem rewriteAll_of_failure {fault : Fault} :
    ∀ {batch : List Mutation} {dataset : Dataset}, dataset.ids.Nodup →
      (dataset.reduce tx batch).result = .error fault →
      ∃ edits, .patch edits ∈ batch ∧
        rewriteAll tx (batchFor edits.id batch) (dataset.document? edits.id) = .error fault
  | [], _, _, h => by cases h
  | mutation :: rest, dataset, distinct, h => by
    cases hm : (dataset.apply tx mutation).result with
    | error cause =>
      rw [reduce, Logged.result_bind, hm] at h
      cases h
      obtain ⟨edits, rfl, failed⟩ := apply_fails hm
      refine ⟨edits, List.mem_cons_self, ?_⟩
      have self : (Mutation.patch edits).targets edits.id = true := beq_self_eq_true _
      rw [batchFor, List.filter_cons_of_pos self, rewriteAll_cons, failed]
      rfl
    | ok middle =>
      rw [reduce, Logged.result_bind, hm] at h
      obtain ⟨edits, member, failed⟩ := rewriteAll_of_failure (apply_nodup distinct hm) h
      exact ⟨edits, List.mem_cons_of_mem _ member, by rw [rewriteAll_step distinct hm, failed]⟩

theorem reduce_part (distinct : dataset.ids.Nodup)
    (h : (dataset.reduce tx batch).result = .ok next) (id : String) :
    ∃ alone, (dataset.reduce tx (batchFor id batch)).result = .ok alone ∧
      next.document? id = alone.document? id := by
  have whole := rewriteAll_of_reduce distinct h id
  cases hp : (dataset.reduce tx (batchFor id batch)).result with
  | error fault =>
    -- The failing patch is about the id of the part, and there the whole batch succeeds.
    obtain ⟨edits, member, failed⟩ := rewriteAll_of_failure distinct hp
    have hid : edits.id = id := by simpa [Mutation.targets] using (mem_batchFor.mp member).2
    rw [hid, batchFor_batchFor, whole] at failed
    cases failed
  | ok alone =>
    have part := rewriteAll_of_reduce distinct hp id
    rw [batchFor_batchFor, whole] at part
    exact ⟨alone, rfl, Except.ok.inj part⟩

theorem reduce_of_parts (distinct : dataset.ids.Nodup)
    (parts : ∀ id, ∃ alone, (dataset.reduce tx (batchFor id batch)).result = .ok alone) :
    ∃ next, (dataset.reduce tx batch).result = .ok next := by
  cases h : (dataset.reduce tx batch).result with
  | ok next => exact ⟨next, rfl⟩
  | error fault =>
    obtain ⟨edits, _, failed⟩ := rewriteAll_of_failure distinct h
    obtain ⟨alone, hp⟩ := parts edits.id
    have part := rewriteAll_of_reduce distinct hp edits.id
    rw [batchFor_batchFor, failed] at part
    cases part

/-! ## Other orders -/

/-- The part of a list that a property holds of, by the places where it does. -/
theorem filter_eq_map_finRange {α : Type} (p : α → Bool) (l : List α) :
    l.filter p = ((List.finRange l.length).filter (fun i => p l[i])).map (fun i => l[i]) := by
  have places : (List.finRange l.length).map (fun i => l[i]) = l := List.map_get_finRange l
  conv_lhs => rw [← places]
  rw [List.filter_map]
  rfl

theorem pairwise_places {n : Nat} (p : Fin n → Bool) :
    ((List.finRange n).filter p).Pairwise (· < ·) :=
  (List.pairwise_lt_finRange n).filter p

theorem batchFor_of_reorders {other : List Mutation} (reordered : Reorders batch other)
    (id : String) : batchFor id other = batchFor id batch := by
  obtain ⟨place, moved, kept⟩ := reordered
  let here := (List.finRange other.length).filter (fun i => other[i].targets id)
  let there := (List.finRange batch.length).filter (fun i => batch[i].targets id)
  have hmem (i : Fin batch.length) : i ∈ here.map place ↔ i ∈ there := by
    simp only [here, there, List.mem_map, List.mem_filter, List.mem_finRange, true_and]
    constructor
    · rintro ⟨j, hj, rfl⟩
      rwa [← moved]
    · intro hi
      exact ⟨place.symm i, by simpa only [moved, place.apply_symm_apply] using hi,
        place.apply_symm_apply i⟩
  have ordered : (here.map place).Pairwise (· < ·) := by
    rw [List.pairwise_map]
    refine (pairwise_places _).imp_of_mem (fun {i j} hi hj hlt => kept i j hlt ⟨id, ?_, ?_⟩)
    · exact (List.mem_filter.mp hi).2
    · exact (List.mem_filter.mp hj).2
  -- Both lists of places are in order and have the same members.
  have same : here.map place = there := by
    refine List.Perm.eq_of_pairwise ?_ ordered (pairwise_places _) ?_
    · intro i j _ _ hij hji
      exact absurd (lt_trans hij hji) (lt_irrefl i)
    · exact (List.perm_ext_iff_of_nodup ordered.nodup (pairwise_places _).nodup).mpr hmem
  calc batchFor id other
      = here.map (fun i => other[i]) := filter_eq_map_finRange _ other
    _ = (here.map place).map (fun i => batch[i]) := by
        rw [List.map_map]
        exact List.map_congr_left (fun i _ => moved i)
    _ = batchFor id batch := by
        rw [same]
        exact (filter_eq_map_finRange _ batch).symm

/-- **A batch does to each document what its mutations about that document do alone.**  It succeeds
exactly when, for every id, its part about that id does; then it leaves under each id the document,
or the lack of one, that the part leaves.  A reordering that keeps mutations with a common target in
their order succeeds alike and leaves the same documents. -/
theorem reduce_apart (distinct : dataset.ids.Nodup) (tx : Transaction) (batch : List Mutation) :
    ((∃ next, (dataset.reduce tx batch).result = .ok next) ↔
        ∀ id, ∃ alone, (dataset.reduce tx (batchFor id batch)).result = .ok alone) ∧
      (∀ next, (dataset.reduce tx batch).result = .ok next → ∀ id, ∃ alone,
        (dataset.reduce tx (batchFor id batch)).result = .ok alone ∧
          next.document? id = alone.document? id) ∧
      ∀ other, Reorders batch other →
        ((∃ next, (dataset.reduce tx batch).result = .ok next) ↔
          ∃ next, (dataset.reduce tx other).result = .ok next) ∧
        ∀ next next', (dataset.reduce tx batch).result = .ok next →
          (dataset.reduce tx other).result = .ok next' →
          ∀ id, next.document? id = next'.document? id := by
  have apart (batch : List Mutation) :
      (∃ next, (dataset.reduce tx batch).result = .ok next) ↔
        ∀ id, ∃ alone, (dataset.reduce tx (batchFor id batch)).result = .ok alone := by
    refine ⟨fun ⟨next, h⟩ id => ?_, reduce_of_parts distinct⟩
    obtain ⟨alone, hp, _⟩ := reduce_part distinct h id
    exact ⟨alone, hp⟩
  refine ⟨apart batch, fun next h => reduce_part distinct h, fun other reordered => ⟨?_, ?_⟩⟩
  · rw [apart batch, apart other]
    simp only [batchFor_of_reorders reordered]
  · intro next next' h h' id
    have whole := rewriteAll_of_reduce distinct h id
    have whole' := rewriteAll_of_reduce distinct h' id
    rw [batchFor_of_reorders reordered, whole] at whole'
    exact Except.ok.inj whole'

/-- A fan is stored while a lamp is taken away and put back, in either order. -/
theorem reduce_apart_lamp_and_fan :
    let lamp : Document := ⟨[("_id", .string "lamp")], "lamp", rfl⟩
    let fan : Document := ⟨[("_id", .string "fan")], "fan", rfl⟩
    let dataset := (Dataset.ofDocuments [lamp]).1
    let tx : Transaction := ⟨"swap", "1"⟩
    let batch := [.delete (.ids (.many ["lamp", "bulb"])), .create fan, .create lamp]
    let other := [.create fan, .delete (.ids (.many ["lamp", "bulb"])), .create lamp]
    let next : Dataset := ⟨[⟨1, fan.created tx⟩, ⟨2, lamp.created tx⟩], 3⟩
    dataset.ids.Nodup ∧ (dataset.reduce tx batch).result = .ok next ∧ Reorders batch other ∧
      (∀ id, ∃ alone, (dataset.reduce tx (batchFor id batch)).result = .ok alone ∧
        next.document? id = alone.document? id) ∧
      ∃ next', (dataset.reduce tx other).result = .ok next' := by
  intro lamp fan dataset tx batch other next
  have distinct : dataset.ids.Nodup := by decide
  have reduced : (dataset.reduce tx batch).result = .ok next := rfl
  have reordered : Reorders batch other := by
    refine ⟨Equiv.swap (0 : Fin 3) 1, ?_, ?_⟩
    · intro (i : Fin 3)
      fin_cases i <;> rfl
    · intro (i : Fin 3) (j : Fin 3) hlt hshare
      -- The first two share no target; any other pair stands as before.
      have apart : ¬ ∃ id, other[0].targets id = true ∧ other[1].targets id = true := by
        simp [other, fan, Mutation.targets, IdSelector.contains]
      fin_cases i <;> fin_cases j
      case «0».«1» => exact absurd hshare apart
      all_goals first | exact absurd hlt (by decide) | decide
  obtain ⟨_, alone, orders⟩ := reduce_apart distinct tx batch
  exact ⟨distinct, reduced, reordered, alone next reduced,
    (orders other reordered).1.mp ⟨next, reduced⟩⟩

end Dataset

end DocumentStore
