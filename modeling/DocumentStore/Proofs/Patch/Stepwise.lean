import DocumentStore.Patch.Reduce
import DocumentStore.Proofs.Patch.DistinctKeys
import DocumentStore.Proofs.Patch.FirstKey

/-!
# One operation at a time

A patch stamps the document once, at its end.  Applied as patches of one operation each, it stamps
the document after every operation.  The stamps in between are seen by no operation that starts
elsewhere, and the last ones are those that the patch writes.

* `Patch.single`, `Patch.revise`, `reviseEach` — patches of one operation, and one after the other.
* `Alike` — computations that fail with the same fault, or succeed with related values.
* `AgreeBut` — fields in which all look-ups but those of some keys are the same.
* `Follows` — the value between two operations, and the document between two patches.

Principal results: `step_alike`, `run_alike` — what one operation and what a list of them keeps.
`revise_stepwise` — a patch does what its operations do one at a time.
-/

set_option autoImplicit false

namespace DocumentStore

/-! ## Patches one after the other -/

namespace Patch

/-- The patch of one operation. -/
def single (id : String) (operation : Operation Unit) : Patch := (empty id).add operation

@[simp] theorem single_id (id : String) (operation : Operation Unit) :
    (single id operation).id = id := by
  cases operation <;> rfl

@[simp] theorem operations_single (id : String) (operation : Operation Unit) :
    (single id operation).operations = [operation] := by
  cases operation <;> rfl

/-- The document that a patch leaves, the very same one where it does nothing. -/
def revise (tx : Transaction) (doc : Document) (patch : Patch) : Except Fault Document :=
  (patch.reduce doc tx).result.map (fun revised => revised.getD doc)

/-- The patches of one operation each, in the order in which the operations are applied. -/
def singles (patch : Patch) : List Patch := patch.operations.map (single patch.id)

end Patch

/-- Patches one after the other, all in one transaction, up to the first that fails. -/
def reviseEach (tx : Transaction) (doc : Document) (patches : List Patch) :
    Except Fault Document :=
  patches.foldlM (Patch.revise tx) doc

theorem reviseEach_cons (tx : Transaction) (doc : Document) (patch : Patch)
    (rest : List Patch) :
    reviseEach tx doc (patch :: rest) =
      (patch.revise tx doc).bind (fun doc => reviseEach tx doc rest) := rfl

theorem Patch.revise_nil {patch : Patch} (h : patch.operations = []) (tx : Transaction)
    (doc : Document) : patch.revise tx doc = .ok doc := by
  rw [Patch.revise, Patch.reduce_of_idle (.inr h)]
  rfl

theorem Patch.revise_cons {patch : Patch} {doc : Document} (sameId : patch.id = doc.id)
    {operation : Operation Unit} {rest : List (Operation Unit)}
    (h : patch.operations = operation :: rest) (tx : Transaction) :
    patch.revise tx doc = (applyOperations doc.id doc.toJson (operation :: rest)).result.bind
      (reviseValue doc.id tx) := by
  have busy : patch.operations ≠ [] := h ▸ List.cons_ne_nil operation rest
  rw [Patch.revise, Patch.reduce_of_operations sameId busy, h]
  cases (applyOperations doc.id doc.toJson (operation :: rest)).result with
  | error fault => rfl
  | ok root =>
    simp only [Except.bind]
    cases reviseValue doc.id tx root <;> rfl

theorem applyOperation_result (id : String) (root : Json) (operation : Operation Unit) :
    (applyOperation id root operation).result =
      (operation.outcome () root).mapError (.operator operation.kind operation.path id) := by
  unfold applyOperation Operation.outcome outcomeOf
  cases operation.apply () root with
  | error fault => rfl
  | ok edit => cases edit <;> rfl

theorem applyOperations_cons (id : String) (root : Json) (operation : Operation Unit)
    (rest : List (Operation Unit)) :
    (applyOperations id root (operation :: rest)).result =
      (applyOperation id root operation).result.bind
        (fun root => (applyOperations id root rest).result) :=
  Logged.result_bind _ _

/-! ## Computations that go alike -/

/-- Two computations fail with the same fault, or succeed with related values. -/
inductive Alike {ε α β : Type} (related : α → β → Prop) : Except ε α → Except ε β → Prop
  | failed (fault : ε) : Alike related (.error fault) (.error fault)
  | done {a : α} {b : β} (h : related a b) : Alike related (.ok a) (.ok b)

namespace Alike

variable {ε α β α' β' : Type} {related : α → β → Prop} {related' : α' → β' → Prop}
  {first : Except ε α} {second : Except ε β}

theorem bind {next : α → Except ε α'} {next' : β → Except ε β'}
    (h : Alike related first second)
    (hnext : ∀ a b, related a b → Alike related' (next a) (next' b)) :
    Alike related' (first.bind next) (second.bind next') := by
  cases h with
  | failed fault => exact .failed fault
  | done h => exact hnext _ _ h

theorem extend {related' : α' → β → Prop} {next : α → Except ε α'}
    (h : Alike related first second)
    (hnext : ∀ a b, related a b → ∃ a', next a = .ok a' ∧ related' a' b) :
    Alike related' (first.bind next) second := by
  cases h with
  | failed fault => exact .failed fault
  | @done a b h =>
    obtain ⟨a', ha', h'⟩ := hnext a b h
    rw [Except.bind, ha']
    exact .done h'

theorem fails_iff (h : Alike related first second) (fault : ε) :
    first = .error fault ↔ second = .error fault := by
  cases h with
  | failed other => simp
  | done _ => simp

theorem succeeds_iff (h : Alike related first second) :
    (∃ a, first = .ok a) ↔ ∃ b, second = .ok b := by
  cases h with
  | failed fault => simp
  | done _ => simp

theorem related_of_ok {a : α} {b : β} (h : Alike related first second) (ha : first = .ok a)
    (hb : second = .ok b) : related a b := by
  cases h with
  | failed fault => cases ha
  | done h =>
    cases ha
    cases hb
    exact h

end Alike

/-! ## Fields that agree but for stamps -/

/-- The keys that a patch stamps. -/
def stampKeys : List String := ["_rev", "_updatedAt"]

/-- The look-ups of all keys but these are the same. -/
def AgreeBut (keys : List String) (fields other : Fields Json) : Prop :=
  ∀ key ∉ keys, Fields.get? fields key = Fields.get? other key

theorem idOfFields_of_agreeBut {fields other : Fields Json}
    (agree : AgreeBut stampKeys fields other) : idOfFields fields = idOfFields other := by
  unfold idOfFields
  rw [agree "_id" (by decide)]

theorem get?_stampRevision (tx : Transaction) (fields : Fields Json) (key : String) :
    Fields.get? (stampRevision tx fields) key =
      if key = "_updatedAt" then some (.string tx.timestamp)
      else if key = "_rev" then some (.string tx.id) else Fields.get? fields key := by
  unfold stampRevision
  by_cases htime : key = "_updatedAt"
  · subst htime
    rw [if_pos rfl, Fields.get?_set_self]
  · rw [if_neg htime, Fields.get?_set_ne htime]
    by_cases hrev : key = "_rev"
    · subst hrev
      rw [if_pos rfl, Fields.get?_set_self]
    · rw [if_neg hrev, Fields.get?_set_ne hrev]

theorem agreeBut_stampRevision (tx : Transaction) (fields : Fields Json) :
    AgreeBut stampKeys fields (stampRevision tx fields) := by
  intro key hkey
  simp only [stampKeys, List.mem_cons, List.not_mem_nil, or_false, not_or] at hkey
  rw [get?_stampRevision, if_neg hkey.2, if_neg hkey.1]

/-- Stamping removes what the stamps differ in. -/
theorem get?_stamped_eq {fields other : Fields Json} (agree : AgreeBut stampKeys fields other)
    (tx : Transaction) (key : String) :
    Fields.get? (stampRevision tx fields) key = Fields.get? (stampRevision tx other) key := by
  rw [get?_stampRevision, get?_stampRevision]
  by_cases htime : key = "_updatedAt"
  · rw [if_pos htime, if_pos htime]
  · by_cases hrev : key = "_rev"
    · rw [if_neg htime, if_neg htime, if_pos hrev, if_pos hrev]
    · rw [if_neg htime, if_neg htime, if_neg hrev, if_neg hrev]
      exact agree key (by simp [stampKeys, htime, hrev])

theorem distinctKeys_stampRevision (tx : Transaction) {fields : Fields Json}
    (h : (Json.ofFields fields).DistinctKeys) :
    (Json.ofFields (stampRevision tx fields)).DistinctKeys := by
  unfold Json.ofFields at h ⊢
  rw [Value.distinctKeys_object_iff] at h ⊢
  refine ⟨Fields.nodup_set (Fields.nodup_set h.1 _ _) _ _, ?_⟩
  intro key child hfound
  rw [get?_stampRevision] at hfound
  split at hfound
  · cases hfound
    exact .string _
  split at hfound
  · cases hfound
    exact .string _
  · exact h.2 key child hfound

/-! ## One operation -/

/-- The keys at which the operations of a patch must not start: the id and the stamps. -/
def ownKeys : List String := "_id" :: stampKeys

/-- The operation starts at no key that a store writes on its own or reads the id from. -/
def Operation.Foreign (operation : Operation Unit) : Prop :=
  ∀ key ∈ ownKeys, ¬ operation.StartsAt key

/-- An operation that sees no stamps goes alike on fields that differ only in them, and keeps the
id. -/
theorem Operation.outcome_agree {operation : Operation Unit} (foreign : operation.Foreign)
    {fields other : Fields Json} (agree : AgreeBut stampKeys fields other) :
    (∃ fault, operation.outcome () (Json.ofFields fields) = .error fault ∧
        operation.outcome () (Json.ofFields other) = .error fault) ∨
      ∃ fields' other',
        operation.outcome () (Json.ofFields fields) = .ok (Json.ofFields fields') ∧
        operation.outcome () (Json.ofFields other) = .ok (Json.ofFields other') ∧
        AgreeBut stampKeys fields' other' ∧ idOfFields fields' = idOfFields fields := by
  rcases operation.apply_object () with ⟨key, act, starts, here⟩ | ⟨fault, refuses⟩
  · have other_key : ∀ own ∈ ownKeys, own ≠ key := by
      rintro own hown rfl
      exact foreign own hown starts
    have unstamped : key ∉ stampKeys := fun hmem =>
      other_key key (List.mem_cons_of_mem _ hmem) rfl
    -- Both see the same value in the field that is edited.
    have seen : Fields.get? fields key = Fields.get? other key := agree key unstamped
    cases hact : act (Fields.get? fields key) with
    | error fault =>
      exact .inl ⟨fault, here.outcome_error hact (), here.outcome_error (seen ▸ hact) ()⟩
    | ok edit =>
      refine .inr ⟨edit.fields key fields, edit.fields key other, here.outcome_object hact (),
        here.outcome_object (seen ▸ hact) (), ?_, ?_⟩
      · intro found hfound
        rw [edit.get?_fields, edit.get?_fields, seen, agree found hfound]
      · unfold idOfFields
        rw [edit.get?_fields, if_neg (other_key "_id" (by decide))]
  · exact .inl ⟨fault, outcomeOf_error (refuses () fields), outcomeOf_error (refuses () other)⟩

/-- The value that a patch is at between two operations, and the document that its operations, each
a patch of its own, are at: they are the same but for stamps. -/
structure Follows (id : String) (root : Json) (doc : Document) : Prop where
  sameId : doc.id = id
  agree : ∃ fields, root = Json.ofFields fields ∧ AgreeBut stampKeys fields doc.fields
  rootDistinct : root.DistinctKeys
  docDistinct : doc.toJson.DistinctKeys

/-- The document carries the stamps of the transaction. -/
def Document.Stamped (tx : Transaction) (doc : Document) : Prop :=
  ∀ key, Fields.get? (stampRevision tx doc.fields) key = Fields.get? doc.fields key

theorem Document.stamped_revised (doc : Document) (tx : Transaction) :
    (doc.revised tx).Stamped tx := by
  have agree := agreeBut_stampRevision tx doc.fields
  exact get?_stamped_eq (fun other hother => (agree other hother).symm) tx

theorem reviseValue_toJson (doc : Document) (tx : Transaction) :
    reviseValue doc.id tx doc.toJson = .ok (doc.revised tx) :=
  reviseValue_eq_ok_iff.mpr ⟨doc, doc.ofFields_fields, rfl, rfl⟩

section
variable (tx : Transaction) {id : String} {root : Json} {doc : Document}

/-- **One operation keeps step**: inside a patch and as a patch of its own it fails with the same
fault, or leaves the same but for stamps, and the patch stamps the document. -/
theorem step_alike {operation : Operation Unit} (foreign : operation.Foreign)
    (arguments : operation.DistinctKeys) (follows : Follows id root doc) :
    Alike (fun root doc => Follows id root doc ∧ doc.Stamped tx)
      (applyOperation id root operation).result ((Patch.single id operation).revise tx doc) := by
  obtain ⟨rfl, ⟨fields, rfl, agree⟩, rootDistinct, docDistinct⟩ := follows
  rw [Patch.revise_cons (Patch.single_id _ _) (Patch.operations_single _ _),
    applyOperations_cons, applyOperation_result, applyOperation_result]
  unfold Document.toJson at docDistinct ⊢
  rcases operation.outcome_agree foreign agree with
    ⟨fault, hfields, hdoc⟩ | ⟨fields', other', hfields, hdoc, agree', sameId⟩
  · rw [hfields, hdoc]
    exact .failed _
  · rw [hfields, hdoc]
    have hasId : idOfFields other' = .ok doc.id := by
      rw [← idOfFields_of_agreeBut agree', sameId, idOfFields_of_agreeBut agree]
      exact doc.hasId
    show Alike _ (.ok _) (reviseValue doc.id tx (Document.toJson ⟨other', doc.id, hasId⟩))
    rw [reviseValue_toJson ⟨other', doc.id, hasId⟩]
    refine .done ⟨⟨rfl, ⟨fields', rfl, ?_⟩, ?_, ?_⟩, Document.stamped_revised _ tx⟩
    · intro key hkey
      exact (agree' key hkey).trans (agreeBut_stampRevision tx other' key hkey)
    · exact operation.outcome_distinctKeys arguments rootDistinct hfields
    · have otherDistinct := operation.outcome_distinctKeys arguments docDistinct hdoc
      exact distinctKeys_stampRevision tx otherDistinct

/-- **Operations one after the other keep step.** -/
theorem run_alike : ∀ {operations : List (Operation Unit)} {root : Json} {doc : Document},
    (∀ operation ∈ operations, operation.Foreign) →
    (∀ operation ∈ operations, operation.DistinctKeys) →
    Follows id root doc ∧ doc.Stamped tx →
    Alike (fun root doc => Follows id root doc ∧ doc.Stamped tx)
      (applyOperations id root operations).result
      (reviseEach tx doc (operations.map (Patch.single id)))
  | [], _, _, _, _, follows => .done follows
  | operation :: rest, root, doc, foreign, arguments, follows => by
    rw [List.forall_mem_cons] at foreign arguments
    rw [applyOperations_cons, List.map_cons, reviseEach_cons]
    refine (step_alike tx foreign.1 arguments.1 follows.1).bind ?_
    intro root doc follows
    exact run_alike foreign.2 arguments.2 follows

/-- At the end the value, stamped, is the document that carries the stamps already. -/
theorem reviseValue_follows (follows : Follows id root doc) (stamped : doc.Stamped tx) :
    ∃ out, reviseValue id tx root = .ok out ∧ out.equal doc = true := by
  obtain ⟨rfl, ⟨fields, rfl, agree⟩, rootDistinct, docDistinct⟩ := follows
  have hasId : idOfFields fields = .ok doc.id := (idOfFields_of_agreeBut agree).trans doc.hasId
  refine ⟨_, reviseValue_toJson ⟨fields, doc.id, hasId⟩ tx, ?_⟩
  have outDistinct := Value.distinctKeys_object_iff.mp (distinctKeys_stampRevision tx rootDistinct)
  have distinct := Value.distinctKeys_object_iff.mp docDistinct
  refine Value.equal_objects outDistinct.1 distinct.1 ?_ () ()
  intro key
  rw [show Fields.get? (stampRevision tx fields) key = Fields.get? doc.fields key from
    (get?_stamped_eq agree tx key).trans (stamped key)]
  exact sameFound_self (fun value => distinct.2 key value)

end

/-- **A patch does what its operations do one at a time.**  The operations start at no key that is
the id's or a stamp's.  The patch succeeds when they do, each a patch of its own in the same
transaction, and then leaves an equal document; and it fails with the fault with which they fail. -/
theorem revise_stepwise {patch : Patch} {doc : Document} (sameId : patch.id = doc.id)
    (foreign : ∀ operation ∈ patch.operations, operation.Foreign)
    (docDistinct : doc.toJson.DistinctKeys)
    (arguments : ∀ operation ∈ patch.operations, operation.DistinctKeys) (tx : Transaction) :
    ((∃ out, patch.revise tx doc = .ok out) ↔
        ∃ out, reviseEach tx doc patch.singles = .ok out) ∧
      (∀ out out', patch.revise tx doc = .ok out → reviseEach tx doc patch.singles = .ok out' →
        out.equal out' = true) ∧
      ∀ fault, patch.revise tx doc = .error fault ↔
        reviseEach tx doc patch.singles = .error fault := by
  have alike : Alike (fun out out' => Document.equal out out' = true) (patch.revise tx doc)
      (reviseEach tx doc patch.singles) := by
    unfold Patch.singles
    cases hoperations : patch.operations with
    | nil =>
      rw [Patch.revise_nil hoperations]
      exact .done docDistinct.equal_self
    | cons operation rest =>
      rw [hoperations, List.forall_mem_cons] at foreign arguments
      rw [Patch.revise_cons sameId hoperations, applyOperations_cons, sameId, List.map_cons,
        reviseEach_cons]
      have follows : Follows doc.id doc.toJson doc :=
        ⟨rfl, ⟨doc.fields, rfl, fun _ _ => rfl⟩, docDistinct, docDistinct⟩
      have run := (step_alike tx foreign.1 arguments.1 follows).bind
        (fun _ _ follows => run_alike tx foreign.2 arguments.2 follows)
      exact run.extend (fun _ _ ends => reviseValue_follows tx ends.1 ends.2)
  exact ⟨alike.succeeds_iff, fun out out' => alike.related_of_ok, alike.fails_iff⟩

theorem Operation.foreign_of_name {operation : Operation Unit} (key : String)
    (h : (tokensOf operation.path.toList).toOption = some [.identifier key])
    (other : key ∉ ownKeys) : operation.Foreign := by
  rintro own hown ⟨rest, hpath⟩
  have writes : WritesPath .needed [.identifier key] [.attribute key] :=
    .name (.identifier key) .done
  rw [PathExpr.ofText_of_writes h writes] at hpath
  cases hpath
  exact other hown

/-- A lamp that was never stamped. -/
def plainLamp : Document :=
  ⟨[("_id", .string "lamp"), ("level", .number (.ofCount 1))], "lamp", rfl⟩

/-- Two operations that add a field, and one on a field that is there. -/
def lampPatch : Patch :=
  (((Patch.empty "lamp").add (.set "place" (.string "hall"))).add (.setIfMissing "fan" .null)).add
    (.inc "level" (.ofCount 5))

/-- The second field is added in front of the stamps by the patch, and behind the stamps of the first
operation one at a time. -/
theorem revise_stepwise_lamp :
    let tx : Transaction := ⟨"r1", "noon"⟩
    (∀ operation ∈ lampPatch.operations, operation.Foreign) ∧
      ∃ out out', lampPatch.revise tx plainLamp = .ok out ∧
        reviseEach tx plainLamp lampPatch.singles = .ok out' ∧
        out.fields = [("_id", .string "lamp"), ("level", .number (.ofCount 6)),
          ("place", .string "hall"), ("fan", .null), ("_rev", .string "r1"),
          ("_updatedAt", .string "noon")] ∧
        out'.fields = [("_id", .string "lamp"), ("level", .number (.ofCount 6)),
          ("place", .string "hall"), ("_rev", .string "r1"), ("_updatedAt", .string "noon"),
          ("fan", .null)] ∧
        out.equal out' = true := by
  intro tx
  have operations : lampPatch.operations =
      [.set "place" (.string "hall"), .setIfMissing "fan" .null, .inc "level" (.ofCount 5)] := rfl
  have foreign : ∀ operation ∈ lampPatch.operations, operation.Foreign := by
    rw [operations]
    simp only [List.forall_mem_cons]
    exact ⟨Operation.foreign_of_name "place" (by decide +kernel) (by decide),
      Operation.foreign_of_name "fan" (by decide +kernel) (by decide),
      Operation.foreign_of_name "level" (by decide +kernel) (by decide),
      fun _ h => (List.not_mem_nil h).elim⟩
  have arguments : ∀ operation ∈ lampPatch.operations, operation.DistinctKeys := by
    rw [operations]
    simp only [List.forall_mem_cons]
    exact ⟨.string "hall", .null, True.intro, fun _ h => (List.not_mem_nil h).elim⟩
  have distinct : plainLamp.toJson.DistinctKeys := by
    refine .object () (by decide) ?_
    simp only [plainLamp, List.forall_mem_cons]
    exact ⟨.string "lamp", .number _, fun _ h => (List.not_mem_nil h).elim⟩
  have sameId : lampPatch.id = plainLamp.id := rfl
  have stepwise := revise_stepwise sameId foreign distinct arguments tx
  have whole : (lampPatch.revise tx plainLamp).toOption = some
      ⟨[("_id", .string "lamp"), ("level", .number (.ofCount 6)), ("place", .string "hall"),
        ("fan", .null), ("_rev", .string "r1"), ("_updatedAt", .string "noon")], "lamp", rfl⟩ := by
    decide +kernel
  have each : (reviseEach tx plainLamp lampPatch.singles).toOption = some
      ⟨[("_id", .string "lamp"), ("level", .number (.ofCount 6)), ("place", .string "hall"),
        ("_rev", .string "r1"), ("_updatedAt", .string "noon"), ("fan", .null)], "lamp", rfl⟩ := by
    decide +kernel
  have hwhole := eq_ok_of_toOption whole
  have heach := eq_ok_of_toOption each
  exact ⟨foreign, _, _, hwhole, heach, rfl, rfl, stepwise.2.1 _ _ hwhole heach⟩

end DocumentStore
