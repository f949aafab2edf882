import DocumentStore.Proofs.Patch.Editors
import DocumentStore.Proofs.Patch.Edits

/-!
# Operations that do not touch each other

On a path of attributes an operation edits one field, that of the last key in the object that the
keys before it lead to.  Two operations whose paths part somewhere edit different fields, and their
order does not matter.

* `Operation.outcome` — the value that an operation leaves.
* `Operation.fieldEdit` — what each operator does to the field it addresses.

Principal results: `Operation.editsAt` — an operation on a path of attributes is an editor of that
path.  `outcome_comm` — the order of two operations on paths that part does not matter.
-/

set_option autoImplicit false

namespace DocumentStore

variable {L : Type}

open PathExpr

/-! ## What operations do to a field -/

/-- The value that an operation leaves. -/
def Operation.outcome (fresh : L) (operation : Operation L) : Value L → Except Fault (Value L) :=
  outcomeOf (operation.apply fresh)

namespace Operation

/-- No object in what an operation writes has a key twice. -/
def DistinctKeys : Operation L → Prop
  | .set _ value => value.DistinctKeys
  | .setIfMissing _ value => value.DistinctKeys
  | .insert insertion => ∀ item ∈ insertion.items, item.DistinctKeys
  | _ => True

/-- The field of a number that is calculated. -/
def calculation (result? : Number → Option Number) :
    Option (Value L) → Except Fault (FieldEdit L)
  | some (.number n) =>
    match result? n with
    | some result => .ok (.put (.number result))
    | none => .error (.typeMismatch .finiteNumber (some .number))
  | some other => .error (.typeMismatch .number (some other.kind))
  | none => .error (.typeMismatch .number none)

/-- The field of a text that is patched. -/
def patchedText (patch : String) : Option (Value L) → Except Fault (FieldEdit L)
  | some (.string text) =>
    match hunksOf patch.toList with
    | .error problem => .error (.badTextPatch problem)
    | .ok hunks =>
      let patched := (applyHunks hunks text.toList).1
      if patched = text.toList then .ok (.keep none)
      else .ok (.put (.string (String.ofList patched)))
  | some other => .error (.typeMismatch .string (some other.kind))
  | none => .error (.typeMismatch .string none)

/-- What an operation does to the field that it addresses. -/
def fieldEdit : Operation L → Option (Value L) → Except Fault (FieldEdit L)
  | .set _ value, _ => .ok (.put value)
  | .setIfMissing _ value, none => .ok (.put value)
  | .setIfMissing _ _, some _ => .ok (.keep none)
  | .unset _, some _ => .ok .drop
  | .unset _, none => .ok (.keep none)
  | .dec _ amount, found => calculation (fun n => n.sub? amount) found
  | .inc _ amount, found => calculation (fun n => n.add? amount) found
  | .diffMatchPatch _ patch, found => patchedText patch found
  | .insert _, _ => .error (.notAnArray .insert)

/-! ## One key -/

theorem read_attribute (key : String) (label : L) (fields : Fields (Value L)) :
    (PathExpr.attribute key).read (.object label fields) = .ok (Fields.get? fields key) := by
  unfold PathExpr.read
  rfl

theorem calculate_attribute (fresh : L) (result? : Number → Option Number) (key : String)
    (label : L) (fields : Fields (Value L)) :
    Leaf.calculate fresh result? (.attribute key) (.object label fields) =
      (calculation result? (Fields.get? fields key)).map (FieldEdit.edit fresh key fields) := by
  unfold Leaf.calculate
  rw [read_attribute]
  cases Fields.get? fields key with
  | none => rfl
  | some old =>
    cases old with
    | number n =>
      simp only [calculation, bind, Except.bind]
      cases result? n <;> rfl
    | _ => rfl

theorem patchText_attribute (fresh : L) (patch key : String) (label : L)
    (fields : Fields (Value L)) :
    Leaf.patchText fresh patch (.attribute key) (.object label fields) =
      (patchedText patch (Fields.get? fields key)).map (FieldEdit.edit fresh key fields) := by
  unfold Leaf.patchText
  rw [read_attribute]
  cases Fields.get? fields key with
  | none => rfl
  | some old =>
    cases old with
    | string text =>
      simp only [patchedText, bind, Except.bind]
      cases hunksOf patch.toList with
      | error problem => rfl
      | ok hunks =>
        simp only
        split <;> rfl
    | _ => rfl

theorem setIfMissing_attribute (fresh : L) (value : Value L) (key path : String) (label : L)
    (fields : Fields (Value L)) :
    Leaf.setIfMissing fresh value (.attribute key) (.object label fields) =
      ((Operation.setIfMissing path value).fieldEdit (Fields.get? fields key)).map
        (FieldEdit.edit fresh key fields) := by
  unfold Leaf.setIfMissing
  rw [read_attribute]
  cases Fields.get? fields key <;> rfl

theorem unset_attribute (fresh : L) (key path : String) (label : L) (fields : Fields (Value L)) :
    Leaf.unset fresh (.attribute key) (.object label fields) =
      ((Operation.unset path).fieldEdit (Fields.get? fields key)).map
        (FieldEdit.edit fresh key fields) := by
  simp only [Leaf.unset]
  cases Fields.get? fields key <;> rfl

/-- **An operation on one key edits that field.** -/
theorem leaf_atField (fresh : L) (operation : Operation L) (key : String) :
    AtField fresh key operation.fieldEdit (operation.leaf fresh (.attribute key)) := by
  constructor
  · intro root edit h
    cases root with
    | object label fields => exact ⟨label, fields, rfl⟩
    | _ => cases operation <;> cases h
  · intro label fields
    cases operation with
    | set path value => rfl
    | setIfMissing path value => exact setIfMissing_attribute fresh value key path label fields
    | unset path => exact unset_attribute fresh key path label fields
    | dec path amount => exact calculate_attribute fresh _ key label fields
    | inc path amount => exact calculate_attribute fresh _ key label fields
    | diffMatchPatch path patch => exact patchText_attribute fresh patch key label fields
    | insert insertion => rfl

/-! ## Distinct keys -/

theorem keepsDistinct_calculation (result? : Number → Option Number) :
    KeepsDistinct (L := L) (calculation result?) := by
  intro old edit hact hold value hvalue
  unfold calculation at hact
  split at hact
  · split at hact
    · cases hact
      cases hvalue
      exact .number _
    · cases hact
  · cases hact
  · cases hact

theorem keepsDistinct_patchedText (patch : String) :
    KeepsDistinct (L := L) (patchedText patch) := by
  intro old edit hact hold value hvalue
  unfold patchedText at hact
  split at hact
  · split at hact
    · cases hact
    · simp only at hact
      split at hact
      · cases hact
        exact hold value hvalue
      · cases hact
        cases hvalue
        exact .string _
  · cases hact
  · cases hact

/-- What an operation leaves of a field was there or is its argument, a number or a text. -/
theorem keepsDistinct {operation : Operation L} (h : operation.DistinctKeys) :
    KeepsDistinct operation.fieldEdit := by
  intro old edit hact hold value hvalue
  cases operation with
  | set path new =>
    cases hact
    cases hvalue
    exact h
  | setIfMissing path new =>
    cases old with
    | none => cases hact; cases hvalue; exact h
    | some _ => cases hact; exact hold value hvalue
  | unset path =>
    cases old with
    | none => cases hact; exact hold value hvalue
    | some _ => cases hact; cases hvalue
  | dec path amount => exact keepsDistinct_calculation _ old edit hact hold value hvalue
  | inc path amount => exact keepsDistinct_calculation _ old edit hact hold value hvalue
  | diffMatchPatch path patch =>
    exact keepsDistinct_patchedText patch old edit hact hold value hvalue
  | insert insertion => cases hact

/-! ## Paths of keys -/

/-- Behind a first key the value in its field is edited, if it is there and counts as true. -/
theorem atField_editParent (fresh : L) (path key : String) (leaf : Value L → Except Fault (Edit L))
    (rest : List PathExpr) :
    AtField fresh key
      (below (.segmentNotFound path (.attribute key)) (editParent fresh path leaf rest))
      (editParent fresh path leaf (.attribute key :: rest)) := by
  constructor
  · intro root edit hedit
    cases root with
    | object label fields => exact ⟨label, fields, rfl⟩
    | _ => cases hedit
  · intro label fields
    rw [editParent.eq_def]
    simp only [read_attribute, below, bind, Except.bind]
    cases Fields.get? fields key with
    | none => rfl
    | some child =>
      simp only
      by_cases htruthy : child.isTruthy = true
      · rw [if_pos htruthy, if_pos htruthy]
        cases editParent fresh path leaf rest child with
        | error fault => rfl
        | ok edit => cases edit <;> rfl
      · rw [if_neg htruthy, if_neg htruthy]
        rfl

theorem editsAt_editParent (fresh : L) {operation : Operation L} (h : operation.DistinctKeys)
    (path last : String) : ∀ keys : List String, EditsAt fresh (keys ++ [last])
      (editParent fresh path (operation.leaf fresh (.attribute last)) (keys.map .attribute))
  | [] => .field (operation.leaf_atField fresh last) (keepsDistinct h)
  | key :: rest => .within (editsAt_editParent fresh h path last rest)
      (atField_editParent fresh path key (operation.leaf fresh (.attribute last))
        (rest.map .attribute))

/-- **An operation on a path of attributes** edits the field that its keys lead to. -/
theorem editsAt (fresh : L) {operation : Operation L} (h : operation.DistinctKeys)
    {keys : List String} (hpath : ofText operation.path = .ok (.path (keys.map .attribute))) :
    EditsAt fresh keys (operation.apply fresh) := by
  obtain ⟨steps, last, heq⟩ := exists_last hpath
  obtain rfl | ⟨front, key, rfl⟩ := List.eq_nil_or_concat keys
  · cases steps <;> cases heq
  · rw [List.concat_eq_append] at hpath ⊢
    rw [List.map_append, List.map_singleton] at hpath
    have happly : operation.apply fresh = editParent fresh operation.path
        (operation.leaf fresh (.attribute key)) (front.map .attribute) :=
      funext (fun root => apply_of_path hpath fresh root)
    rw [happly]
    exact editsAt_editParent fresh h operation.path key front

/-- **The order of two operations does not matter** on paths of attributes of which neither goes on
from the other: one order succeeds when the other does, and then both leave equal values. -/
theorem outcome_comm {p q : Operation L} {ps qs : List String}
    (hp : ofText p.path = .ok (.path (ps.map .attribute)))
    (hq : ofText q.path = .ok (.path (qs.map .attribute))) (hpart : ¬ ps <+: qs)
    (hpart' : ¬ qs <+: ps) (pDistinct : p.DistinctKeys) (qDistinct : q.DistinctKeys)
    {root : Value L} (rootDistinct : root.DistinctKeys) (fresh fresh' : L) :
    ((∃ out, (p.outcome fresh root >>= q.outcome fresh') = .ok out) ↔
        ∃ out, (q.outcome fresh' root >>= p.outcome fresh) = .ok out) ∧
      ∀ out out', (p.outcome fresh root >>= q.outcome fresh') = .ok out →
        (q.outcome fresh' root >>= p.outcome fresh) = .ok out' → out.equal out' = true := by
  have pEdits : EditsAt fresh ps (p.apply fresh) := editsAt fresh pDistinct hp
  have qEdits : EditsAt fresh' qs (q.apply fresh') := editsAt fresh' qDistinct hq
  have forth := pEdits.exchanges qEdits hpart hpart' rootDistinct
  have back := qEdits.exchanges pEdits hpart' hpart rootDistinct
  refine ⟨⟨?_, ?_⟩, ?_⟩
  · rintro ⟨out, h⟩
    obtain ⟨out', h', -⟩ := forth out h
    exact ⟨out', h'⟩
  · rintro ⟨out, h⟩
    obtain ⟨out', h', -⟩ := back out h
    exact ⟨out', h'⟩
  · intro out out' h h'
    obtain ⟨found, hfound, hequal⟩ := forth out h
    have same : found = out' := Except.ok.inj (hfound.symm.trans h')
    rw [← same]
    exact hequal

/-- A hall with a name. -/
def hallRoot : Value Nat := .object 0 [("hall", .object 1 [("name", .string "north")])]

theorem ofText_hall {path name : String} (h : (tokensOf path.toList).toOption =
    some [.identifier "hall", .joint .dot, .identifier name]) :
    ofText path = .ok (.path (["hall", name].map .attribute)) := by
  have writes : WritesPath .needed [.identifier "hall", .joint .dot, .identifier name]
      (["hall", name].map .attribute) :=
    .name (.identifier "hall") (.name (.identifier name) .done)
  exact ofText_of_writes h writes

/-- The two fields are added in the order of the operations, which does not matter. -/
theorem outcome_comm_hall :
    let p : Operation Nat := .set "hall.fan" (.bool true)
    let q : Operation Nat := .setIfMissing "hall.lamp" .null
    ∃ out out', (p.outcome 8 hallRoot >>= q.outcome 9) = .ok out ∧
      (q.outcome 9 hallRoot >>= p.outcome 8) = .ok out' ∧
      out = .object 9 [("hall", .object 9
        [("name", .string "north"), ("fan", .bool true), ("lamp", .null)])] ∧
      out' = .object 8 [("hall", .object 8
        [("name", .string "north"), ("lamp", .null), ("fan", .bool true)])] ∧
      out.equal out' = true := by
  intro p q
  have hp : ofText p.path = .ok (.path (["hall", "fan"].map .attribute)) :=
    ofText_hall (by decide +kernel)
  have hq : ofText q.path = .ok (.path (["hall", "lamp"].map .attribute)) :=
    ofText_hall (by decide +kernel)
  have rootDistinct : hallRoot.DistinctKeys := by
    refine .object 0 (by decide) ?_
    intro field hfield
    cases List.mem_singleton.mp hfield
    refine .object 1 (by decide) ?_
    intro field hfield
    cases List.mem_singleton.mp hfield
    exact .string "north"
  have pEq (root : Value Nat) : p.outcome 8 root = outcomeOf
      (editParent 8 p.path (p.leaf 8 (.attribute "fan")) [.attribute "hall"]) root := by
    have path : ofText p.path = .ok (.path ([.attribute "hall"] ++ [.attribute "fan"])) := hp
    unfold outcome outcomeOf
    rw [apply_of_path path]
  have qEq (root : Value Nat) : q.outcome 9 root = outcomeOf
      (editParent 9 q.path (q.leaf 9 (.attribute "lamp")) [.attribute "hall"]) root := by
    have path : ofText q.path = .ok (.path ([.attribute "hall"] ++ [.attribute "lamp"])) := hq
    unfold outcome outcomeOf
    rw [apply_of_path path]
  have pq : (p.outcome 8 hallRoot >>= q.outcome 9) = .ok (.object 9 [("hall", .object 9
        [("name", .string "north"), ("fan", .bool true), ("lamp", .null)])]) := by
    rw [pEq]
    exact qEq _
  have qp : (q.outcome 9 hallRoot >>= p.outcome 8) = .ok (.object 8 [("hall", .object 8
        [("name", .string "north"), ("lamp", .null), ("fan", .bool true)])]) := by
    rw [qEq]
    exact pEq _
  exact ⟨_, _, pq, qp, rfl, rfl, (outcome_comm hp hq (by decide) (by decide) (.bool true) .null
    rootDistinct 8 9).2 _ _ pq qp⟩

end Operation

end DocumentStore
