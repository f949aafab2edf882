import DocumentStore.Json.Reader
import DocumentStore.Proofs.Json.Fields

/-!
# Equality by value

Two objects with distinct keys are equal by value when every key holds equal values in both, in
whatever order the fields stand.  In particular a value is equal to itself, given that no object in
it has a key twice.

* `Value.DistinctKeys` — no object has a key twice.
* `SameFound` — two look-ups agree: both find nothing, or values that are equal.

Principal results: `equal_objects` — objects are equal when their look-ups agree.  `equal_self` — a
value with distinct keys is equal to itself.  `equal_relabel` — labels do not matter.
`ofText?_distinctKeys` — every value that is read from a text has distinct keys.
-/

set_option autoImplicit false

namespace DocumentStore

variable {L : Type}

theorem Number.equal_self (n : Number) : n.equal n = true := by
  cases n with
  | int m => exact beq_self_eq_true m.value
  | float x =>
    have order : compareOfLessAndEq x.signedUnits x.signedUnits = .eq :=
      (compareOfLessAndEq_eq_eq Int.le_refl Int.not_le).mpr rfl
    show (some (compareOfLessAndEq x.signedUnits x.signedUnits) == some .eq) = true
    rw [order]
    rfl

namespace Value

/-- No object in the value has a key twice. -/
inductive DistinctKeys : Value L → Prop
  | null : DistinctKeys .null
  | bool (b : Bool) : DistinctKeys (.bool b)
  | number (n : Number) : DistinctKeys (.number n)
  | string (s : String) : DistinctKeys (.string s)
  | array (label : L) {items : List (Value L)} (each : ∀ item ∈ items, DistinctKeys item) :
    DistinctKeys (.array label items)
  | object (label : L) {fields : Fields (Value L)} (distinct : (Fields.keys fields).Nodup)
    (each : ∀ field ∈ fields, DistinctKeys field.2) : DistinctKeys (.object label fields)

end Value

/-- Two look-ups find nothing, or values that are equal. -/
inductive SameFound : Option (Value L) → Option (Value L) → Prop
  | nothing : SameFound none none
  | found {a b : Value L} (equal : a.equal b = true) : SameFound (some a) (some b)

namespace Value

theorem equalFields_iff {fields other : Fields (Value L)} :
    equalFields fields other = true ↔
      ∀ field ∈ fields, SameFound (some field.2) (Fields.get? other field.1) := by
  induction fields with
  | nil => simp [equalFields]
  | cons field rest ih =>
    obtain ⟨key, a⟩ := field
    rw [equalFields, Bool.and_eq_true, ih, List.forall_mem_cons]
    refine and_congr_left (fun _ => ?_)
    constructor
    · intro h
      cases hfound : Fields.get? other key with
      | none => rw [hfound] at h; cases h
      | some b => rw [hfound] at h; exact .found h
    · intro h
      cases hfound : Fields.get? other key with
      | none => rw [hfound] at h; cases h
      | some b =>
        rw [hfound] at h
        cases h with
        | found hequal => exact hequal

theorem mem_keys_iff {fields other : Fields (Value L)}
    (agree : ∀ key, SameFound (Fields.get? fields key) (Fields.get? other key)) (key : String) :
    key ∈ Fields.keys fields ↔ key ∈ Fields.keys other := by
  have absent : Fields.get? fields key = none ↔ Fields.get? other key = none := by
    have found := agree key
    generalize Fields.get? fields key = a, Fields.get? other key = b at found
    cases found <;> simp
  rw [Fields.get?_eq_none_iff, Fields.get?_eq_none_iff] at absent
  exact Decidable.not_iff_not.mp absent

/-- **Objects are equal when their look-ups agree**, in whatever order their fields stand. -/
theorem equal_objects {fields other : Fields (Value L)} (distinct : (Fields.keys fields).Nodup)
    (hother : (Fields.keys other).Nodup)
    (agree : ∀ key, SameFound (Fields.get? fields key) (Fields.get? other key))
    (label label' : L) : (Value.object label fields).equal (.object label' other) = true := by
  have size : fields.length = other.length := by
    have perm : (Fields.keys fields).Perm (Fields.keys other) :=
      (List.perm_ext_iff_of_nodup distinct hother).mpr (mem_keys_iff agree)
    simpa [Fields.keys] using perm.length_eq
  unfold equal
  rw [size, beq_self_eq_true, Bool.true_and, equalFields_iff]
  intro field hmem
  have found := agree field.1
  rw [Fields.get?_of_mem distinct hmem] at found
  exact found

theorem equalItems_self {items : List (Value L)} (h : ∀ item ∈ items, item.equal item = true) :
    equalItems items items = true := by
  induction items with
  | nil => rfl
  | cons item rest ih =>
    rw [List.forall_mem_cons] at h
    rw [equalItems, h.1, ih h.2, Bool.true_and]

theorem distinctKeys_object_iff {label : L} {fields : Fields (Value L)} :
    (Value.object label fields).DistinctKeys ↔ (Fields.keys fields).Nodup ∧
      ∀ key child, Fields.get? fields key = some child → child.DistinctKeys := by
  constructor
  · intro h
    cases h with
    | object _ distinct each =>
      refine ⟨distinct, ?_⟩
      intro key child hfound
      obtain ⟨before, behind, rfl, -⟩ := Fields.exists_split hfound
      exact each (key, child) (List.mem_append_right _ List.mem_cons_self)
  · rintro ⟨distinct, hfound⟩
    refine .object label distinct ?_
    rintro ⟨key, child⟩ hmem
    exact hfound key child (Fields.get?_of_mem distinct hmem)

/-- **A value with distinct keys is equal to itself.** -/
theorem DistinctKeys.equal_self {value : Value L} (h : value.DistinctKeys) :
    value.equal value = true := by
  induction h with
  | null => rfl
  | bool b => exact beq_self_eq_true b
  | number n => exact n.equal_self
  | string s => exact beq_self_eq_true s
  | array label each ih => exact equalItems_self ih
  | @object label fields distinct each ih =>
    refine equal_objects distinct distinct ?_ label label
    intro key
    cases hfound : Fields.get? fields key with
    | none => exact .nothing
    | some child =>
      obtain ⟨before, behind, rfl, -⟩ := Fields.exists_split hfound
      exact .found (ih (key, child) (List.mem_append_right _ List.mem_cons_self))

end Value

theorem sameFound_self {found : Option (Value L)}
    (h : ∀ value, found = some value → value.DistinctKeys) : SameFound found found := by
  cases found with
  | none => exact .nothing
  | some value => exact .found (h value rfl).equal_self

/-! ## Labels -/

theorem Fields.get?_relabelFields {M : Type} (f : L → M) (fields : Fields (Value L))
    (key : String) : Fields.get? (Value.relabelFields f fields) key =
      (Fields.get? fields key).map (Value.relabel f) := by
  induction fields with
  | nil => rfl
  | cons field rest ih =>
    obtain ⟨k, value⟩ := field
    rw [Value.relabelFields, Fields.get?_cons, Fields.get?_cons, ih]
    by_cases h : key = k
    · rw [if_pos h, if_pos h, Option.map_some]
    · rw [if_neg h, if_neg h]

namespace Value

theorem length_relabelFields {M : Type} (f : L → M) (fields : Fields (Value L)) :
    (relabelFields f fields).length = fields.length := by
  induction fields with
  | nil => rfl
  | cons field rest ih => rw [relabelFields, List.length_cons, List.length_cons, ih]

mutual

/-- **Labels do not matter** for equality by value. -/
theorem equal_relabel {M : Type} (f g : L → M) : ∀ a b : Value L,
    (relabel f a).equal (relabel g b) = a.equal b
  | .null, b => by cases b <;> rfl
  | .bool _, b => by cases b <;> rfl
  | .number _, b => by cases b <;> rfl
  | .string _, b => by cases b <;> rfl
  | .array _ as, b => by
    cases b with
    | array _ bs => exact equalItems_relabel f g as bs
    | _ => rfl
  | .object _ as, b => by
    cases b with
    | object _ bs =>
      unfold relabel equal
      rw [length_relabelFields, length_relabelFields, equalFields_relabel f g as bs]
    | _ => rfl

theorem equalItems_relabel {M : Type} (f g : L → M) : ∀ as bs : List (Value L),
    equalItems (relabelItems f as) (relabelItems g bs) = equalItems as bs
  | [], bs => by cases bs <;> rfl
  | a :: as, bs => by
    cases bs with
    | nil => rfl
    | cons b bs =>
      rw [relabelItems, relabelItems, equalItems, equalItems, equal_relabel f g a b,
        equalItems_relabel f g as bs]

theorem equalFields_relabel {M : Type} (f g : L → M) : ∀ as bs : Fields (Value L),
    equalFields (relabelFields f as) (relabelFields g bs) = equalFields as bs
  | [], _ => rfl
  | (key, a) :: as, bs => by
    rw [relabelFields, equalFields, equalFields, equalFields_relabel f g as bs,
      Fields.get?_relabelFields]
    cases Fields.get? bs key with
    | none => rfl
    | some b => simp only [Option.map_some, equal_relabel f g a b]

end

end Value

/-! ## Values read from texts -/

/-- Fields written one after the other have distinct keys, and hold values that were written. -/
theorem Fields.ofList_distinctKeys {fields : List (String × Value L)}
    (each : ∀ field ∈ fields, field.2.DistinctKeys) (label : L) :
    (Value.object label (Fields.ofList fields)).DistinctKeys := by
  have write : ∀ (fields : List (String × Value L)) (written : Fields (Value L)),
      (∀ field ∈ fields, field.2.DistinctKeys) → (Fields.keys written).Nodup →
      (∀ field ∈ written, field.2.DistinctKeys) →
      (Value.object label (fields.foldl
        (fun written field => Fields.set field.1 field.2 written) written)).DistinctKeys := by
    intro fields
    induction fields with
    | nil => exact fun written _ distinct hwritten => .object label distinct hwritten
    | cons field rest ih =>
      intro written heach distinct hwritten
      rw [List.forall_mem_cons] at heach
      refine ih (Fields.set field.1 field.2 written) heach.2 (Fields.nodup_set distinct _ _) ?_
      intro other hmem
      rcases Fields.mem_set hmem with rfl | hold
      · exact heach.1
      · exact hwritten other hold
  exact write fields [] each List.nodup_nil (fun _ h => (List.not_mem_nil h).elim)

mutual

theorem Draft.toJson?_distinctKeys : ∀ {depth : Nat} {draft : Draft} {value : Json},
    draft.toJson? depth = some value → value.DistinctKeys
  | depth, .null, value, h => by
    unfold toJson? at h
    cases h
    exact .null
  | depth, .bool b, value, h => by
    unfold toJson? at h
    cases h
    exact .bool b
  | depth, .number n, value, h => by
    unfold toJson? at h
    obtain ⟨read, -, rfl⟩ := Option.map_eq_some_iff.mp h
    exact .number read
  | depth, .string pieces, value, h => by
    unfold toJson? at h
    obtain ⟨read, -, rfl⟩ := Option.map_eq_some_iff.mp h
    exact .string read
  | 0, .array items, value, h => by
    unfold toJson? at h
    cases h
  | depth + 1, .array items, value, h => by
    unfold toJson? at h
    obtain ⟨read, hread, rfl⟩ := Option.map_eq_some_iff.mp h
    exact .array () (Draft.itemsToJson?_distinctKeys hread)
  | 0, .object fields, value, h => by
    unfold toJson? at h
    cases h
  | depth + 1, .object fields, value, h => by
    unfold toJson? at h
    obtain ⟨read, hread, rfl⟩ := Option.map_eq_some_iff.mp h
    exact Fields.ofList_distinctKeys (Draft.fieldsToJson?_distinctKeys hread) ()

theorem Draft.itemsToJson?_distinctKeys : ∀ {depth : Nat} {drafts : List Draft}
    {items : List Json}, Draft.itemsToJson? depth drafts = some items →
      ∀ item ∈ items, item.DistinctKeys
  | depth, [], items, h => by
    unfold Draft.itemsToJson? at h
    cases h
    exact fun _ h => (List.not_mem_nil h).elim
  | depth, draft :: rest, items, h => by
    unfold Draft.itemsToJson? at h
    obtain ⟨item, hitem, h⟩ := Option.bind_eq_some_iff.mp h
    obtain ⟨others, hothers, h⟩ := Option.bind_eq_some_iff.mp h
    cases h
    rw [List.forall_mem_cons]
    exact ⟨Draft.toJson?_distinctKeys hitem, Draft.itemsToJson?_distinctKeys hothers⟩

theorem Draft.fieldsToJson?_distinctKeys : ∀ {depth : Nat} {drafts : List (List Piece × Draft)}
    {fields : List (String × Json)}, Draft.fieldsToJson? depth drafts = some fields →
      ∀ field ∈ fields, field.2.DistinctKeys
  | depth, [], fields, h => by
    unfold Draft.fieldsToJson? at h
    cases h
    exact fun _ h => (List.not_mem_nil h).elim
  | depth, (pieces, draft) :: rest, fields, h => by
    unfold Draft.fieldsToJson? at h
    obtain ⟨key, -, h⟩ := Option.bind_eq_some_iff.mp h
    obtain ⟨value, hvalue, h⟩ := Option.bind_eq_some_iff.mp h
    obtain ⟨others, hothers, h⟩ := Option.bind_eq_some_iff.mp h
    cases h
    rw [List.forall_mem_cons]
    exact ⟨Draft.toJson?_distinctKeys hvalue, Draft.fieldsToJson?_distinctKeys hothers⟩

end

/-- **A value that is read from a text has distinct keys.** -/
theorem Json.ofText?_distinctKeys {text : String} {value : Json}
    (h : Json.ofText? text = some value) : value.DistinctKeys := by
  unfold Json.ofText? at h
  obtain ⟨draft, -, hvalue⟩ := Option.bind_eq_some_iff.mp h
  exact Draft.toJson?_distinctKeys hvalue

end DocumentStore
