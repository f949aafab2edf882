import DocumentStore.Proofs.Patch.Anchors
import DocumentStore.Proofs.Query.Comparisons
import Mathlib.Data.List.Perm.Subperm

/-!
# Is equality an equivalence?

Equality by value is reflexive and symmetric, whatever the order of fields.  It is not transitive:
two integers are compared exactly, but an integer and a double as doubles, so a double may equal two
different integers.  That is the only way in which it fails: equality goes over from one value to
the next unless at some place in the three values a double stands between two different integers
that are rounded to it.

* `Value.Straddled` — a double stands between two different integers that are rounded to it.

Principal results: `equalItems_iff`, `equal_objects_iff` — containers are equal when their look-ups
agree.  `equal_symm`, `equal_trans_iff` — when equality goes back, and when it goes over.
`equal_laws` — these together with reflexivity.  `equal_not_trans` — three numbers for which it does
not go over.
-/

set_option autoImplicit false

namespace DocumentStore

variable {L : Type}

theorem Number.equal_symm {a b : Number} (h : a.equal b = true) : b.equal a = true := by
  have doubles : b.toBinary64.equal a.toBinary64 = true :=
    toBinary64_equal_iff.mpr (toBinary64_equal_iff.mp (toBinary64_equal h)).symm
  cases a with
  | float x => cases b <;> exact doubles
  | int m =>
    cases b with
    | float y => exact doubles
    | int n => exact equal_int_iff.mpr (equal_int_iff.mp h).symm

/-- Look-ups that agree do so in either order, when the values found do. -/
theorem SameFound.back {found other : Option (Value L)} (h : SameFound found other)
    (children : ∀ a b, found = some a → other = some b → a.equal b = true → b.equal a = true) :
    SameFound other found := by
  cases h with
  | nothing => exact .nothing
  | found equal => exact .found (children _ _ rfl rfl equal)

namespace Value

/-- At some place in three values a double, in the second, stands between two different integers,
which are rounded alike. -/
inductive Straddled : Value L → Value L → Value L → Prop
  | number {m n : Integer} (x : Finite) (alike : m.RoundedAlike n) :
    Straddled (.number (.int m)) (.number (.float x)) (.number (.int n))
  | item {first second third : L} {as bs cs : List (Value L)} {a b c : Value L} (i : Nat)
    (ha : as[i]? = some a) (hb : bs[i]? = some b) (hc : cs[i]? = some c)
    (within : Straddled a b c) :
    Straddled (.array first as) (.array second bs) (.array third cs)
  | field {first second third : L} {as bs cs : Fields (Value L)} {a b c : Value L} (key : String)
    (ha : Fields.get? as key = some a) (hb : Fields.get? bs key = some b)
    (hc : Fields.get? cs key = some c) (within : Straddled a b c) :
    Straddled (.object first as) (.object second bs) (.object third cs)

/-! ## Containers -/

theorem sameFound_some_iff {a b : Value L} : SameFound (some a) (some b) ↔ a.equal b = true := by
  constructor
  · intro h
    cases h with
    | found equal => exact equal
  · exact .found

/-- **Items are equal** when those at each place are. -/
theorem equalItems_iff {as bs : List (Value L)} :
    equalItems as bs = true ↔ ∀ i : Nat, SameFound as[i]? bs[i]? := by
  induction as generalizing bs with
  | nil =>
    cases bs with
    | nil => exact iff_of_true rfl (fun _ => .nothing)
    | cons b bs => exact iff_of_false nofun (fun h => nomatch h 0)
  | cons a as ih =>
    cases bs with
    | nil => exact iff_of_false nofun (fun h => nomatch h 0)
    | cons b bs =>
      rw [equalItems, Bool.and_eq_true, ih, ← sameFound_some_iff]
      constructor
      · rintro ⟨first, rest⟩ (_ | i)
        · exact first
        · exact rest i
      · exact fun h => ⟨h 0, fun i => h (i + 1)⟩

theorem sameFound_of_equal {label label' : L} {fields other : Fields (Value L)}
    (distinct : (Fields.keys fields).Nodup)
    (h : (object label fields).equal (.object label' other) = true) (key : String) :
    SameFound (Fields.get? fields key) (Fields.get? other key) := by
  unfold equal at h
  rw [Bool.and_eq_true, beq_iff_eq, equalFields_iff] at h
  obtain ⟨size, each⟩ := h
  cases hfound : Fields.get? fields key with
  | some value =>
    obtain ⟨before, behind, rfl, -⟩ := Fields.exists_split hfound
    exact each (key, value) (List.mem_append_right _ List.mem_cons_self)
  | none =>
    -- The keys of the first are among those of the second, which has no more of them.
    have among : Fields.keys fields ⊆ Fields.keys other := by
      intro k hk
      obtain ⟨field, hmem, rfl⟩ := List.mem_map.mp hk
      have found := each field hmem
      refine Decidable.not_not.mp (fun absent => ?_)
      rw [Fields.get?_eq_none_iff.mpr absent] at found
      cases found
    have same : (Fields.keys fields).Perm (Fields.keys other) :=
      (List.subperm_of_subset distinct among).perm_of_length_le (by simp [Fields.keys, size])
    have absent : Fields.get? other key = none :=
      Fields.get?_eq_none_iff.mpr
        (fun hmem => Fields.get?_eq_none_iff.mp hfound (same.mem_iff.mpr hmem))
    rw [absent]
    exact .nothing

/-- **Objects are equal** exactly when their look-ups agree. -/
theorem equal_objects_iff {label label' : L} {fields other : Fields (Value L)}
    (distinct : (Fields.keys fields).Nodup) (hother : (Fields.keys other).Nodup) :
    (object label fields).equal (.object label' other) = true ↔
      ∀ key, SameFound (Fields.get? fields key) (Fields.get? other key) :=
  ⟨sameFound_of_equal distinct, fun agree => equal_objects distinct hother agree label label'⟩

/-! ## Symmetry -/

/-- **Equality goes back.** -/
theorem equal_symm {a b : Value L} (ha : a.DistinctKeys) (hb : b.DistinctKeys)
    (h : a.equal b = true) : b.equal a = true := by
  induction ha generalizing b with
  | null =>
    cases b with
    | null => rfl
    | _ => cases h
  | bool x =>
    cases b with
    | bool y => exact beq_iff_eq.mpr (beq_iff_eq.mp h).symm
    | _ => cases h
  | number m =>
    cases b with
    | number n => exact Number.equal_symm h
    | _ => cases h
  | string s =>
    cases b with
    | string t => exact beq_iff_eq.mpr (beq_iff_eq.mp h).symm
    | _ => cases h
  | @array label items each ih =>
    cases b with
    | array label' others =>
      cases hb with
      | array _ hothers =>
        have agree := equalItems_iff.mp h
        refine equalItems_iff.mpr (fun i => (agree i).back ?_)
        exact fun x y hx hy equal =>
          ih x (List.mem_of_getElem? hx) (hothers y (List.mem_of_getElem? hy)) equal
    | _ => cases h
  | @object label fields distinct each ih =>
    cases b with
    | object label' others =>
      obtain ⟨hdistinct, hothers⟩ := distinctKeys_object_iff.mp hb
      have agree := (equal_objects_iff distinct hdistinct).mp h
      refine (equal_objects_iff hdistinct distinct).mpr (fun key => (agree key).back ?_)
      intro x y hx hy equal
      obtain ⟨before, behind, rfl, -⟩ := Fields.exists_split hx
      exact ih (key, x) (by simp) (hothers key y hy) equal
    | _ => cases h

/-! ## Transitivity -/

/-- Equality of values that are no containers goes over, unless a double stands between integers. -/
theorem equal_trans_iff_of_flat {a b c : Value L} (flat : b.isContainer = false)
    (first : a.equal b = true) (second : b.equal c = true) :
    a.equal c = true ↔ ¬ Straddled a b c := by
  rcases equal_trans_or flat first second with equal | ⟨m, x, n, rfl, rfl, rfl⟩
  · refine iff_of_true equal (fun within => ?_)
    cases within with
    | @number m n _ alike =>
      have same : (m.value == n.value) = true := equal
      exact alike.differ (beq_iff_eq.mp same)
    | item => cases flat
    | field => cases flat
  · have doubles : (Binary64.ofInt m.value).equal (.ofInt n.value) = true :=
      Binary64.equal_trans (x := .ofInt m.value) (y := .finite x) (z := .ofInt n.value) first second
    show (m.value == n.value) = true ↔ _
    rw [beq_iff_eq]
    constructor
    · intro same within
      cases within with
      | number _ alike => exact alike.differ same
    · intro apart
      by_contra differ
      exact apart (.number x ⟨differ, doubles⟩)

/-- Look-ups that agree go over where the values found do. -/
theorem sameFound_trans_iff {K : Type} {f g h : K → Option (Value L)}
    (first : ∀ k, SameFound (f k) (g k)) (second : ∀ k, SameFound (g k) (h k))
    (children : ∀ k a b c, f k = some a → g k = some b → h k = some c → a.equal b = true →
      b.equal c = true → (a.equal c = true ↔ ¬ Straddled a b c)) :
    (∀ k, SameFound (f k) (h k)) ↔
      ∀ k a b c, f k = some a → g k = some b → h k = some c → ¬ Straddled a b c := by
  refine forall_congr' (fun k => ?_)
  have hfirst := first k
  have hsecond := second k
  have hchildren := children k
  generalize f k = x, g k = y, h k = z at *
  cases hfirst with
  | nothing =>
    cases hsecond
    exact iff_of_true .nothing nofun
  | found ab =>
    cases hsecond with
    | found bc =>
      rw [sameFound_some_iff, hchildren _ _ _ rfl rfl rfl ab bc]
      constructor
      · rintro apart _ _ _ ⟨⟩ ⟨⟩ ⟨⟩
        exact apart
      · exact fun apart => apart _ _ _ rfl rfl rfl

/-- **Equality goes over** from one value to the next, unless at some place a double stands between
two different integers. -/
theorem equal_trans_iff {a b c : Value L} (ha : a.DistinctKeys) (hb : b.DistinctKeys)
    (hc : c.DistinctKeys) (first : a.equal b = true) (second : b.equal c = true) :
    a.equal c = true ↔ ¬ Straddled a b c := by
  induction ha generalizing b c with
  | @array label items each ih =>
    cases b with
    | array label' others =>
      cases c with
      | array label'' thirds =>
        cases hb with
        | array _ hothers =>
          cases hc with
          | array _ hthirds =>
            show equalItems items thirds = true ↔ _
            rw [equalItems_iff, sameFound_trans_iff (equalItems_iff.mp first)
              (equalItems_iff.mp second)]
            · constructor
              · rintro apart (_ | ⟨i, hx, hy, hz, within⟩ | _)
                exact apart i _ _ _ hx hy hz within
              · exact fun apart i x y z hx hy hz within => apart (.item i hx hy hz within)
            · exact fun i x y z hx hy hz xy yz => ih x (List.mem_of_getElem? hx)
                (hothers y (List.mem_of_getElem? hy)) (hthirds z (List.mem_of_getElem? hz)) xy yz
      | _ => cases second
    | _ => cases first
  | @object label fields distinct each ih =>
    cases b with
    | object label' others =>
      cases c with
      | object label'' thirds =>
        obtain ⟨hdistinct, hothers⟩ := distinctKeys_object_iff.mp hb
        obtain ⟨hdistinct', hthirds⟩ := distinctKeys_object_iff.mp hc
        rw [equal_objects_iff distinct hdistinct',
          sameFound_trans_iff ((equal_objects_iff distinct hdistinct).mp first)
            ((equal_objects_iff hdistinct hdistinct').mp second)]
        · constructor
          · rintro apart (_ | _ | ⟨key, hx, hy, hz, within⟩)
            exact apart key _ _ _ hx hy hz within
          · exact fun apart key x y z hx hy hz within => apart (.field key hx hy hz within)
        · intro key x y z hx hy hz xy yz
          obtain ⟨before, behind, rfl, -⟩ := Fields.exists_split hx
          exact ih (key, x) (by simp) (hothers key y hy) (hthirds key z hz) xy yz
      | _ => cases second
    | _ => cases first
  | _ =>
    refine equal_trans_iff_of_flat ?_ first second
    cases b <;> first | rfl | cases first

/-- **The laws of equality.**  Among values without a key twice in an object, equality is reflexive
and symmetric.  When a first value equals a second and that a third, the first equals the third
exactly unless at some place in them a double stands between two different integers that are rounded
to it. -/
theorem equal_laws {a b c : Value L} (ha : a.DistinctKeys) (hb : b.DistinctKeys)
    (hc : c.DistinctKeys) :
    a.equal a = true ∧ a.equal b = b.equal a ∧
      (a.equal b = true → b.equal c = true → (a.equal c = true ↔ ¬ Straddled a b c)) := by
  refine ⟨ha.equal_self, ?_, equal_trans_iff ha hb hc⟩
  rw [Bool.eq_iff_iff]
  exact ⟨equal_symm ha hb, equal_symm hb ha⟩

/-- A record with its fields in either order, a whole number in either form. -/
def shelf (swapped : Bool) (n : Number) : Json :=
  let level : String × Json := ("level", .array () [.number n])
  let place : String × Json := ("place", .string "hall")
  .object () (if swapped then [place, level] else [level, place])

theorem shelf_distinctKeys (swapped : Bool) (n : Number) : (shelf swapped n).DistinctKeys := by
  have level : (Value.array () [.number n] : Json).DistinctKeys :=
    .array () (List.forall_mem_singleton.mpr (.number n))
  have place : (Value.string "hall" : Json).DistinctKeys := .string "hall"
  cases swapped
  · exact .object () (by simp [Fields.keys]) (by simp [level, place])
  · exact .object () (by simp [Fields.keys]) (by simp [level, place])

/-- Equality goes over from an integer by way of the double that it is. -/
theorem equal_laws_shelf :
    let one : Number := .int ⟨1, by decide⟩
    let double : Number := .float ⟨false, unitsPerOne, by decide +kernel⟩
    (shelf false one).DistinctKeys ∧ (shelf true double).DistinctKeys ∧
      (shelf true one).DistinctKeys ∧ (shelf false one).equal (shelf true double) = true ∧
      (shelf true double).equal (shelf true one) = true ∧
      ¬ Straddled (shelf false one) (shelf true double) (shelf true one) ∧
      (shelf true one).equal (shelf false one) = true := by
  intro one double
  obtain ⟨-, symm, trans⟩ := equal_laws (shelf_distinctKeys false one)
    (shelf_distinctKeys true double) (shelf_distinctKeys true one)
  obtain ⟨-, back, -⟩ := equal_laws (shelf_distinctKeys false one)
    (shelf_distinctKeys true one) (shelf_distinctKeys true one)
  have first : (shelf false one).equal (shelf true double) = true := by decide +kernel
  have second : (shelf true double).equal (shelf true one) = true := by decide +kernel
  have whole : (shelf false one).equal (shelf true one) = true := by decide +kernel
  exact ⟨shelf_distinctKeys _ _, shelf_distinctKeys _ _, shelf_distinctKeys _ _, first, second,
    (trans first second).mp whole, back ▸ whole⟩

/-- An integer equals the double next to it, and that another integer. -/
theorem equal_not_trans :
    let odd : Json := Json.ofCount 9007199254740993
    let double : Json := .number roundedLevel
    let even : Json := Json.ofCount 9007199254740992
    odd.equal double = true ∧ double.equal even = true ∧ odd.equal even = false := by
  decide +kernel

end Value

end DocumentStore
