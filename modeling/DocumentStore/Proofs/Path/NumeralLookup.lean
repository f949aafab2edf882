import DocumentStore.Proofs.Binary64.Closest
import DocumentStore.Proofs.Json.Numbers
import DocumentStore.Proofs.Patch.Insertion
import DocumentStore.Proofs.Path.RoundTrip

/-!
# Records looked up by a number

A numeral in a path stands for the double closest to it, so the constraint `[key==123]` selects the
first record that holds just that double under the key, as an integer or as a double.  A numeral
too long for a double stands for null.  Where doubles are rarer than integers, a record may hold
the integer that is written and not be selected, and one that holds another may be.

* `numeralConstraint` — a field compared with a numeral, as it is written.
* `Number.isInt` — the numbers, of either form, that are an integer.
* `Value.holdsNumber` — the records that hold a number of some kind.

Principal results: `read_records` — a constraint on a field reads the first record whose field
equals the literal.  `exists_literal` — the numbers that equal an integral double.
`valueAt_numeral` — the record that a numeral selects.
-/

set_option autoImplicit false

namespace DocumentStore

open PathExpr

/-! ## The path -/

/-- The text of a constraint that compares a field with a numeral. -/
def numeralConstraint (key : String) (n : Numeral) : String :=
  String.ofList ('[' :: (attributeText key ++ ("==".toList ++ (n.text ++ [']']))))

/-- **The text of a constraint reads as it.** -/
theorem ofText_numeralConstraint (key : String) {n : Numeral} (proper : n.Proper) :
    ofText (numeralConstraint key n) =
      .ok (.path [equality (.attribute key) (some (.number n.toBinary64))]) := by
  obtain ⟨token, hwrites, hkey⟩ := attribute_written key
  have hopening : Reads (fun _ => false) ['['] [.bracket .opening] := reads_bracket .opening
  have hclosing : Reads (fun _ => false) [']'] [.bracket .closing] := reads_bracket .closing
  have hnumeral := reads_numeral proper
  have hright : Reads (fun _ => false) (n.text ++ [']']) [.number n, .bracket .closing] :=
    hnumeral.reads.append_cons hclosing (by decide)
  have hback := (reads_comparator .eq).append hright (fun rest _ => by
    rw [List.append_assoc]
    exact hnumeral.noHead _ _)
  have hwithin := hkey.reads.append hback (fun rest _ => noHead_cons (by decide))
  have htokens := (hopening.append_of_final hwithin).tokensOf_eq
  have constraint : WritesConstraint [token, .comparator .eq, .number n]
      (.constraint (.compare .eq) (.attribute key) (some (.number n.toBinary64))) :=
    .compare .eq (.name hwrites) (.number n)
  have path : WritesPath .needed
      [.bracket .opening, token, .comparator .eq, .number n, .bracket .closing]
      [equality (.attribute key) (some (.number n.toBinary64))] :=
    .union (.terms (.constraint constraint) .done) .done
  refine ofText_of_writes ?_ path
  rw [numeralConstraint, String.toList_ofList]
  exact congrArg Except.toOption htokens

/-! ## Numbers that equal a literal -/

namespace Number

/-- Whether a number, of either form, is exactly an integer. -/
def isInt (i : Int) : Number → Bool
  | .int n => n.value == i
  | .float x => x.signedUnits == i * unitsPerOne

end Number

theorem Finite.truncate_of_whole {x : Finite} {i : Int} (h : x.signedUnits = i * unitsPerOne) :
    x.isIntegral = true ∧ x.truncate = i := by
  have hunits := units_of_whole h
  have hpos : (unitsPerOne : Int) ≠ 0 := Int.natCast_ne_zero.mpr unitsPerOne_pos.ne'
  unfold Finite.signedUnits at h
  rw [hunits, signed_mul] at h
  constructor
  · simp [isIntegral, hunits]
  · unfold truncate
    rw [hunits, Nat.mul_div_cancel _ unitsPerOne_pos]
    exact Int.eq_of_mul_eq_mul_right hpos h

namespace Number

theorem equal_int_eq {k : Integer} {x : Finite} {i : Int} (value : k.value = i)
    (double : x.signedUnits = i * unitsPerOne) (a : Number) : a.equal (.int k) = a.isInt i := by
  subst value
  have exact : (int k).units = k.value * unitsPerOne :=
    roundedUnits_of_representable (Finite.units_of_whole double ▸ x.representable)
  cases a with
  | int m => rfl
  | float y =>
    have heq : (float y).equal (.int k) = true ↔ y.signedUnits = k.value * unitsPerOne := by
      rw [← exact]
      exact toBinary64_equal_iff (a := float y)
    rw [Bool.eq_iff_iff, heq]
    exact beq_iff_eq.symm

/-- An integer of 64 bits is rounded to no less than the least, and to `2 ^ 64` at most. -/
theorem units_int_bounds (m : Integer) :
    minSigned * unitsPerOne ≤ (int m).units ∧ (int m).units ≤ 2 ^ 64 * unitsPerOne := by
  have least : minSigned.natAbs = 2 ^ 63 := by decide
  have greatest : ((2 : Int) ^ 64).natAbs = 2 ^ 64 := by decide
  rw [← roundedUnits_pow least (by decide), ← roundedUnits_pow greatest (by decide)]
  exact ⟨roundedUnits_mono m.inRange.1,
    roundedUnits_mono (Int.le_trans m.inRange.2 (by decide))⟩

theorem equal_float_eq {x : Finite} {i : Int} (double : x.signedUnits = i * unitsPerOne)
    (beyond : i < minSigned ∨ 2 ^ 64 < i) (a : Number) : a.equal (.float x) = a.isInt i := by
  have heq : a.equal (.float x) = true ↔ a.units = i * unitsPerOne := by
    rw [← double]
    cases a <;> exact toBinary64_equal_iff (b := float x)
  rw [Bool.eq_iff_iff, heq]
  cases a with
  | float y => exact beq_iff_eq.symm
  | int m =>
    have inRange := m.inRange
    have hne : m.value ≠ i := by
      unfold minSigned maxUnsigned at *
      omega
    refine iff_of_false ?_ (by simpa [isInt] using hne)
    intro hunits
    obtain ⟨hleast, hgreatest⟩ := units_int_bounds m
    rw [hunits] at hleast hgreatest
    have hpos : (0 : Int) < unitsPerOne := Int.natCast_pos.mpr unitsPerOne_pos
    have atLeast : minSigned ≤ i := Int.le_of_mul_le_mul_right hleast hpos
    have atMost : i ≤ 2 ^ 64 := Int.le_of_mul_le_mul_right hgreatest hpos
    omega

/-- **An integral double stands for a number.**  Outside the range in which there are unsigned
integers only, a number equals it exactly when it is the same integer. -/
theorem exists_literal {x : Finite} {i : Int} (double : x.signedUnits = i * unitsPerOne) :
    ∃ literal, ofBinary64? (.finite x) = some literal ∧
      (i < 2 ^ 63 ∨ 2 ^ 64 < i → ∀ a : Number, a.equal literal = a.isInt i) := by
  obtain ⟨hintegral, htruncate⟩ := Finite.truncate_of_whole double
  unfold ofBinary64?
  simp only [hintegral, htruncate, Bool.true_and, Bool.and_eq_true, decide_eq_true_eq]
  split
  · next hrange =>
    have hfits : minSigned ≤ min i maxSigned ∧ min i maxSigned ≤ maxUnsigned := by
      unfold minSigned maxSigned maxUnsigned at *
      omega
    refine ⟨.int ⟨min i maxSigned, hfits⟩, by rw [ofInt?, dif_pos hfits], fun hside => ?_⟩
    have hsame : min i maxSigned = i := by
      unfold maxSigned at *
      omega
    exact equal_int_eq hsame double
  · next hrange =>
    refine ⟨.float x, rfl, fun hside => equal_float_eq double ?_⟩
    unfold minSigned maxSigned at *
    omega

end Number

/-! ## Records -/

variable {L : Type}

/-- Whether a value is a record with a number of some kind under a key. -/
def Value.holdsNumber (item : Value L) (key : String) (kind : Number → Bool) : Bool :=
  match item.field? key with
  | some (.number a) => kind a
  | _ => false

section
variable {key : String} {literal : PathExpr} {constant : Value L} {label : L}
  {items : List (Value L)}

/-- **A constraint on a field of records reads the first** whose field equals the literal. -/
theorem read_records (h : literal.constant? = some constant)
    (records : ∀ item ∈ items, item.isRecord = true) :
    (equality (.attribute key) (some literal)).read (.array label items) =
      .ok (items.find? (fun item => item.fieldEquals key constant)) := by
  cases hfind : items.find? (fun item => item.fieldEquals key constant) with
  | none =>
    refine read_constraint_eq_none_iff.mpr (select_no_record h (fun item hmem => ?_))
    exact ⟨records item hmem, Bool.eq_false_iff.mpr (List.find?_eq_none.mp hfind item hmem)⟩
  | some item =>
    obtain ⟨equals, before, behind, rfl, hbefore⟩ := List.find?_eq_some_iff_append.mp hfind
    have others : ∀ other ∈ before,
        other.isRecord = true ∧ other.fieldEquals key constant = false := fun other hmem =>
      ⟨records other (List.mem_append_left _ hmem), by simpa using hbefore other hmem⟩
    have hselect : select (.compare .eq) (.attribute key) (some literal)
        (before ++ item :: behind) = .ok (some before.length) :=
      select_record h others (records item (by simp)) equals
    have leads : Leads (equality (.attribute key) (some literal)) (.item label before behind)
        item := .constraint hselect
    exact leads.read

theorem fieldEquals_number (item : Value L) (key : String) (literal : Number) :
    item.fieldEquals key (.number literal) =
      item.holdsNumber key (fun a => a.equal literal) := by
  unfold Value.fieldEquals Value.holdsNumber
  cases item.field? key with
  | none => rfl
  | some found => cases found <;> simp [Value.equal]

theorem fieldEquals_null (item : Value L) (key : String) (h : item.field? key ≠ some .null) :
    item.fieldEquals key .null = false := by
  unfold Value.fieldEquals
  cases hfield : item.field? key with
  | none => rfl
  | some found =>
    cases found with
    | null => exact absurd hfield h
    | _ => simp [Value.equal]

/-- What a numeral selects is the first record whose field equals the value of its double. -/
theorem valueAt_numeralConstraint (key : String) {n : Numeral} (proper : n.Proper)
    (records : ∀ item ∈ items, item.isRecord = true) :
    valueAt (numeralConstraint key n) (.array label items) =
      .ok (items.find? (fun item => item.fieldEquals key (numberValue n.toBinary64))) := by
  unfold valueAt
  rw [ofText_numeralConstraint key proper]
  show PathExpr.read (.path _) _ = _
  rw [PathExpr.read.eq_def]
  simp only [readSegments_singleton]
  exact read_records rfl records

end

/-- **The record that a numeral selects.**  The numeral writes an integer.  Either it is read as the
double closest to that integer, which is an integer, too, and the very one if that is a double.
The first record is selected that holds a number under the key that equals this double, never one
that holds anything else.  Unless the double is from `2 ^ 63` to `2 ^ 64`, a number equals it only
when it is the same integer.  Or else the integer is no double, and it is read as an infinity; then
nothing is selected among records without a null under the key. -/
theorem valueAt_numeral {n : Numeral} {i : Int} (proper : n.Proper) (integer : n.toInt? = some i)
    (key : String) (label : L) {items : List (Value L)}
    (records : ∀ item ∈ items, item.isRecord = true) :
    (∃ k, n.ReadsAs k ∧
      (∀ y : Finite, (k * unitsPerOne - i * unitsPerOne).natAbs ≤
        (y.signedUnits - i * unitsPerOne).natAbs) ∧
      ((∃ y : Finite, y.signedUnits = i * unitsPerOne) → k = i) ∧
      (∃ literal, Number.ofBinary64? n.toBinary64 = some literal ∧
        valueAt (numeralConstraint key n) (.array label items) =
          .ok (items.find? (fun item => item.holdsNumber key (fun a => a.equal literal)))) ∧
      (k < 2 ^ 63 ∨ 2 ^ 64 < k →
        valueAt (numeralConstraint key n) (.array label items) =
          .ok (items.find? (fun item => item.holdsNumber key (Number.isInt k))))) ∨
    (∃ negative, n.toBinary64 = .infinity negative) ∧
      (¬ ∃ y : Finite, y.signedUnits = i * unitsPerOne) ∧
      ((∀ item ∈ items, item.field? key ≠ some .null) →
        valueAt (numeralConstraint key n) (.array label items) = .ok none) := by
  have hread : valueAt (numeralConstraint key n) (.array label items) =
      .ok (items.find? (fun item => item.fieldEquals key (numberValue n.toBinary64))) :=
    valueAt_numeralConstraint key proper records
  rcases Numeral.closest integer with ⟨k, ⟨x, hx, double⟩, closest⟩ | ⟨negative, hinfinity⟩
  · obtain ⟨literal, hliteral, hequal⟩ := Number.exists_literal double
    have hvalue : numberValue (L := L) n.toBinary64 = .number literal := by
      rw [hx, numberValue, hliteral]
    simp only [hvalue, fieldEquals_number] at hread
    refine .inl ⟨k, ⟨x, hx, double⟩, closest, ?_, ⟨literal, by rw [hx, hliteral], hread⟩, ?_⟩
    · rintro ⟨y, hy⟩
      have hsame := closest y
      rw [hy, Int.sub_self, Int.natAbs_zero, Nat.le_zero, Int.natAbs_eq_zero] at hsame
      exact Int.eq_of_mul_eq_mul_right (Int.natCast_ne_zero.mpr unitsPerOne_pos.ne')
        (Int.sub_eq_zero.mp hsame)
    · intro hside
      have hkind : (fun a : Number => a.equal literal) = Number.isInt k := funext (hequal hside)
      rw [hread, hkind]
  · refine .inr ⟨⟨negative, hinfinity⟩, ?_, fun noNull => ?_⟩
    · rintro ⟨y, hy⟩
      obtain ⟨x, hx, -⟩ := Numeral.readsAs_of_double integer hy
      rw [hinfinity] at hx
      cases hx
    · rw [hread, hinfinity]
      refine congrArg Except.ok (List.find?_eq_none.mpr (fun item hmem => ?_))
      rw [Bool.not_eq_true]
      exact fieldEquals_null item key (noNull item hmem)

/-- A record with a double under the key looked up. -/
def shelfTwo : Value Nat :=
  .object 2 [("k", .number (.float ⟨false, 2 * unitsPerOne, representable_whole (by decide)⟩))]

theorem valueAt_numeral_shelf :
    let items : List (Value Nat) := [.object 1 [("k", .null)], shelfTwo]
    valueAt (numeralConstraint "k" ⟨false, ['2'], []⟩) (.array 0 items) = .ok (some shelfTwo) := by
  intro items
  have double : ∃ y : Finite, y.signedUnits = (2 : Int) * unitsPerOne := exists_double (by decide)
  have proper : Numeral.Proper ⟨false, ['2'], []⟩ :=
    ⟨by decide, List.all_eq_true.mp (by decide), List.all_eq_true.mp (by decide)⟩
  have integer : Numeral.toInt? ⟨false, ['2'], []⟩ = some 2 := by decide
  have records : ∀ item ∈ items, item.isRecord = true := by decide +kernel
  rcases valueAt_numeral proper integer "k" 0 records with
    ⟨k, -, -, same, -, exactly⟩ | ⟨-, none, -⟩
  · obtain rfl := same double
    have found : items.find? (fun item => item.holdsNumber "k" (Number.isInt 2)) =
        some shelfTwo := by decide +kernel
    rw [exactly (by decide), found]
  · exact absurd double none

/-- The numeral of an odd integer beyond `2 ^ 53` selects the even one before it, which is the
double closest to it, where no record holds the odd one. -/
theorem valueAt_odd_numeral :
    let n : Numeral := ⟨false, "9007199254740993".toList, []⟩
    let record : Value Nat := .object 1 [("k", .number (.int ⟨9007199254740992, by decide⟩))]
    n.Proper ∧ n.toInt? = some 9007199254740993 ∧
      numeralConstraint "k" n = "[k==9007199254740993]" ∧
      [record].find? (fun item => item.holdsNumber "k" (Number.isInt 9007199254740993)) = none ∧
      valueAt (numeralConstraint "k" n) (.array 0 [record]) = .ok (some record) := by
  intro n record
  have proper : n.Proper :=
    ⟨by decide, List.all_eq_true.mp (by decide), List.all_eq_true.mp (by decide)⟩
  have selected : [record].find? (fun item => item.fieldEquals "k" (numberValue n.toBinary64)) =
      some record := by decide +kernel
  refine ⟨proper, by decide +kernel, by decide +kernel, by decide +kernel, ?_⟩
  rw [valueAt_numeralConstraint "k" proper (by decide +kernel), selected]

end DocumentStore
