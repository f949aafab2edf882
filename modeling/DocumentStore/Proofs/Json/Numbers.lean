import DocumentStore.Proofs.Binary64.Order
import DocumentStore.Proofs.Json.Equality

/-!
# Numbers

The arithmetic of signed integers is exact as long as no result leaves their range.

Doubles are equal when they stand for the same number, and that is an equivalence.  Numbers of both
forms are compared as doubles, while two integers are compared exactly.  So equality goes over from
one number to the next, except by way of a double: two integers that it rounds alike are equal to
it, and not to each other.  The order of numbers is that of the doubles throughout, and there the
two integers have the same place.

* `FitsSigned` — an integer of the signed range.
* `Number.units` — the place of a number among the doubles.

Principal results: `Binary64.equal_iff` — when doubles are equal.  `Number.equal_trans_or` — equality
goes over, or a double stands between two integers.  `Number.compare?_eq` — the order of numbers is
that of their places.
-/

set_option autoImplicit false

namespace DocumentStore

/-- An integer that the arithmetic of 64-bit signed integers can hold. -/
def FitsSigned (n : Int) : Prop := minSigned ≤ n ∧ n ≤ maxSigned

instance (n : Int) : Decidable (FitsSigned n) := inferInstanceAs (Decidable (_ ∧ _))

theorem fitsSigned_zero : FitsSigned 0 := by decide

/-! ## Equality -/

/-- **Doubles are equal** when both are finite and stand for the same number, or when they are the
same infinity. -/
theorem Binary64.equal_iff {x y : Binary64} : x.equal y = true ↔
    (∃ a b, x = .finite a ∧ y = .finite b ∧ a.signedUnits = b.signedUnits) ∨
      ∃ negative, x = .infinity negative ∧ y = .infinity negative := by
  unfold equal
  rw [beq_iff_eq]
  constructor
  · intro h
    unfold compare? at h
    split at h
    · cases h
    · cases h
    · rename_i s t
      refine .inr ⟨s, rfl, ?_⟩
      split at h
      · rename_i same
        rw [same]
      · split at h <;> cases h
    · split at h <;> cases h
    · split at h <;> cases h
    · rename_i a b
      have order := (compareOfLessAndEq_eq_eq Int.le_refl Int.not_le).mp (Option.some.inj h)
      exact .inl ⟨a, b, rfl, rfl, order⟩
  · rintro (⟨a, b, rfl, rfl, same⟩ | ⟨negative, rfl, rfl⟩)
    · exact congrArg some ((compareOfLessAndEq_eq_eq Int.le_refl Int.not_le).mpr same)
    · exact congrArg some (if_pos rfl)

theorem Binary64.equal_trans {x y z : Binary64} (first : x.equal y = true)
    (second : y.equal z = true) : x.equal z = true := by
  rw [equal_iff] at first second ⊢
  rcases first with ⟨a, b, rfl, rfl, same⟩ | ⟨negative, rfl, rfl⟩
  · rcases second with ⟨b', c, hb, rfl, same'⟩ | ⟨negative, hb, -⟩
    · cases hb
      exact .inl ⟨a, c, rfl, rfl, same.trans same'⟩
    · cases hb
  · rcases second with ⟨b, c, hb, -⟩ | ⟨negative', hb, rfl⟩
    · cases hb
    · cases hb
      exact .inr ⟨negative, rfl, rfl⟩

theorem Binary64.ofInt_equal_self (n : Int) : (Binary64.ofInt n).equal (.ofInt n) = true := by
  rw [equal_iff]
  unfold ofInt ofQuotient ofUnits
  split
  · exact .inl ⟨_, _, rfl, rfl, rfl⟩
  · exact .inr ⟨_, rfl, rfl⟩

namespace Number

theorem equal_int_iff {m n : Integer} : (int m).equal (int n) = true ↔ m = n := by
  unfold equal
  rw [beq_iff_eq, Integer.mk.injEq]

theorem toBinary64_equal {a b : Number} (h : a.equal b = true) :
    a.toBinary64.equal b.toBinary64 = true := by
  cases a with
  | float x => exact h
  | int m =>
    cases b with
    | float x => exact h
    | int n =>
      rw [equal_int_iff.mp h]
      exact Binary64.ofInt_equal_self n.value

/-- **Equality goes over from one number to the next**, except by way of a double from an integer
to another integer. -/
theorem equal_trans_or {a b c : Number} (first : a.equal b = true) (second : b.equal c = true) :
    a.equal c = true ∨ ∃ m x n, a = .int m ∧ b = .float x ∧ c = .int n := by
  have doubles : a.toBinary64.equal c.toBinary64 = true :=
    Binary64.equal_trans (toBinary64_equal first) (toBinary64_equal second)
  cases a with
  | float x => exact .inl doubles
  | int m =>
    cases c with
    | float z => exact .inl doubles
    | int n =>
      cases b with
      | float y => exact .inr ⟨m, y, n, rfl, rfl, rfl⟩
      | int k =>
        rw [equal_int_iff] at first second
        exact .inl (equal_int_iff.mpr (first.trans second))

/-! ## Order -/

theorem natAbs_value_le (n : Integer) : n.value.natAbs ≤ 2 ^ 64 := by
  have inRange := n.inRange
  unfold minSigned maxUnsigned at inRange
  omega

/-- The place of a number among the doubles, in units: an integer is rounded. -/
def units : Number → Int
  | .int n => roundedUnits n.value
  | .float x => x.signedUnits

theorem toBinary64_eq_finite (a : Number) :
    ∃ x : Finite, a.toBinary64 = .finite x ∧ x.signedUnits = a.units := by
  cases a with
  | int n => exact Binary64.ofInt_eq_finite (natAbs_value_le n)
  | float x => exact ⟨x, rfl, rfl⟩

theorem toBinary64_compare? (a b : Number) :
    a.toBinary64.compare? b.toBinary64 = some (compareOfLessAndEq a.units b.units) := by
  obtain ⟨x, hx, hunits⟩ := toBinary64_eq_finite a
  obtain ⟨y, hy, hunits'⟩ := toBinary64_eq_finite b
  rw [hx, hy, ← hunits, ← hunits']
  rfl

/-- Doubles next to numbers are equal when the numbers have one place. -/
theorem toBinary64_equal_iff {a b : Number} :
    a.toBinary64.equal b.toBinary64 = true ↔ a.units = b.units := by
  unfold Binary64.equal
  rw [toBinary64_compare?, beq_iff_eq, Option.some.injEq]
  exact compareOfLessAndEq_eq_eq Int.le_refl Int.not_le

/-- **The order of numbers is that of their places among the doubles.** -/
theorem compare?_eq (a b : Number) :
    a.compare? b = some (compareOfLessAndEq a.units b.units) := by
  unfold compare?
  split
  · rename_i same
    have place : a.units = b.units := toBinary64_equal_iff.mp (toBinary64_equal same)
    rw [(compareOfLessAndEq_eq_eq Int.le_refl Int.not_le).mpr place]
  · exact toBinary64_compare? a b

end Number

end DocumentStore
