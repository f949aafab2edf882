import DocumentStore.Proofs.Binary64.Rounding

/-!
# Sums that stay finite

A magnitude that is rounded stays below the next power of two, so doubles that are far from the
overflow bound have a finite sum and a finite difference.

Principal results: `nearest_le_pow` — rounding does not pass a power of two.
`representable_nearest` — what is rounded below the overflow bound is a magnitude.
`exists_finite_integers` — sums and differences of integers of 64 bits are finite.
-/

set_option autoImplicit false

namespace DocumentStore

theorem roundHalfEven_le {num den bound : Nat} (hden : 0 < den) (h : num ≤ bound * den) :
    roundHalfEven num den ≤ bound := by
  rcases Nat.lt_or_eq_of_le h with hlt | rfl
  · have hquot : num / den < bound := (Nat.div_lt_iff_lt_mul hden).mpr hlt
    unfold roundHalfEven
    simp only
    split <;> omega
  · rw [roundHalfEven_mul _ _ hden]

theorem nearest_one (num : Nat) :
    nearest num 1 = roundHalfEven num (2 ^ spareBits num) * 2 ^ spareBits num := by
  unfold nearest
  simp only [Nat.div_one, Nat.one_mul, Nat.pow_eq]

/-- **Rounding does not pass a power of two.** -/
theorem nearest_le_pow {num bits : Nat} (h : num ≤ 2 ^ bits) : nearest num 1 ≤ 2 ^ bits := by
  have hspare : spareBits num ≤ bits :=
    spareBits_le (Nat.lt_of_le_of_lt h (Nat.pow_lt_pow_right (by decide) (by omega)))
  have hsplit : 2 ^ bits = 2 ^ (bits - spareBits num) * 2 ^ spareBits num := by
    rw [← Nat.pow_add, Nat.sub_add_cancel hspare]
  rw [nearest_one, hsplit]
  rw [hsplit] at h
  exact Nat.mul_le_mul_right _ (roundHalfEven_le (Nat.two_pow_pos _) h)

/-- **What is rounded below the overflow bound is the magnitude of a double.** -/
theorem representable_nearest {num bits : Nat} (h : num ≤ 2 ^ bits)
    (fits : 2 ^ bits < overflowUnits) : Representable (nearest num 1) := by
  have hbits : num ≤ 2 ^ 53 * 2 ^ spareBits num := by
    rw [← Nat.pow_add]
    refine Nat.le_trans (Nat.le_of_lt Nat.lt_log2_self) (Nat.pow_le_pow_right (by decide) ?_)
    unfold spareBits
    omega
  have hbound := Nat.lt_of_le_of_lt (nearest_le_pow h) fits
  rw [nearest_one] at hbound ⊢
  exact representable_scaled (roundHalfEven_le (Nat.two_pow_pos _) hbits) hbound

theorem lt_overflowUnits {unitBits more : Nat} (hunits : unitsPerOne = 2 ^ unitBits)
    (h : more ≤ 100) : 2 ^ (more + unitBits) < overflowUnits := by
  -- The exponents stay behind variables, so that no tactic computes the powers.
  obtain ⟨bits, hbits, hunit⟩ : ∃ bits, bits = 1074 ∧ unitsPerOne = 2 ^ bits :=
    ⟨1074, rfl, unitsPerOne_eq⟩
  obtain ⟨overflowBits, hoverflow, hover⟩ : ∃ bits, bits = 2098 ∧ overflowUnits = 2 ^ bits :=
    ⟨2098, rfl, overflowUnits_eq⟩
  have same : unitBits = bits := Nat.pow_right_injective (by decide) (hunits.symm.trans hunit)
  rw [hover]
  exact Nat.pow_lt_pow_right (by decide) (by omega)

namespace Binary64

theorem exists_finite_ofQuotient (negative : Bool) {num bits : Nat} (h : num ≤ 2 ^ bits)
    (fits : 2 ^ bits < overflowUnits) :
    ∃ x : Finite, ofQuotient negative num 1 = .finite x ∧ x.units ≤ 2 ^ bits := by
  have representable := representable_nearest h fits
  refine ⟨⟨negative, nearest num 1, representable⟩, ?_, nearest_le_pow h⟩
  unfold ofQuotient ofUnits
  rw [dif_pos representable]

theorem eq_of_ofQuotient {negative : Bool} {num den : Nat} {x : Finite}
    (h : ofQuotient negative num den = .finite x) :
    x.negative = negative ∧ x.units = nearest num den := by
  unfold ofQuotient ofUnits at h
  split at h
  · cases h
    exact ⟨rfl, rfl⟩
  · cases h

/-- **An integer of 64 bits is a finite double**, however many bits the units in one have. -/
theorem exists_finite_ofInt {n : Int} (h : n.natAbs ≤ 2 ^ 64) {unitBits : Nat}
    (hunits : unitsPerOne = 2 ^ unitBits) :
    ∃ x : Finite, ofInt n = .finite x ∧ x.units ≤ 2 ^ (64 + unitBits) := by
  refine exists_finite_ofQuotient _ ?_ (lt_overflowUnits hunits (by decide))
  rw [hunits, Nat.pow_add]
  exact Nat.mul_le_mul_right _ h

theorem natAbs_signedUnits (x : Finite) : x.signedUnits.natAbs = x.units := by
  unfold Finite.signedUnits
  split <;> simp

theorem exists_finite_add {x y : Finite} {bits : Nat} (hx : x.units ≤ 2 ^ bits)
    (hy : y.units ≤ 2 ^ bits) (fits : 2 ^ (bits + 1) < overflowUnits) :
    ∃ z : Finite, (Binary64.finite x).add (.finite y) = .finite z := by
  have hsum : (x.signedUnits + y.signedUnits).natAbs ≤ 2 ^ (bits + 1) := by
    have htriangle := Int.natAbs_add_le x.signedUnits y.signedUnits
    rw [natAbs_signedUnits, natAbs_signedUnits] at htriangle
    rw [Nat.pow_succ]
    omega
  obtain ⟨z, hz, -⟩ := exists_finite_ofQuotient
    (if x.signedUnits + y.signedUnits = 0 then x.negative && y.negative
      else decide (x.signedUnits + y.signedUnits < 0)) hsum fits
  exact ⟨z, hz⟩

theorem exists_finite_sub {x y : Finite} {bits : Nat} (hx : x.units ≤ 2 ^ bits)
    (hy : y.units ≤ 2 ^ bits) (fits : 2 ^ (bits + 1) < overflowUnits) :
    ∃ z : Finite, (Binary64.finite x).sub (.finite y) = .finite z :=
  @exists_finite_add x { y with negative := !y.negative } bits hx hy fits

/-- **Two integers of 64 bits are finite doubles**, and so are their sum and their difference. -/
theorem exists_finite_integers {m n : Int} (hm : m.natAbs ≤ 2 ^ 64) (hn : n.natAbs ≤ 2 ^ 64) :
    (∃ z : Finite, (ofInt m).add (ofInt n) = .finite z) ∧
      ∃ z : Finite, (ofInt m).sub (ofInt n) = .finite z := by
  obtain ⟨unitBits, hunits⟩ : ∃ bits, unitsPerOne = 2 ^ bits := ⟨1074, unitsPerOne_eq⟩
  obtain ⟨x, hx, hxbound⟩ := exists_finite_ofInt hm hunits
  obtain ⟨y, hy, hybound⟩ := exists_finite_ofInt hn hunits
  have fitsSum : 2 ^ (64 + unitBits + 1) < overflowUnits := by
    rw [Nat.add_right_comm]
    exact lt_overflowUnits hunits (by decide)
  rw [hx, hy]
  exact ⟨exists_finite_add hxbound hybound fitsSum, exists_finite_sub hxbound hybound fitsSum⟩

end Binary64

end DocumentStore
