import DocumentStore.Proofs.Binary64.Sums

/-!
# Rounding keeps the order

Of two magnitudes the greater is never rounded to less: with the same number of spare bits the
quotients keep their order, and otherwise a power of two stands between the two that neither passes.
So integers of 64 bits are in order as doubles when they are in order, though two that differ may
become one double; up to `2 ^ 53` they do not, being doubles themselves.

* `roundedUnits` — an integer rounded to a double, in units.

Principal results: `nearest_mono` — rounding keeps the order of magnitudes.  `ofInt_eq_finite` — the
double nearest to an integer.  `roundedUnits_mono`, `roundedUnits_exact` — the order of integers
after rounding.
-/

set_option autoImplicit false

namespace DocumentStore

/-! ## Magnitudes -/

theorem le_roundHalfEven {num den bound : Nat} (hden : 0 < den) (h : bound * den ≤ num) :
    bound ≤ roundHalfEven num den := by
  have hquot : bound ≤ num / den := (Nat.le_div_iff_mul_le hden).mpr h
  unfold roundHalfEven
  simp only
  split <;> omega

theorem roundHalfEven_mono {m n den : Nat} (h : m ≤ n) :
    roundHalfEven m den ≤ roundHalfEven n den := by
  have hquot : m / den ≤ n / den := Nat.div_le_div_right h
  rcases Nat.lt_or_eq_of_le hquot with hlt | heq
  · unfold roundHalfEven
    simp only
    split <;> split <;> omega
  · -- With one quotient the remainders are in order, so what rounds the first up rounds both up.
    have hrest : m % den ≤ n % den := by
      have hm := Nat.div_add_mod m den
      have hn := Nat.div_add_mod n den
      rw [heq] at hm
      omega
    unfold roundHalfEven
    simp only [heq, Bool.or_eq_true, Bool.and_eq_true, decide_eq_true_eq, beq_iff_eq]
    split <;> split <;> omega

theorem pow_log2_le_nearest {num : Nat} (hnum : num ≠ 0) : 2 ^ num.log2 ≤ nearest num 1 := by
  have hspare : spareBits num ≤ num.log2 := Nat.sub_le _ _
  have hsplit : 2 ^ num.log2 = 2 ^ (num.log2 - spareBits num) * 2 ^ spareBits num := by
    rw [← Nat.pow_add, Nat.sub_add_cancel hspare]
  have hlow : 2 ^ num.log2 ≤ num := Nat.log2_self_le hnum
  rw [nearest_one, hsplit]
  rw [hsplit] at hlow
  exact Nat.mul_le_mul_right _ (le_roundHalfEven (Nat.two_pow_pos _) hlow)

theorem nearest_zero : nearest 0 1 = 0 := nearest_of_tiny (by decide)

/-- **Rounding keeps the order of magnitudes.** -/
theorem nearest_mono {m n : Nat} (h : m ≤ n) : nearest m 1 ≤ nearest n 1 := by
  by_cases hm : m = 0
  · rw [hm, nearest_zero]
    exact Nat.zero_le _
  have hn : n ≠ 0 := by omega
  have hbits : m.log2 ≤ n.log2 :=
    (Nat.le_log2 hn).mpr (Nat.le_trans (Nat.log2_self_le hm) h)
  rcases Nat.lt_or_eq_of_le hbits with hlt | heq
  · calc nearest m 1
        ≤ 2 ^ n.log2 := by
          refine nearest_le_pow (Nat.le_trans (Nat.le_of_lt Nat.lt_log2_self) ?_)
          exact Nat.pow_le_pow_right (by decide) hlt
      _ ≤ nearest n 1 := pow_log2_le_nearest hn
  · have hspare : spareBits m = spareBits n := by
      unfold spareBits
      rw [heq]
    rw [nearest_one, nearest_one, hspare]
    exact Nat.mul_le_mul_right _ (roundHalfEven_mono h)

/-! ## Integers -/

/-- The units, with their sign, of the double nearest to an integer that does not overflow. -/
def roundedUnits (n : Int) : Int :=
  if n < 0 then -(nearest (n.natAbs * unitsPerOne) 1 : Nat)
  else (nearest (n.natAbs * unitsPerOne) 1 : Nat)

/-- **Rounding keeps the order of integers.** -/
theorem roundedUnits_mono {m n : Int} (h : m ≤ n) : roundedUnits m ≤ roundedUnits n := by
  have magnitudes {i j : Int} (hij : i.natAbs ≤ j.natAbs) :
      nearest (i.natAbs * unitsPerOne) 1 ≤ nearest (j.natAbs * unitsPerOne) 1 :=
    nearest_mono (Nat.mul_le_mul_right _ hij)
  unfold roundedUnits
  by_cases hm : m < 0
  · rw [if_pos hm]
    by_cases hn : n < 0
    · have := magnitudes (i := n) (j := m) (by omega)
      rw [if_pos hn]
      omega
    · rw [if_neg hn]
      omega
  · have := magnitudes (i := m) (j := n) (by omega)
    rw [if_neg hm, if_neg (by omega)]
    omega

theorem signed_mul (negative : Prop) [Decidable negative] (n unit : Nat) :
    (if negative then -((n * unit : Nat) : Int) else (n * unit : Nat)) =
      (if negative then -(n : Int) else n) * unit := by
  rw [Int.natCast_mul]
  split
  · exact (Int.neg_mul _ _).symm
  · rfl

theorem roundedUnits_of_representable {n : Int} (h : Representable (n.natAbs * unitsPerOne)) :
    roundedUnits n = n * unitsPerOne := by
  unfold roundedUnits
  rw [nearest_of_representable _ h, signed_mul]
  congr 1
  split <;> omega

/-- **Integers up to `2 ^ 53` are not rounded.** -/
theorem roundedUnits_exact {n : Int} (h : n.natAbs ≤ 2 ^ 53) :
    roundedUnits n = n * unitsPerOne :=
  roundedUnits_of_representable (representable_whole h)

theorem roundedUnits_pow {n : Int} {bits : Nat} (h : n.natAbs = 2 ^ bits) (hbits : bits ≤ 100) :
    roundedUnits n = n * unitsPerOne := by
  obtain ⟨unitBits, -, hunits⟩ : ∃ bits, bits = 1074 ∧ unitsPerOne = 2 ^ bits :=
    ⟨1074, rfl, unitsPerOne_eq⟩
  refine roundedUnits_of_representable ?_
  have hpower : n.natAbs * unitsPerOne = 1 * 2 ^ (bits + unitBits) := by
    rw [h, hunits, ← Nat.pow_add, Nat.one_mul]
  rw [hpower]
  refine representable_scaled (by decide) ?_
  rw [Nat.one_mul]
  exact lt_overflowUnits hunits hbits

namespace Binary64

/-- **The double nearest to an integer of 64 bits** is finite, with the units of the rounded
integer. -/
theorem ofInt_eq_finite {n : Int} (h : n.natAbs ≤ 2 ^ 64) :
    ∃ x : Finite, ofInt n = .finite x ∧ x.signedUnits = roundedUnits n := by
  obtain ⟨x, hx, -⟩ := exists_finite_ofInt h unitsPerOne_eq
  refine ⟨x, hx, ?_⟩
  obtain ⟨hsign, hunits⟩ := eq_of_ofQuotient hx
  unfold Finite.signedUnits roundedUnits
  rw [hsign, hunits]
  by_cases hn : n < 0 <;> simp [hn]

end Binary64

end DocumentStore
