import Mathlib.Algebra.Order.Ring.Nat
import Mathlib.Tactic.Ring
import DocumentStore.Binary64.Decimal

/-!
# Rounding of decimals

The magnitude nearest to a quotient does not depend on how the quotient is written, so a decimal may
be written with more zeros and a smaller exponent.  The limits that spare the reader huge powers of
ten change no result.

Principal results: `nearest_scale` — numerator and denominator may be scaled alike.
`decimalUnits_mul_pow` — zeros behind the digits count as powers of ten.  `ofDecimal_eq` — a decimal
that is no multiple of ten is rounded, however small it is.  `representable_whole` — integers up to
`2 ^ 53` are doubles.
-/

set_option autoImplicit false

namespace DocumentStore

theorem roundHalfEven_scale (num den : Nat) {k : Nat} (hk : 0 < k) :
    roundHalfEven (num * k) (den * k) = roundHalfEven num den := by
  unfold roundHalfEven
  simp only [Nat.mul_div_mul_right num den hk, Nat.mul_mod_mul_right]
  have hlt : den * k < 2 * (num % den * k) ↔ den < 2 * (num % den) := by
    rw [← Nat.mul_assoc]
    exact Nat.mul_lt_mul_right hk
  have heq : (2 * (num % den * k) = den * k) ↔ 2 * (num % den) = den := by
    rw [← Nat.mul_assoc]
    exact Nat.mul_left_inj hk.ne'
  simp [hlt, heq]

/-- **The nearest magnitude depends on the quotient alone.** -/
theorem nearest_scale (num den : Nat) {k : Nat} (hk : 0 < k) :
    nearest (num * k) (den * k) = nearest num den := by
  unfold nearest
  simp only [Nat.mul_div_mul_right num den hk]
  rw [Nat.mul_right_comm den k, roundHalfEven_scale _ _ hk]

theorem nearest_of_tiny {num den : Nat} (h : 2 * num < den) : nearest num den = 0 := by
  have hlt : num < den := by omega
  have hquot : num / den = 0 := Nat.div_eq_of_lt hlt
  have hup : ¬ den < 2 * num := by omega
  have hspare : 2 ^ spareBits 0 = 1 := rfl
  have hround : roundHalfEven num den = 0 := by
    simp [roundHalfEven, hquot, Nat.mod_eq_of_lt hlt, hup]
  simp only [nearest, hquot, Nat.pow_eq, hspare, Nat.mul_one, hround]

/-! ## Decimals -/

theorem decimalUnits_ofNat (digits e : Nat) :
    decimalUnits digits (.ofNat e) = nearest (digits * 10 ^ e * unitsPerOne) 1 := rfl

theorem decimalUnits_negSucc (digits e : Nat) :
    decimalUnits digits (.negSucc e) = nearest (digits * unitsPerOne) (10 ^ (e + 1)) := rfl

theorem decimalUnits_mul_ten (digits : Nat) (e : Int) :
    decimalUnits (digits * 10) e = decimalUnits digits (e + 1) := by
  match e with
  | .ofNat e =>
    rw [show Int.ofNat e + 1 = Int.ofNat (e + 1) from rfl, decimalUnits_ofNat, decimalUnits_ofNat]
    generalize unitsPerOne = unit
    rw [Nat.pow_succ', Nat.mul_assoc digits 10]
  | .negSucc 0 =>
    rw [show Int.negSucc 0 + 1 = Int.ofNat 0 from rfl, decimalUnits_ofNat, decimalUnits_negSucc,
      ← nearest_scale _ 1 (by decide : 0 < 10)]
    generalize unitsPerOne = unit
    rw [Nat.pow_zero, Nat.mul_one, Nat.mul_right_comm, Nat.zero_add, Nat.pow_one, Nat.one_mul]
  | .negSucc (e + 1) =>
    rw [show Int.negSucc (e + 1) + 1 = Int.negSucc e from rfl, decimalUnits_negSucc,
      decimalUnits_negSucc, ← nearest_scale (digits * unitsPerOne) _ (by decide : 0 < 10)]
    generalize unitsPerOne = unit
    rw [Nat.pow_succ 10 (e + 1), Nat.mul_right_comm]

/-- **Zeros behind the digits are powers of ten.** -/
theorem decimalUnits_mul_pow (digits : Nat) (e : Int) :
    ∀ k : Nat, decimalUnits (digits * 10 ^ k) e = decimalUnits digits (e + k)
  | 0 => by simp
  | k + 1 => by
    rw [Nat.pow_succ, ← Nat.mul_assoc, decimalUnits_mul_ten, decimalUnits_mul_pow digits (e + 1) k]
    congr 1
    push_cast
    ring

theorem decimalUnits_zero (e : Int) : decimalUnits 0 e = 0 := by
  have nothing (den : Nat) (hden : 0 < den) : nearest 0 den = 0 := nearest_of_tiny hden
  cases e with
  | ofNat e => rw [decimalUnits_ofNat, Nat.zero_mul, Nat.zero_mul, nothing 1 (by decide)]
  | negSucc e => rw [decimalUnits_negSucc, Nat.zero_mul, nothing _ (Nat.pow_pos (by decide))]

theorem unitsPerOne_eq : unitsPerOne = 2 ^ 1074 := by decide +kernel

theorem unitsPerOne_pos : 0 < unitsPerOne := by decide +kernel

theorem overflowUnits_eq : overflowUnits = 2 ^ 2098 := by decide +kernel

theorem decimalUnits_of_tiny {digits : Nat} {e : Int} (h : e < -((digits.log2 : Int) + 400)) :
    decimalUnits digits e = 0 := by
  match e with
  | .ofNat e =>
    have hnonneg : (0 : Int) ≤ Int.ofNat e := Int.natCast_nonneg e
    omega
  | .negSucc e =>
    rw [decimalUnits_negSucc]
    refine nearest_of_tiny ?_
    have hplaces : digits.log2 + 401 ≤ e + 1 := by omega
    have hdigits : digits < 2 ^ (digits.log2 + 1) := Nat.lt_log2_self
    -- The exponent stays behind a variable, so that no tactic computes the power.
    obtain ⟨unitBits, hbits, hunit⟩ : ∃ bits, bits = 1074 ∧ unitsPerOne = 2 ^ bits :=
      ⟨1074, rfl, unitsPerOne_eq⟩
    rw [hunit]
    calc 2 * (digits * 2 ^ unitBits)
        < 2 * (2 ^ (digits.log2 + 1) * 2 ^ unitBits) := by
          refine Nat.mul_lt_mul_of_pos_left ?_ (by decide)
          exact Nat.mul_lt_mul_of_pos_right hdigits (Nat.two_pow_pos _)
      _ = 2 ^ (digits.log2 + 1 + unitBits + 1) := by
          rw [← Nat.pow_add, ← Nat.pow_succ']
      _ ≤ 2 ^ (3 * (e + 1)) := Nat.pow_le_pow_right (by decide) (by omega)
      _ = 8 ^ (e + 1) := by rw [Nat.pow_mul]
      _ ≤ 10 ^ (e + 1) := Nat.pow_le_pow_left (by decide) _

/-- A decimal without powers of ten to come is rounded; what the limits cut off is zero anyway. -/
theorem ofDecimal_eq (negative : Bool) (digits : Nat) {e : Int} (he : e ≤ 0) :
    Binary64.ofDecimal negative digits e = Binary64.ofUnits negative (decimalUnits digits e) := by
  have hsmall : ¬ 400 < e := by omega
  unfold Binary64.ofDecimal
  rw [if_neg hsmall]
  split
  · rename_i hd
    rw [hd, decimalUnits_zero]
  · split
    · rename_i htiny
      rw [decimalUnits_of_tiny htiny]
    · rfl

theorem ofUnits_units (x : Finite) : Binary64.ofUnits x.negative x.units = .finite x := by
  unfold Binary64.ofUnits
  rw [dif_pos x.representable]

/-! ## Integers -/

theorem spareBits_le {units bits : Nat} (h : units < 2 ^ (bits + 53)) : spareBits units ≤ bits := by
  unfold spareBits
  by_cases hzero : units = 0
  · simp [hzero]
  · have := (Nat.log2_lt hzero).mpr h
    omega

theorem representable_scaled {n bits : Nat} (h : n ≤ 2 ^ 53)
    (fits : n * 2 ^ bits < overflowUnits) : Representable (n * 2 ^ bits) := by
  have hbound : n * 2 ^ bits ≤ 2 ^ (bits + 53) := by
    rw [Nat.add_comm, Nat.pow_add]
    exact Nat.mul_le_mul_right _ h
  refine ⟨fits, Nat.mod_eq_zero_of_dvd ?_⟩
  rw [Nat.pow_eq]
  rcases Nat.lt_or_eq_of_le hbound with hlt | heq
  · exact Nat.dvd_mul_left_of_dvd (Nat.pow_dvd_pow 2 (spareBits_le hlt)) n
  · -- The number has 54 bits, but only the first is not zero.
    rw [heq, spareBits, Nat.log2_two_pow]
    exact Nat.pow_dvd_pow 2 (by omega)

theorem representable_whole {n : Nat} (h : n ≤ 2 ^ 53) : Representable (n * unitsPerOne) := by
  obtain ⟨unitBits, hbits, hunits⟩ : ∃ bits, bits = 1074 ∧ unitsPerOne = 2 ^ bits :=
    ⟨1074, rfl, unitsPerOne_eq⟩
  obtain ⟨overflowBits, hbits', hover⟩ : ∃ bits, bits = 2098 ∧ overflowUnits = 2 ^ bits :=
    ⟨2098, rfl, overflowUnits_eq⟩
  have hbound : n * unitsPerOne ≤ 2 ^ (53 + unitBits) := by
    rw [hunits, Nat.pow_add]
    exact Nat.mul_le_mul_right _ h
  have hfits : 2 ^ (53 + unitBits) < overflowUnits := by
    rw [hover]
    exact Nat.pow_lt_pow_right (by decide) (by omega)
  rw [hunits] at hbound ⊢
  exact representable_scaled h (Nat.lt_of_le_of_lt hbound hfits)

end DocumentStore
