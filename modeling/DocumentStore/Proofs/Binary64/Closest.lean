import DocumentStore.Proofs.Binary64.Order
import DocumentStore.Proofs.Binary64.ReadBack

/-!
# The closest double

Rounding gives a magnitude than which no other is closer: those with the same spare bits are
multiples of one power of two, of which the closest is taken, and a power of two stands between any
other and the number rounded.  So the digits of an integer are read as the double closest to it,
or as an infinity.  What they are read as is an integer, and the very one when that is a double.

Principal results: `nearest_closest` — no magnitude is closer.  `nearest_whole` — integers are
rounded to integers.  `Numeral.closest` — what the digits of an integer are read as.
-/

set_option autoImplicit false

namespace DocumentStore

/-! ## Magnitudes -/

theorem roundHalfEven_closest {num den : Nat} (hden : 0 < den) (k : Nat) :
    ((roundHalfEven num den * den : Nat) - (num : Int)).natAbs ≤
      ((k * den : Nat) - (num : Int)).natAbs := by
  have hsplit : num / den * den + num % den = num := Nat.div_add_mod' num den
  have hrest : num % den < den := Nat.mod_lt _ hden
  have hup : (num / den + 1) * den = num / den * den + den := Nat.succ_mul _ _
  have hside : k * den ≤ num / den * den ∨ num / den * den + den ≤ k * den := by
    rcases Nat.lt_or_ge (num / den) k with hlt | hle
    · exact .inr (hup ▸ Nat.mul_le_mul_right den hlt)
    · exact .inl (Nat.mul_le_mul_right den hle)
  unfold roundHalfEven
  simp only [Bool.or_eq_true, Bool.and_eq_true, decide_eq_true_eq, beq_iff_eq]
  split
  · rw [hup]
    omega
  · omega

/-- **No magnitude is closer to a number than the one it is rounded to.** -/
theorem nearest_closest (num : Nat) {m : Nat} (h : Representable m) :
    ((nearest num 1 : Nat) - (num : Int)).natAbs ≤ ((m : Nat) - (num : Int)).natAbs := by
  have hpos : 0 < 2 ^ spareBits num := Nat.two_pow_pos _
  rw [nearest_one]
  by_cases hmultiple : 2 ^ spareBits num ∣ m
  · obtain ⟨k, rfl⟩ := hmultiple
    rw [Nat.mul_comm _ k]
    exact roundHalfEven_closest hpos k
  · -- A magnitude with fewer spare bits is less than the last power of two before the number.
    have hspare : spareBits m < spareBits num := by
      rw [← Nat.not_le]
      exact fun hle => hmultiple (Nat.dvd_trans (Nat.pow_dvd_pow 2 hle)
        (Nat.dvd_of_mod_eq_zero h.2))
    have hbits : num.log2 = 52 + spareBits num ∧ m.log2 < num.log2 := by
      unfold spareBits at hspare ⊢
      omega
    have hnum : num ≠ 0 := by
      rintro rfl
      simp at hbits
    have hlow : 2 ^ num.log2 ≤ num := Nat.log2_self_le hnum
    have hless : m < 2 ^ num.log2 :=
      Nat.lt_of_lt_of_le Nat.lt_log2_self (Nat.pow_le_pow_right (by decide) hbits.2)
    have hpower : 2 ^ 52 * 2 ^ spareBits num = 2 ^ num.log2 := by rw [hbits.1, Nat.pow_add]
    have hclosest : ((roundHalfEven num (2 ^ spareBits num) * 2 ^ spareBits num : Nat)
        - (num : Int)).natAbs ≤ ((2 ^ num.log2 : Nat) - (num : Int)).natAbs :=
      hpower ▸ roundHalfEven_closest hpos (2 ^ 52)
    omega

/-- **Integers are rounded to integers**, both in units. -/
theorem nearest_whole (n : Nat) : ∃ w, nearest (n * unitsPerOne) 1 = w * unitsPerOne := by
  obtain ⟨unitBits, -, hunits⟩ : ∃ bits, bits = 1074 ∧ unitsPerOne = 2 ^ bits :=
    ⟨1074, rfl, unitsPerOne_eq⟩
  rw [nearest_one, hunits]
  generalize spareBits (n * 2 ^ unitBits) = spare
  rcases Nat.le_total unitBits spare with hmore | hless
  · refine ⟨roundHalfEven (n * 2 ^ unitBits) (2 ^ spare) * 2 ^ (spare - unitBits), ?_⟩
    rw [Nat.mul_assoc, ← Nat.pow_add, Nat.sub_add_cancel hmore]
  · have hmultiple : n * 2 ^ unitBits = n * 2 ^ (unitBits - spare) * 2 ^ spare := by
      rw [Nat.mul_assoc, ← Nat.pow_add, Nat.sub_add_cancel hless]
    refine ⟨n, ?_⟩
    rw [hmultiple, roundHalfEven_mul _ _ (Nat.two_pow_pos _)]

/-! ## Doubles -/

/-- A numeral is read as an integer: as the finite double that has just this value. -/
def Numeral.ReadsAs (n : Numeral) (i : Int) : Prop :=
  ∃ x : Finite, n.toBinary64 = .finite x ∧ x.signedUnits = i * unitsPerOne

theorem Finite.units_of_whole {x : Finite} {i : Int} (h : x.signedUnits = i * unitsPerOne) :
    x.units = i.natAbs * unitsPerOne := by
  rw [← Binary64.natAbs_signedUnits, h, Int.natAbs_mul, Int.natAbs_natCast]

theorem exists_double {i : Int} (small : i.natAbs ≤ 2 ^ 53) :
    ∃ y : Finite, y.signedUnits = i * unitsPerOne := by
  refine ⟨⟨decide (i < 0), i.natAbs * unitsPerOne, representable_whole small⟩, ?_⟩
  unfold Finite.signedUnits
  rw [signed_mul]
  congr 1
  simp only [decide_eq_true_eq]
  split <;> omega

/-- No double is closer to a signed number than the one of the magnitude that it is rounded to. -/
theorem Finite.signedUnits_closest {negative : Bool} {num : Nat} {x : Finite}
    (sign : x.negative = negative) (units : x.units = nearest num 1) (y : Finite) :
    (x.signedUnits - (if negative then -(num : Int) else num)).natAbs ≤
      (y.signedUnits - (if negative then -(num : Int) else num)).natAbs := by
  have hclosest := nearest_closest num y.representable
  have hzero := nearest_closest num (m := 0) (by decide +kernel)
  unfold signedUnits
  rw [sign, units]
  -- A double of the other sign is farther than zero is.
  cases negative <;> cases y.negative <;> simp only [if_true, if_false, Bool.false_eq_true] <;>
    omega

/-- **The digits of an integer are read as the double closest to it**, which is an integer, or as
an infinity. -/
theorem Numeral.closest {n : Numeral} {i : Int} (h : n.toInt? = some i) :
    (∃ k : Int, n.ReadsAs k ∧ ∀ y : Finite,
      (k * unitsPerOne - i * unitsPerOne).natAbs ≤
        (y.signedUnits - i * unitsPerOne).natAbs) ∨
      ∃ negative, n.toBinary64 = .infinity negative := by
  obtain ⟨hread, hvalue⟩ := toBinary64_of_integer h
  obtain ⟨w, hw⟩ := nearest_whole i.natAbs
  have hi := signed_mul (n.negative = true) i.natAbs unitsPerOne
  rw [← hvalue] at hi
  unfold Binary64.ofUnits at hread
  split at hread
  · next representable =>
    have hk : (Finite.mk n.negative _ representable).signedUnits =
        (if n.negative then -(w : Int) else w) * unitsPerOne := by
      rw [← signed_mul, ← hw]
      rfl
    refine .inl ⟨_, ⟨_, hread, hk⟩, fun y => ?_⟩
    rw [← hk, ← hi]
    exact Finite.signedUnits_closest rfl rfl y
  · exact .inr ⟨_, hread⟩

/-- **An integer that is a double is read from its digits as it is.** -/
theorem Numeral.readsAs_of_double {n : Numeral} {i : Int} (h : n.toInt? = some i) {y : Finite}
    (double : y.signedUnits = i * unitsPerOne) : n.ReadsAs i := by
  obtain ⟨hread, hvalue⟩ := toBinary64_of_integer h
  have representable : Representable (i.natAbs * unitsPerOne) :=
    Finite.units_of_whole double ▸ y.representable
  have hi := signed_mul (n.negative = true) i.natAbs unitsPerOne
  rw [← hvalue] at hi
  rw [nearest_of_representable _ representable] at hread
  exact ⟨⟨n.negative, _, representable⟩, hread.trans (ofUnits_units ⟨_, _, representable⟩), hi⟩

end DocumentStore
