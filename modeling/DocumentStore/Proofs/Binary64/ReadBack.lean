import DocumentStore.Binary64.Layout
import DocumentStore.Proofs.Binary64.Rounding

/-!
# Numbers read back

The text of a finite double in a path is a numeral, and reading the numeral gives the very double,
the sign of a zero included.  The text of an integer up to `2 ^ 53` is a numeral, too, and reads
back as the integer.

* `Numeral.Proper` — digits in both parts, and at least one in the first.

Principal results: `shortest_reads_back` — the decimal chosen for a double rounds to it.
`exists_numeral` — the text of a double is a numeral that reads back.
`Numeral.toBinary64_of_integer`, `Numeral.toBinary64_of_toInt?` — what a numeral that writes an
integer reads as.
`exists_intNumeral` — the text of an integer is such a numeral.
-/

set_option autoImplicit false

namespace DocumentStore

/-! ## Digits -/

/-- A numeral with digits in both parts, and at least one in the first. -/
structure Numeral.Proper (n : Numeral) : Prop where
  whole_ne_nil : n.whole ≠ []
  whole_digits : ∀ c ∈ n.whole, isAsciiDigit c = true
  fraction_digits : ∀ c ∈ n.fraction, isAsciiDigit c = true

theorem natOfDigits_append (front back : List Char) :
    natOfDigits (front ++ back) =
      back.foldl (fun n c => 10 * n + (c.toNat - '0'.toNat)) (natOfDigits front) :=
  List.foldl_append

theorem natOfDigits_digitsOf (n : Nat) : natOfDigits (digitsOf n) = n :=
  Nat.ofDigitChars_toDigits (by decide) (by decide)

theorem natOfDigits_append_zeros (digits : List Char) :
    ∀ k : Nat, natOfDigits (digits ++ List.replicate k '0') = natOfDigits digits * 10 ^ k
  | 0 => by simp
  | k + 1 => by
    rw [List.replicate_succ', ← List.append_assoc, natOfDigits_append,
      natOfDigits_append_zeros digits k, Nat.pow_succ, ← Nat.mul_assoc, Nat.mul_comm _ 10]
    rfl

theorem natOfDigits_zeros (k : Nat) : natOfDigits (List.replicate k '0') = 0 := by
  have h := natOfDigits_append_zeros [] k
  rw [List.nil_append] at h
  rw [h]
  exact Nat.zero_mul _

theorem natOfDigits_zeros_append (k : Nat) (digits : List Char) :
    natOfDigits (List.replicate k '0' ++ digits) = natOfDigits digits := by
  rw [natOfDigits_append, natOfDigits_zeros]
  rfl

theorem isAsciiDigit_of_isDigit {c : Char} (h : c.isDigit = true) : isAsciiDigit c = true := by
  simp only [Char.isDigit, Bool.and_eq_true, decide_eq_true_eq] at h
  simp only [isAsciiDigit, Bool.and_eq_true, decide_eq_true_eq]
  exact h

theorem digitsOf_digits (n : Nat) : ∀ c ∈ digitsOf n, isAsciiDigit c = true :=
  fun _ hc => isAsciiDigit_of_isDigit (Nat.isDigit_of_mem_toDigits (by decide) (by decide) hc)

theorem digitsOf_ne_nil (n : Nat) : digitsOf n ≠ [] := Nat.toDigits_ne_nil

theorem zeros_digits (k : Nat) : ∀ c ∈ List.replicate k '0', isAsciiDigit c = true := by
  intro c hc
  rw [List.eq_of_mem_replicate hc]
  rfl

/-! ## The decimal chosen -/

theorem decimalUnits_stripZeros (digits : Nat) (e : Int) :
    decimalUnits (stripZeros digits e).digits (stripZeros digits e).exponent =
      decimalUnits digits e := by
  fun_induction stripZeros digits e with
  | case1 digits e h ih =>
    have hten : digits / 10 * 10 = digits := Nat.div_mul_cancel (Nat.dvd_of_mod_eq_zero h.2)
    rw [ih, ← decimalUnits_mul_ten, hten]
  | case2 => rfl

theorem gridHit_reads_back {tie : TieRule} {units digits : Nat} {e : Int}
    (h : gridHit tie units e = some digits) : decimalUnits digits e = units := by
  unfold gridHit at h
  simp only at h
  split at h
  · rename_i hlow
    split at h
    · rename_i hhigh
      rw [← Option.some.inj h]
      split
      · exact beq_iff_eq.mp hhigh
      · exact beq_iff_eq.mp hlow
    · rw [← Option.some.inj h]
      exact beq_iff_eq.mp hlow
  · split at h
    · rename_i hhigh
      rw [← Option.some.inj h]
      exact beq_iff_eq.mp hhigh
    · cases h

/-- Every magnitude is a decimal: so many units of `2 ^ -k` are five to the `k` times as many of
`10 ^ -k`. -/
theorem decimalUnits_exact (units : Nat) {k : Nat} (hk : unitsPerOne = 2 ^ k) :
    decimalUnits (units * Nat.pow 5 k) (-(k : Int)) = nearest units 1 := by
  cases k with
  | zero =>
    show decimalUnits (units * 1) (.ofNat 0) = _
    rw [decimalUnits_ofNat, hk, Nat.pow_zero, Nat.pow_zero, Nat.mul_one, Nat.mul_one, Nat.mul_one]
  | succ k =>
    have hten : (10 : Nat) ^ (k + 1) = 5 ^ (k + 1) * 2 ^ (k + 1) := by
      rw [← Nat.mul_pow]
    show decimalUnits (units * 5 ^ (k + 1)) (.negSucc k) = _
    rw [decimalUnits_negSucc, hk, Nat.mul_assoc, ← hten,
      ← nearest_scale units 1 (Nat.pow_pos (by decide) : 0 < 10 ^ (k + 1)), Nat.one_mul]

/-- **The decimal chosen for a double rounds to it.** -/
theorem shortest_reads_back (tie : TieRule) {units : Nat} (representable : Representable units) :
    decimalUnits (shortest tie units).digits (shortest tie units).exponent = units := by
  unfold shortest
  simp only
  split
  · rename_i digits e found
    obtain ⟨grid, _, hit⟩ := List.exists_of_findSome?_eq_some found
    obtain ⟨_, hdigits, heq⟩ := Option.map_eq_some_iff.mp hit
    cases heq
    rw [decimalUnits_stripZeros, gridHit_reads_back hdigits]
  · rw [decimalUnits_stripZeros]
    obtain ⟨k, hk, hunit⟩ : ∃ k, k = 1074 ∧ unitsPerOne = 2 ^ k := ⟨1074, rfl, unitsPerOne_eq⟩
    have places : (-1074 : Int) = -(k : Int) := by omega
    rw [places, ← hk, decimalUnits_exact units hunit,
      nearest_of_representable units representable]

/-! ## The text of a number -/

theorem exists_plainNumeral (negative : Bool) {digits : List Char} (nonempty : digits ≠ [])
    (proper : ∀ c ∈ digits, isAsciiDigit c = true) (e : Int) :
    ∃ n : Numeral, n.Proper ∧
      n.text = (if negative then ['-'] else []) ++ NumberLayout.path.plainText digits e ∧
      n.toBinary64 = .ofUnits negative (decimalUnits (natOfDigits digits) e) := by
  have reads (whole fraction : List Char) :
      (Numeral.mk negative whole fraction).toBinary64 =
        .ofUnits negative
          (decimalUnits (natOfDigits (whole ++ fraction)) (-(fraction.length : Int))) :=
    ofDecimal_eq _ _ (by simp)
  unfold NumberLayout.plainText
  by_cases he : 0 ≤ e
  · -- No fraction: zeros up to the point.
    refine ⟨⟨negative, digits ++ List.replicate e.toNat '0', []⟩, ⟨?_, ?_, ?_⟩, ?_, ?_⟩
    · simp [nonempty]
    · intro c hc
      exact (List.mem_append.mp hc).elim (proper c) (zeros_digits _ c)
    · intro c hc
      cases hc
    · simp [Numeral.text, NumberLayout.path, he]
    · rw [reads, List.append_nil, natOfDigits_append_zeros, decimalUnits_mul_pow]
      congr 2
      simp [Int.toNat_of_nonneg he]
  · rw [if_neg he]
    have hplaces : -(e.natAbs : Int) = e := by omega
    by_cases hlen : digits.length ≤ e.natAbs
    · -- Only a fraction: a zero, the point, and zeros up to the digits.
      rw [if_pos hlen]
      refine ⟨⟨negative, ['0'], List.replicate (e.natAbs - digits.length) '0' ++ digits⟩,
        ⟨by simp, ?_, ?_⟩, ?_, ?_⟩
      · intro c hc
        rw [List.mem_singleton.mp hc]
        rfl
      · intro c hc
        exact (List.mem_append.mp hc).elim (zeros_digits _ c) (proper c)
      · simp [Numeral.text, nonempty]
      · have hlength : (List.replicate (e.natAbs - digits.length) '0' ++ digits).length =
            e.natAbs := by
          simp [hlen]
        have hzero : ['0'] ++ (List.replicate (e.natAbs - digits.length) '0' ++ digits) =
            List.replicate (e.natAbs - digits.length + 1) '0' ++ digits := by
          simp [List.replicate_succ]
        rw [reads, hlength, hplaces, hzero, natOfDigits_zeros_append]
    · -- The point stands among the digits.
      rw [if_neg hlen]
      have hdrop : (digits.drop (digits.length - e.natAbs)).length = e.natAbs := by
        rw [List.length_drop]
        omega
      refine ⟨⟨negative, digits.take (digits.length - e.natAbs),
        digits.drop (digits.length - e.natAbs)⟩, ⟨?_, ?_, ?_⟩, ?_, ?_⟩
      · intro h
        have := congrArg List.length h
        rw [List.length_take, List.length_nil] at this
        omega
      · exact fun c hc => proper c (List.mem_of_mem_take hc)
      · exact fun c hc => proper c (List.mem_of_mem_drop hc)
      · have hfraction : (digits.drop (digits.length - e.natAbs)).isEmpty = false := by
          rw [List.isEmpty_eq_false_iff, ← List.length_pos_iff, hdrop]
          omega
        simp [Numeral.text, hfraction]
      · rw [reads, List.take_append_drop, hdrop, hplaces]

/-- **The text of a double in a path is a numeral that reads back as the double.** -/
theorem exists_numeral (x : Finite) :
    ∃ n : Numeral, n.Proper ∧ n.text = NumberLayout.path.finiteText x ∧
      n.toBinary64 = .finite x := by
  unfold NumberLayout.finiteText NumberLayout.magnitudeText
  rw [← ofUnits_units x]
  by_cases hzero : x.units = 0
  · rw [if_pos hzero, hzero]
    have nonempty : ['0'] ≠ [] := List.cons_ne_nil _ _
    obtain ⟨n, proper, text, value⟩ :=
      exists_plainNumeral x.negative nonempty (by simp [isAsciiDigit]) 0
    refine ⟨n, proper, text, value.trans ?_⟩
    rw [show natOfDigits ['0'] = 0 from rfl, decimalUnits_zero]
  · rw [if_neg hzero]
    obtain ⟨n, proper, text, value⟩ :=
      exists_plainNumeral x.negative (digitsOf_ne_nil _) (digitsOf_digits _)
        (shortest NumberLayout.path.tie x.units).exponent
    refine ⟨n, proper, text, value.trans ?_⟩
    rw [natOfDigits_digitsOf, shortest_reads_back _ x.representable]

/-- **The digits of an integer are read as its magnitude rounded**, with their sign. -/
theorem Numeral.toBinary64_of_integer {n : Numeral} {i : Int} (h : n.toInt? = some i) :
    n.toBinary64 = .ofUnits n.negative (nearest (i.natAbs * unitsPerOne) 1) ∧
      i = if n.negative then -(i.natAbs : Int) else i.natAbs := by
  unfold Numeral.toInt? at h
  split at h
  · next hfraction =>
    have hvalue : (if n.negative then -(natOfDigits n.whole : Int) else natOfDigits n.whole) = i :=
      Option.some.inj h
    have hmagnitude : natOfDigits n.whole = i.natAbs := by
      cases hsign : n.negative <;> simp only [hsign] at hvalue <;> omega
    constructor
    · have hread : Binary64.ofDecimal n.negative (natOfDigits n.whole) 0 =
          .ofUnits n.negative (decimalUnits (natOfDigits n.whole) (.ofNat 0)) :=
        ofDecimal_eq _ _ (Int.le_refl 0)
      rw [Numeral.toBinary64, List.isEmpty_iff.1 hfraction, List.append_nil]
      refine hread.trans ?_
      rw [decimalUnits_ofNat, Nat.pow_zero, Nat.mul_one, hmagnitude]
    · rw [← hmagnitude]
      exact hvalue.symm
  · cases h

/-- **A numeral that writes an integer up to `2 ^ 53` reads as the integer.** -/
theorem Numeral.toBinary64_of_toInt? {n : Numeral} {i : Int} (h : n.toInt? = some i)
    (small : i.natAbs ≤ 2 ^ 53) :
    ∃ x : Finite, n.toBinary64 = .finite x ∧ x.isIntegral = true ∧ x.truncate = i := by
  obtain ⟨hread, hvalue⟩ := toBinary64_of_integer h
  have representable := representable_whole small
  rw [nearest_of_representable _ representable] at hread
  refine ⟨⟨n.negative, i.natAbs * unitsPerOne, representable⟩, ?_, ?_, ?_⟩
  · exact hread.trans (ofUnits_units ⟨n.negative, _, representable⟩)
  · simp [Finite.isIntegral]
  · simpa only [Finite.truncate, Nat.mul_div_cancel _ unitsPerOne_pos] using hvalue.symm

theorem exists_integerNumeral (i : Int) :
    ∃ n : Numeral, n.Proper ∧ n.text = intText i ∧ n.toInt? = some i := by
  refine ⟨⟨decide (i < 0), digitsOf i.natAbs, []⟩,
    ⟨digitsOf_ne_nil _, digitsOf_digits _, fun c hc => by cases hc⟩, ?_, ?_⟩
  · unfold Numeral.text intText
    by_cases hneg : i < 0 <;> simp [hneg]
  · simp only [Numeral.toInt?, List.isEmpty_nil, natOfDigits_digitsOf, decide_eq_true_eq, if_true,
      Option.some.injEq]
    split <;> omega

/-- **The text of an integer up to `2 ^ 53` is a numeral that reads back as the integer.** -/
theorem exists_intNumeral {i : Int} (h : i.natAbs ≤ 2 ^ 53) :
    ∃ n : Numeral, n.Proper ∧ n.text = intText i ∧
      ∃ x : Finite, n.toBinary64 = .finite x ∧ x.isIntegral = true ∧ x.truncate = i := by
  obtain ⟨n, proper, htext, hinteger⟩ := exists_integerNumeral i
  exact ⟨n, proper, htext, Numeral.toBinary64_of_toInt? hinteger h⟩

end DocumentStore
