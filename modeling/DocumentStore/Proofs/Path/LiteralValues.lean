import DocumentStore.Proofs.Path.NumeralLookup
import DocumentStore.Query.Reader

/-!
# The values of literals

A finite double stands for a number: an integral one of the signed range for the integer that it
is, any other for itself.  So a literal in a path or in a filter has the exact value of its double.
There is one exception.  The greatest signed integer is no double, and the next integer, `2 ^ 63`,
is one: it is held in the signed range, and its number is less by one.

* `Number.exactUnits` — the exact value of a number, in units.

Principal results: `Finite.signedUnits_of_isIntegral` — an integral double is its integer part.
`Number.exists_ofBinary64?` — the number of a finite double.  `numberValue_exact` — the values of
literals.
-/

set_option autoImplicit false

namespace DocumentStore

/-- The exact value of a number, in units. -/
def Number.exactUnits : Number → Int
  | .int n => n.value * unitsPerOne
  | .float x => x.signedUnits

/-- **An integral double is its integer part.** -/
theorem Finite.signedUnits_of_isIntegral {x : Finite} (h : x.isIntegral = true) :
    x.signedUnits = x.truncate * unitsPerOne := by
  have whole : x.units / unitsPerOne * unitsPerOne = x.units :=
    Nat.div_mul_cancel (Nat.dvd_of_mod_eq_zero (beq_iff_eq.mp h))
  calc x.signedUnits
      = if x.negative then -((x.units / unitsPerOne * unitsPerOne : Nat) : Int)
          else (x.units / unitsPerOne * unitsPerOne : Nat) := by rw [whole]; rfl
    _ = x.truncate * unitsPerOne := signed_mul _ _ _

/-- The greatest integer of signed form. -/
def Integer.greatestSigned : Integer := ⟨maxSigned, by decide⟩

namespace Number

/-- **The number of a finite double** has the value of the double, unless that is `2 ^ 63`. -/
theorem exists_ofBinary64? (x : Finite) : ∃ n, ofBinary64? (.finite x) = some n ∧
    (x.signedUnits ≠ 2 ^ 63 * unitsPerOne ∧ n.exactUnits = x.signedUnits ∨
      x.signedUnits = 2 ^ 63 * unitsPerOne ∧ n = .int .greatestSigned) := by
  have hpos : (unitsPerOne : Int) ≠ 0 := Int.natCast_ne_zero.mpr unitsPerOne_pos.ne'
  have hlimit : maxSigned + 1 = 2 ^ 63 := by decide
  unfold ofBinary64?
  simp only [Bool.and_eq_true, decide_eq_true_eq]
  split
  · next hrange =>
    obtain ⟨⟨integral, atLeast⟩, atMost⟩ := hrange
    have hvalue := Finite.signedUnits_of_isIntegral integral
    have hfits : minSigned ≤ min x.truncate maxSigned ∧ min x.truncate maxSigned ≤ maxUnsigned := by
      unfold minSigned maxSigned maxUnsigned at *
      omega
    refine ⟨.int ⟨_, hfits⟩, by rw [ofInt?, dif_pos hfits], ?_⟩
    by_cases hlast : x.truncate = maxSigned + 1
    · have hmin : min x.truncate maxSigned = maxSigned := by omega
      refine .inr ⟨by rw [hvalue, hlast, hlimit], ?_⟩
      simp only [hmin, Integer.greatestSigned]
    · have hmin : min x.truncate maxSigned = x.truncate := by omega
      have hne : x.signedUnits ≠ 2 ^ 63 * unitsPerOne := by
        rw [hvalue, ← hlimit]
        exact fun h => hlast (Int.eq_of_mul_eq_mul_right hpos h)
      refine .inl ⟨hne, ?_⟩
      show min x.truncate maxSigned * unitsPerOne = x.signedUnits
      rw [hmin, hvalue]
  · next hrange =>
    refine ⟨.float x, rfl, .inl ⟨fun hlast => hrange ?_, rfl⟩⟩
    -- The limit itself is integral and in the range.
    obtain ⟨integral, htruncate⟩ := Finite.truncate_of_whole hlast
    rw [htruncate, hlimit]
    exact ⟨⟨integral, by decide⟩, Int.le_refl _⟩

end Number

/-- **The value of a literal.**  A finite double stands for one number: in a path, whatever value the
path is read from, and in a filter whose text starts with a numeral of that double.  The number has
exactly the value of the double, unless that is `2 ^ 63`, which stands for the integer before it. -/
theorem numberValue_exact {L : Type} (x : Finite) :
    ∃ n : Number, (numberValue (.finite x) : Value L) = .number n ∧
      (∀ value : Value L, (PathExpr.number (.finite x)).read value = .ok (some (.number n))) ∧
      (∀ text numeral rest, Numeral.scan? text = some (numeral, rest) →
        numeral.toBinary64 = .finite x → readNumber text = .ok (n, rest)) ∧
      (x.signedUnits ≠ 2 ^ 63 * unitsPerOne ∧ n.exactUnits = x.signedUnits ∨
        x.signedUnits = 2 ^ 63 * unitsPerOne ∧ n = .int .greatestSigned) := by
  obtain ⟨n, hn, exact⟩ := Number.exists_ofBinary64? x
  have hvalue : (numberValue (.finite x) : Value L) = .number n := by rw [numberValue, hn]
  refine ⟨n, hvalue, ?_, ?_, exact⟩
  · intro value
    rw [PathExpr.read, hvalue]
  · intro text numeral rest hscan hdouble
    unfold readNumber
    simp only [hscan, hdouble, hn]

/-- The greatest double below `2 ^ 63`. -/
def belowLimit : Finite := ⟨false, 9223372036854774784 * unitsPerOne, by decide +kernel⟩

/-- The double `2 ^ 63`. -/
def signedLimit : Finite := ⟨false, 2 ^ 63 * unitsPerOne, by decide +kernel⟩

/-- Below the limit the numeral of a filter is read as the integer that it writes. -/
theorem numberValue_exact_belowLimit :
    let text := "9223372036854774784]".toList
    ∃ (numeral : Numeral) (n : Number), Numeral.scan? text = some (numeral, [']']) ∧
      numeral.toBinary64 = .finite belowLimit ∧ readNumber text = .ok (n, [']']) ∧
      n.exactUnits = 9223372036854774784 * unitsPerOne := by
  intro text
  have hscan : Numeral.scan? text = some (⟨false, "9223372036854774784".toList, []⟩, [']']) := by
    decide
  have hdouble : Numeral.toBinary64 ⟨false, "9223372036854774784".toList, []⟩ =
      .finite belowLimit := by decide +kernel
  have hvalue : belowLimit.signedUnits = 9223372036854774784 * unitsPerOne := by decide +kernel
  obtain ⟨n, -, -, read, ⟨-, exact⟩ | ⟨limit, -⟩⟩ := numberValue_exact (L := Unit) belowLimit
  · exact ⟨_, n, hscan, hdouble, read _ _ _ hscan hdouble, exact.trans hvalue⟩
  · exact absurd limit (by decide +kernel)

/-- The double `2 ^ 63` stands for a number of another value. -/
theorem numberValue_signedLimit :
    (numberValue (.finite signedLimit) : Json) = .number (.int ⟨9223372036854775807, by decide⟩) ∧
      (Number.int ⟨9223372036854775807, by decide⟩).exactUnits ≠ signedLimit.signedUnits := by
  decide +kernel

end DocumentStore
