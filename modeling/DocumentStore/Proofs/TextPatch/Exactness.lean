import DocumentStore.Proofs.Success
import DocumentStore.Proofs.TextPatch.Nearest
import DocumentStore.TextPatch.Reader

/-!
# Places reckoned exactly

Places and drifts are reckoned with signed integers of 64 bits.  That is as good as exact integers
while the numbers in the headers are signed numbers and no sum on the way leaves their range; and it
is so when all the sizes taken together, of the text and of what the hunks name, are a signed number.
A start beyond the signed range is another matter: it is taken for a negative place, and so its hunk
is expected at the front of the text, and not behind its end.

* `applyExactly` — the text after hunks, reckoned in exact integers.
* `Reckonable` — a text and hunks for which no number leaves the signed range.
* `totalReach` — all that hunks name, taken together.

Principal results: `applyHunksFrom_exact` — the reckoning is exact.  `reckonable_of_reach` — sizes
that together are a signed number.  `expectedPlace_beyond` — where a start beyond the signed range is
expected.  `applyHunks_exact` — hunks are applied as in exact integers.
-/

set_option autoImplicit false

namespace DocumentStore

/-- The numbers of a hunk that places are reckoned from are signed numbers. -/
structure Hunk.Signed (hunk : Hunk) : Prop where
  start2 : FitsSigned hunk.start2
  length1 : FitsSigned hunk.length1
  length2 : FitsSigned hunk.length2

/-- The text after hunks, one after the other, and whether each was applied, where places and drifts
are exact integers. -/
def applyExactlyFrom (drift : Int) (text : List Char) : List Hunk → List Char × List Bool
  | [] => (text, [])
  | hunk :: rest =>
    let expected := ((hunk.start2 : Int) + drift).toNat
    match locate text hunk.source expected with
    | some place =>
      let text := splice text place hunk.source.length hunk.target
      let (text, applied) := applyExactlyFrom ((place : Int) - expected) text rest
      (text, true :: applied)
    | none =>
      let growth := (hunk.length2 : Int) - hunk.length1
      let (text, applied) := applyExactlyFrom (drift - growth) text rest
      (text, false :: applied)

/-- The text after hunks in exact integers, and whether each was applied. -/
def applyExactly (hunks : List Hunk) (text : List Char) : List Char × List Bool :=
  applyExactlyFrom 0 text hunks

/-- No number that a hunk names is beyond the signed range, and no sum or difference on the way from
hunk to hunk leaves it. -/
structure Reckonable (text : List Char) (hunks : List Hunk) : Prop where
  signed : ∀ hunk ∈ hunks, hunk.Signed
  fits : DriftFits 0 text hunks

/-! ## The reckoning -/

namespace Hunk.Signed

variable {hunk : Hunk}

theorem expected_eq (signed : hunk.Signed) (drift : Int) :
    hunk.expected drift = ((hunk.start2 : Int) + drift).toNat := by
  unfold Hunk.expected
  rw [wrapSigned_place signed.start2.2]

theorem growth_eq (signed : hunk.Signed) :
    hunk.growth = (hunk.length2 : Int) - hunk.length1 := by
  unfold Hunk.growth
  rw [wrapSigned_place signed.length1.2, wrapSigned_place signed.length2.2]

end Hunk.Signed

/-- **The reckoning is exact** while no number leaves the signed range. -/
theorem applyHunksFrom_exact : ∀ {hunks : List Hunk} {drift : Int} {text : List Char},
    (∀ hunk ∈ hunks, hunk.Signed) → DriftFits drift text hunks →
      applyHunksFrom drift text hunks = applyExactlyFrom drift text hunks
  | [], _, _, _, _ => rfl
  | hunk :: rest, drift, text, signed, fits => by
    obtain ⟨signed, others⟩ := List.forall_mem_cons.mp signed
    unfold DriftFits at fits
    obtain ⟨sum, onward⟩ := fits
    rw [applyExactlyFrom]
    cases located : locate text hunk.source (hunk.expected drift) with
    | some place =>
      simp only [located] at onward
      obtain ⟨shift, fits⟩ := onward
      rw [applyHunksFrom_found sum shift located, applyHunksFrom_exact others fits]
      simp only [← signed.expected_eq drift, located]
      rfl
    | none =>
      simp only [located] at onward
      obtain ⟨growth, shift, fits⟩ := onward
      rw [applyHunksFrom_lost sum growth shift located, applyHunksFrom_exact others fits]
      simp only [← signed.expected_eq drift, ← signed.growth_eq, located]
      rfl

/-! ## Sizes -/

/-- All that a hunk names, taken together: its place, its lengths, and what it leaves. -/
def Hunk.reach (hunk : Hunk) : Nat :=
  hunk.start2 + hunk.length1 + hunk.length2 + hunk.target.length

/-- All that hunks name, taken together. -/
def totalReach : List Hunk → Nat
  | [] => 0
  | hunk :: rest => hunk.reach + totalReach rest

theorem FitsSigned.of_natAbs_le {n : Int} {bound : Nat} (fits : FitsSigned bound)
    (h : n.natAbs ≤ bound) : FitsSigned n := by
  unfold FitsSigned minSigned maxSigned at *
  omega

theorem Hunk.signed_of_reach {hunk : Hunk} (fits : FitsSigned hunk.reach) : hunk.Signed := by
  unfold Hunk.reach at fits
  exact ⟨fits.of_natAbs_le (by omega), fits.of_natAbs_le (by omega), fits.of_natAbs_le (by omega)⟩

theorem signed_of_totalReach : ∀ {hunks : List Hunk}, FitsSigned (totalReach hunks) →
    ∀ hunk ∈ hunks, hunk.Signed
  | [], _ => fun _ h => (List.not_mem_nil h).elim
  | hunk :: rest, fits => by
    rw [totalReach] at fits
    rw [List.forall_mem_cons]
    exact ⟨Hunk.signed_of_reach (fits.of_natAbs_le (by omega)),
      signed_of_totalReach (fits.of_natAbs_le (by omega))⟩

theorem length_splice_le (text : List Char) (place count : Nat) (inserted : List Char) :
    (splice text place count inserted).length ≤ text.length + inserted.length := by
  unfold splice
  simp only [List.length_append, List.length_take, List.length_drop]
  omega

/-- **A drift and a text within a bound stay within it**, when every hunk raises the bound by what it
names.  A place found is in the text, and one expected is no farther than the drift leads from the
hunk's own; so the one is no farther from the other than the raised bound. -/
theorem driftFits_of_reach : ∀ {hunks : List Hunk} {drift : Int} {text : List Char} {bound : Nat},
    drift.natAbs ≤ bound → text.length ≤ bound → FitsSigned (bound + totalReach hunks : Nat) →
      DriftFits drift text hunks
  | [], _, _, _, _, _, _ => trivial
  | hunk :: rest, drift, text, bound, hdrift, htext, fits => by
    rw [totalReach, ← Nat.add_assoc] at fits
    have raised : FitsSigned (bound + hunk.reach : Nat) := fits.of_natAbs_le (by omega)
    have signed : hunk.Signed := Hunk.signed_of_reach (raised.of_natAbs_le (by omega))
    have reach : hunk.reach =
        hunk.start2 + hunk.length1 + hunk.length2 + hunk.target.length := rfl
    have sum : FitsSigned (wrapSigned hunk.start2 + drift) := by
      rw [wrapSigned_place signed.start2.2]
      exact raised.of_natAbs_le (by omega)
    unfold DriftFits
    refine ⟨sum, ?_⟩
    cases located : locate text hunk.source (hunk.expected drift) with
    | some place =>
      have inside : place ≤ text.length := (nearest_of_locate located).stands.le_length
      have grown := length_splice_le text place hunk.source.length hunk.target
      have shift : ((place : Int) - hunk.expected drift).natAbs ≤ bound + hunk.reach := by
        rw [signed.expected_eq]
        omega
      exact ⟨raised.of_natAbs_le shift, driftFits_of_reach shift (by omega) fits⟩
    | none =>
      have lengths : hunk.growth.natAbs ≤ bound + hunk.reach := by
        rw [signed.growth_eq]
        omega
      have shift : (drift - hunk.growth).natAbs ≤ bound + hunk.reach := by
        rw [signed.growth_eq]
        omega
      exact ⟨raised.of_natAbs_le lengths, raised.of_natAbs_le shift,
        driftFits_of_reach shift (by omega) fits⟩

/-- **Sizes that together are a signed number** keep every number on the way signed. -/
theorem reckonable_of_reach {text : List Char} {hunks : List Hunk}
    (fits : FitsSigned (text.length + totalReach hunks : Nat)) : Reckonable text hunks where
  signed := signed_of_totalReach (fits.of_natAbs_le (by omega))
  fits := driftFits_of_reach (Nat.zero_le _) (Nat.le_refl _) fits

/-- **Hunks are applied as in exact integers** while no number on the way leaves the signed range;
and none does when the length of the text and all that the hunks name, taken together, are a signed
number. -/
theorem applyHunks_exact (hunks : List Hunk) (text : List Char) :
    (Reckonable text hunks → applyHunks hunks text = applyExactly hunks text) ∧
      (FitsSigned (text.length + totalReach hunks : Nat) → Reckonable text hunks) :=
  ⟨fun reckonable => applyHunksFrom_exact reckonable.signed reckonable.fits, reckonable_of_reach⟩

/-- A hunk that is lost and says that it takes much away, and one that is looked for far behind. -/
def distantHunks : List Hunk :=
  [⟨[(.remove, ['z'])], 0, 4611686018427387000, 0, 0⟩,
    ⟨[(.remove, ['b']), (.add, ['c'])], 0, 1, 7, 1⟩]

theorem applyHunks_exact_distant :
    FitsSigned ("abab".toList.length + totalReach distantHunks : Nat) ∧
      Reckonable "abab".toList distantHunks ∧
      applyHunks distantHunks "abab".toList = applyExactly distantHunks "abab".toList ∧
      applyExactly distantHunks "abab".toList = ("abac".toList, [false, true]) := by
  have fits : FitsSigned ("abab".toList.length + totalReach distantHunks : Nat) := by decide
  obtain ⟨exact, reckonable⟩ := applyHunks_exact distantHunks "abab".toList
  exact ⟨fits, reckonable fits, exact (reckonable fits), by decide +kernel⟩

/-! ## Beyond the signed range -/

/-- **A start beyond the signed range** is expected at the front, before there is a drift. -/
theorem expectedPlace_beyond {start : Nat} (beyond : maxSigned < (start : Int))
    (fits : (start : Int) ≤ maxUnsigned) : expectedPlace start 0 = 0 := by
  unfold maxSigned at beyond
  unfold maxUnsigned at fits
  unfold expectedPlace wrapSigned
  rw [Int.add_zero, Int.bmod_bmod]
  have negative : (start : Int).bmod (Nat.pow 2 64) = start - 18446744073709551616 := by
    rw [← Int.sub_bmod_right]
    exact Int.bmod_eq_of_le_mul_two (by simp; omega) (by simp; omega)
  rw [negative]
  omega

/-- A hunk without source goes to the place expected, or behind the text when that is shorter. -/
theorem locate_nil (text : List Char) (expected : Nat) :
    locate text [] expected = some (min expected text.length) := rfl

/-- **An insertion beyond the signed range** goes in front of the text, and not behind its end. -/
theorem insertion_beyond {hunk : Hunk} (empty : hunk.source = [])
    (beyond : maxSigned < (hunk.start2 : Int)) (fits : (hunk.start2 : Int) ≤ maxUnsigned)
    {text : List Char} (behind : text.length ≤ hunk.start2) :
    applyHunks [hunk] text = (hunk.target ++ text, [true]) ∧
      applyExactly [hunk] text = (text ++ hunk.target, [true]) := by
  constructor
  · unfold applyHunks applyHunksFrom
    simp only [expectedPlace_beyond beyond fits, empty, locate_nil, Nat.zero_min]
    rfl
  · have place : min ((hunk.start2 : Int) + 0).toNat text.length = text.length := by
      omega
    unfold applyExactly applyExactlyFrom
    simp only [empty, locate_nil, place]
    simp [splice, applyExactlyFrom]

/-- A hunk that adds to the end of any text, the greatest start there is being so far behind. -/
def endHunk : Hunk := ⟨[(.add, ['x'])], 0, 0, 18446744073709551614, 1⟩

/-- What is to be added behind a text goes in front of it. -/
theorem applyHunks_beyond :
    hunksOf "@@ -0,0 +18446744073709551615,1 @@\n+x\n".toList = .ok [endHunk] ∧
      wrapSigned endHunk.start2 = -2 ∧
      applyHunks [endHunk] "ab".toList = ("xab".toList, [true]) ∧
      applyExactly [endHunk] "ab".toList = ("abx".toList, [true]) := by
  have read : hunksOf "@@ -0,0 +18446744073709551615,1 @@\n+x\n".toList = .ok [endHunk] :=
    eq_ok_of_toOption (by decide +kernel)
  have behind : "ab".toList.length ≤ endHunk.start2 := by decide
  obtain ⟨wrapped, exact⟩ := @insertion_beyond endHunk rfl (by decide) (by decide) _ behind
  exact ⟨read, by decide +kernel, wrapped, exact⟩

end DocumentStore
