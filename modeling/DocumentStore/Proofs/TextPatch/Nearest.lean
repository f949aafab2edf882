import DocumentStore.Proofs.Json.Numbers
import DocumentStore.Proofs.TextPatch.InPlace

/-!
# Where hunks go

A hunk goes to the occurrence of its source that is nearest to the place where it is expected, the
first of two that are equally near; a source without characters stands everywhere, so its hunk goes
to the very place.  A hunk is left out only when its source stands nowhere.  As long as no sum
leaves the range of signed numbers, this is what becomes of every hunk of a list, with drifts that
are exact integers.

* `Stands`, `Nearest` — the occurrences of a pattern, and the one nearest to a place.
* `DriftFits` — a list of hunks of which no sum leaves the signed range.
* `Patches` — what hunks make of a text, one after the other.

Principal results: `locate_eq_some_iff`, `locate_eq_none_iff` — where a pattern is found, and when
it is not.  `applyHunksFrom_found`, `applyHunksFrom_lost` — one hunk.  `applyHunks_nearest` — where
hunks go.
-/

set_option autoImplicit false

namespace DocumentStore

/-! ## Occurrences -/

/-- A pattern stands in a text behind so many characters. -/
def Stands (text pattern : List Char) (place : Nat) : Prop :=
  ∃ before behind, text = before ++ pattern ++ behind ∧ before.length = place

theorem stands_zero_iff {text pattern : List Char} : Stands text pattern 0 ↔ pattern <+: text := by
  constructor
  · rintro ⟨before, behind, rfl, hbefore⟩
    rw [List.length_eq_zero_iff.mp hbefore, List.nil_append]
    exact List.prefix_append pattern behind
  · rintro ⟨behind, rfl⟩
    exact ⟨[], behind, rfl, rfl⟩

theorem stands_succ_iff {c : Char} {rest pattern : List Char} {place : Nat} :
    Stands (c :: rest) pattern (place + 1) ↔ Stands rest pattern place := by
  constructor
  · rintro ⟨before, behind, htext, hbefore⟩
    cases before with
    | nil => cases hbefore
    | cons first before =>
      cases htext
      exact ⟨before, behind, rfl, Nat.succ.inj hbefore⟩
  · rintro ⟨before, behind, rfl, rfl⟩
    exact ⟨c :: before, behind, rfl, rfl⟩

theorem not_stands_nil {pattern : List Char} (nonempty : pattern ≠ []) (place : Nat) :
    ¬ Stands [] pattern place := by
  rintro ⟨before, behind, htext, -⟩
  obtain ⟨hfront, -⟩ := List.append_eq_nil_iff.mp htext.symm
  exact nonempty (List.append_eq_nil_iff.mp hfront).2

theorem Stands.le_length {text pattern : List Char} {place : Nat} (h : Stands text pattern place) :
    place ≤ text.length := by
  obtain ⟨before, behind, rfl, rfl⟩ := h
  simp only [List.length_append]
  omega

theorem stands_nil {text : List Char} {place : Nat} (h : place ≤ text.length) :
    Stands text [] place := by
  refine ⟨text.take place, text.drop place, ?_, List.length_take_of_le h⟩
  rw [List.append_nil, List.take_append_drop]

theorem stands_iff_drop {text pattern : List Char} {place : Nat} (h : place ≤ text.length) :
    Stands text pattern place ↔ pattern <+: text.drop place := by
  constructor
  · rintro ⟨before, behind, rfl, rfl⟩
    rw [List.append_assoc, List.drop_left]
    exact List.prefix_append pattern behind
  · rintro ⟨behind, hbehind⟩
    refine ⟨text.take place, behind, ?_, List.length_take_of_le h⟩
    rw [List.append_assoc, hbehind, List.take_append_drop]

theorem exists_stands_cons_iff {c : Char} {rest pattern : List Char} {i place : Nat} :
    (∃ k, place = i + k ∧ Stands (c :: rest) pattern k) ↔
      (place = i ∧ pattern <+: c :: rest) ∨ ∃ k, place = i + 1 + k ∧ Stands rest pattern k := by
  constructor
  · rintro ⟨k, rfl, stands⟩
    cases k with
    | zero => exact .inl ⟨rfl, stands_zero_iff.mp stands⟩
    | succ k => exact .inr ⟨k, by omega, stands_succ_iff.mp stands⟩
  · rintro (⟨rfl, front⟩ | ⟨k, rfl, stands⟩)
    · exact ⟨0, rfl, stands_zero_iff.mpr front⟩
    · exact ⟨k + 1, by omega, stands_succ_iff.mpr stands⟩

/-- **The places listed are the occurrences.** -/
theorem mem_occurrencesFrom_iff {pattern : List Char} (nonempty : pattern ≠ []) {place : Nat} :
    ∀ {text : List Char} {i : Nat},
      place ∈ occurrencesFrom pattern i text ↔ ∃ k, place = i + k ∧ Stands text pattern k
  | [], i => by
    constructor
    · exact fun h => (List.not_mem_nil h).elim
    · rintro ⟨k, -, stands⟩
      exact (not_stands_nil nonempty k stands).elim
  | c :: rest, i => by
    rw [exists_stands_cons_iff, ← List.isPrefixOf_iff_prefix]
    unfold occurrencesFrom
    split
    · rename_i front
      rw [List.mem_cons, and_iff_left front, mem_occurrencesFrom_iff nonempty]
    · rename_i front
      rw [or_iff_right (fun h => front h.2), mem_occurrencesFrom_iff nonempty]

theorem mem_occurrencesFrom_zero_iff {text pattern : List Char} (nonempty : pattern ≠ [])
    {place : Nat} : place ∈ occurrencesFrom pattern 0 text ↔ Stands text pattern place := by
  rw [mem_occurrencesFrom_iff nonempty]
  simp only [Nat.zero_add, exists_eq_left']

theorem le_of_mem_occurrencesFrom {pattern : List Char} {place : Nat} :
    ∀ {text : List Char} {i : Nat}, place ∈ occurrencesFrom pattern i text → i ≤ place
  | [], _, h => (List.not_mem_nil h).elim
  | c :: rest, i, h => by
    unfold occurrencesFrom at h
    split at h
    · rcases List.mem_cons.mp h with rfl | hrest
      · exact Nat.le_refl _
      · exact Nat.le_of_succ_le (le_of_mem_occurrencesFrom hrest)
    · exact Nat.le_of_succ_le (le_of_mem_occurrencesFrom h)

theorem pairwise_occurrencesFrom (pattern : List Char) :
    ∀ (text : List Char) (i : Nat), (occurrencesFrom pattern i text).Pairwise (· < ·)
  | [], _ => List.Pairwise.nil
  | c :: rest, i => by
    have ordered := pairwise_occurrencesFrom pattern rest (i + 1)
    unfold occurrencesFrom
    split
    · exact List.pairwise_cons.mpr ⟨fun _ h => le_of_mem_occurrencesFrom h, ordered⟩
    · exact ordered

/-! ## The nearest occurrence -/

/-- Of all occurrences of a pattern, the one at `i` is nearest to a place, and the first of those
that are equally near. -/
structure Nearest (text pattern : List Char) (place i : Nat) : Prop where
  stands : Stands text pattern i
  least : ∀ j, Stands text pattern j → distance i place ≤ distance j place
  first : ∀ j, Stands text pattern j → distance j place = distance i place → i ≤ j

theorem Nearest.unique {text pattern : List Char} {place i j : Nat}
    (hi : Nearest text pattern place i) (hj : Nearest text pattern place j) : i = j := by
  have equally : distance j place = distance i place :=
    Nat.le_antisymm (hj.least i hi.stands) (hi.least j hj.stands)
  exact Nat.le_antisymm (hi.first j hj.stands equally) (hj.first i hi.stands equally.symm)

theorem nearest_of_stands {text pattern : List Char} {place : Nat}
    (h : Stands text pattern place) : Nearest text pattern place place where
  stands := h
  least := by
    intro j _
    unfold distance
    omega
  first := by
    intro j _
    unfold distance
    omega

theorem nearest_nil_iff {text : List Char} {place i : Nat} (inside : place ≤ text.length) :
    Nearest text [] place i ↔ i = place := by
  have itself : Nearest text [] place place := nearest_of_stands (stands_nil inside)
  constructor
  · exact fun nearest => nearest.unique itself
  · rintro rfl
    exact itself

theorem closest_eq_none_iff {expected : Nat} {places : List Nat} :
    closest expected places = none ↔ places = [] := by
  cases places with
  | nil => exact iff_of_true rfl rfl
  | cons i rest =>
    refine iff_of_false ?_ (List.cons_ne_nil i rest)
    unfold closest
    split <;> exact Option.some_ne_none _

/-- The place chosen is in the list, nearest of all in it, and first of those equally near. -/
theorem closest_spec {expected : Nat} : ∀ {places : List Nat} {i : Nat},
    places.Pairwise (· < ·) → closest expected places = some i →
      i ∈ places ∧ ∀ j ∈ places, distance i expected ≤ distance j expected ∧
        (distance j expected = distance i expected → i ≤ j)
  | [], _, _, h => by cases h
  | i :: rest, place, ordered, h => by
    obtain ⟨before, ordered⟩ := List.pairwise_cons.mp ordered
    unfold closest at h
    split at h
    · rename_i nothing
      cases h
      rw [closest_eq_none_iff.mp nothing]
      refine ⟨List.mem_cons_self, ?_⟩
      intro j hj
      rw [List.mem_singleton.mp hj]
      exact ⟨Nat.le_refl _, fun _ => Nat.le_refl _⟩
    · rename_i j hj
      obtain ⟨hmem, hleast⟩ := closest_spec ordered hj
      split at h
      · -- The first place is farther away than the one chosen from the others.
        rename_i nearer
        cases h
        refine ⟨List.mem_cons_of_mem i hmem, ?_⟩
        intro k hk
        rcases List.mem_cons.mp hk with rfl | hrest
        · exact ⟨Nat.le_of_lt nearer, fun equally => by omega⟩
        · exact hleast k hrest
      · rename_i farther
        cases h
        refine ⟨List.mem_cons_self, ?_⟩
        intro k hk
        rcases List.mem_cons.mp hk with rfl | hrest
        · exact ⟨Nat.le_refl _, fun _ => Nat.le_refl _⟩
        · have := (hleast k hrest).1
          exact ⟨by omega, fun _ => Nat.le_of_lt (before k hrest)⟩

theorem nearest_of_locate {text pattern : List Char} {expected i : Nat}
    (h : locate text pattern expected = some i) :
    Nearest text pattern (min expected text.length) i := by
  have inside : min expected text.length ≤ text.length := Nat.min_le_right _ _
  unfold locate at h
  simp only at h
  split at h
  · rename_i empty
    cases h
    rw [List.isEmpty_iff.mp empty]
    exact (nearest_nil_iff inside).mpr rfl
  · rename_i nonempty
    rw [List.isEmpty_iff] at nonempty
    split at h
    · rename_i here
      cases h
      exact nearest_of_stands ((stands_iff_drop inside).mpr (List.isPrefixOf_iff_prefix.mp here))
    · obtain ⟨hmem, hleast⟩ := closest_spec (pairwise_occurrencesFrom pattern text 0) h
      have listed {j : Nat} (stands : Stands text pattern j) :
          j ∈ occurrencesFrom pattern 0 text := (mem_occurrencesFrom_zero_iff nonempty).mpr stands
      exact ⟨(mem_occurrencesFrom_zero_iff nonempty).mp hmem,
        fun j stands => (hleast j (listed stands)).1, fun j stands => (hleast j (listed stands)).2⟩

/-- **A pattern is not found** exactly when it has characters and stands nowhere. -/
theorem locate_eq_none_iff {text pattern : List Char} {expected : Nat} :
    locate text pattern expected = none ↔
      pattern ≠ [] ∧ ∀ place, ¬ Stands text pattern place := by
  constructor
  · intro h
    unfold locate at h
    simp only at h
    split at h
    · cases h
    · rename_i nonempty
      rw [List.isEmpty_iff] at nonempty
      split at h
      · cases h
      · refine ⟨nonempty, fun place stands => ?_⟩
        have listed := (mem_occurrencesFrom_zero_iff nonempty).mpr stands
        rw [closest_eq_none_iff.mp h] at listed
        exact List.not_mem_nil listed
  · rintro ⟨-, nowhere⟩
    cases h : locate text pattern expected with
    | none => rfl
    | some i => exact absurd (nearest_of_locate h).stands (nowhere i)

/-- **A pattern is found at the occurrence nearest to the place expected**, cut to the end of the
text. -/
theorem locate_eq_some_iff {text pattern : List Char} {expected i : Nat} :
    locate text pattern expected = some i ↔
      Nearest text pattern (min expected text.length) i := by
  refine ⟨nearest_of_locate, fun nearest => ?_⟩
  cases h : locate text pattern expected with
  | none => exact absurd nearest.stands ((locate_eq_none_iff.mp h).2 i)
  | some j => rw [(nearest_of_locate h).unique nearest]

/-! ## Hunks -/

namespace Hunk

/-- The place where a hunk expects its source after a drift, which is the front of the text when
the drift leads before it.  The sum is exact. -/
def expected (hunk : Hunk) (drift : Int) : Nat := (wrapSigned hunk.start2 + drift).toNat

/-- How many characters a hunk adds to the text, by what it says of itself. -/
def growth (hunk : Hunk) : Int := wrapSigned hunk.length2 - wrapSigned hunk.length1

end Hunk

/-- What hunks make of a text, one after the other, each in the text that those before it left.  A
hunk goes to the occurrence of its source nearest to the place expected, cut to the end of the text,
and its drift is how far that is from the place expected.  A hunk whose source stands nowhere leaves
the text alone. -/
inductive Patches : Int → List Char → List Hunk → List Char → List Bool → Prop
  | done (drift : Int) (text : List Char) : Patches drift text [] text []
  | found {drift : Int} {text out : List Char} {hunk : Hunk} {rest : List Hunk}
    {applied : List Bool} (place : Nat)
    (nearest : Nearest text hunk.source (min (hunk.expected drift) text.length) place)
    (others : Patches (place - hunk.expected drift)
      (splice text place hunk.source.length hunk.target) rest out applied) :
    Patches drift text (hunk :: rest) out (true :: applied)
  | lost {drift : Int} {text out : List Char} {hunk : Hunk} {rest : List Hunk}
    {applied : List Bool} (nonempty : hunk.source ≠ [])
    (nowhere : ∀ place, ¬ Stands text hunk.source place)
    (others : Patches (drift - hunk.growth) text rest out applied) :
    Patches drift text (hunk :: rest) out (false :: applied)

/-- No sum or difference on the way from hunk to hunk leaves the signed range. -/
def DriftFits : Int → List Char → List Hunk → Prop
  | _, _, [] => True
  | drift, text, hunk :: rest =>
    FitsSigned (wrapSigned hunk.start2 + drift) ∧
      match locate text hunk.source (hunk.expected drift) with
      | some place =>
        FitsSigned (place - hunk.expected drift) ∧
          DriftFits (place - hunk.expected drift)
            (splice text place hunk.source.length hunk.target) rest
      | none =>
        FitsSigned hunk.growth ∧ FitsSigned (drift - hunk.growth) ∧
          DriftFits (drift - hunk.growth) text rest

instance decidableDriftFits : (drift : Int) → (text : List Char) → (hunks : List Hunk) →
    Decidable (DriftFits drift text hunks)
  | _, _, [] => .isTrue trivial
  | drift, text, hunk :: rest =>
    have := fun drift text => decidableDriftFits drift text rest
    match located : locate text hunk.source (hunk.expected drift) with
    | some place =>
      decidable_of_iff
        (FitsSigned (wrapSigned hunk.start2 + drift) ∧ FitsSigned (place - hunk.expected drift) ∧
          DriftFits (place - hunk.expected drift)
            (splice text place hunk.source.length hunk.target) rest)
        (by simp only [DriftFits, located])
    | none =>
      decidable_of_iff
        (FitsSigned (wrapSigned hunk.start2 + drift) ∧ FitsSigned hunk.growth ∧
          FitsSigned (drift - hunk.growth) ∧ DriftFits (drift - hunk.growth) text rest)
        (by simp only [DriftFits, located])

section
variable {drift : Int} {text : List Char} {hunk : Hunk}

theorem expectedPlace_eq (sum : FitsSigned (wrapSigned hunk.start2 + drift)) :
    expectedPlace hunk.start2 drift = hunk.expected drift := by
  unfold expectedPlace Hunk.expected
  rw [wrapSigned_of_fits sum.1 sum.2]

theorem wrapSigned_expected (sum : FitsSigned (wrapSigned hunk.start2 + drift)) :
    wrapSigned (hunk.expected drift : Int) = hunk.expected drift := by
  refine wrapSigned_place ?_
  have high := sum.2
  unfold Hunk.expected
  unfold maxSigned at high ⊢
  omega

/-- **A hunk that is found** goes there, and its drift is how far that is from the place
expected. -/
theorem applyHunksFrom_found {place : Nat} (sum : FitsSigned (wrapSigned hunk.start2 + drift))
    (shift : FitsSigned (place - hunk.expected drift))
    (located : locate text hunk.source (hunk.expected drift) = some place) (rest : List Hunk) :
    applyHunksFrom drift text (hunk :: rest) =
      Prod.map id (List.cons true) (applyHunksFrom (place - hunk.expected drift)
        (splice text place hunk.source.length hunk.target) rest) := by
  rw [applyHunksFrom]
  simp only [expectedPlace_eq sum, located, wrapSigned_expected sum,
    wrapSigned_of_fits shift.1 shift.2]
  rfl

/-- **A hunk that is lost** leaves the text alone and takes its growth from the drift. -/
theorem applyHunksFrom_lost (sum : FitsSigned (wrapSigned hunk.start2 + drift))
    (growth : FitsSigned hunk.growth) (shift : FitsSigned (drift - hunk.growth))
    (located : locate text hunk.source (hunk.expected drift) = none) (rest : List Hunk) :
    applyHunksFrom drift text (hunk :: rest) =
      Prod.map id (List.cons false) (applyHunksFrom (drift - hunk.growth) text rest) := by
  unfold Hunk.growth at growth shift ⊢
  rw [applyHunksFrom]
  simp only [expectedPlace_eq sum, located, wrapSigned_of_fits growth.1 growth.2,
    wrapSigned_of_fits shift.1 shift.2]
  rfl

end

theorem length_applyHunksFrom : ∀ (hunks : List Hunk) (drift : Int) (text : List Char),
    (applyHunksFrom drift text hunks).2.length = hunks.length
  | [], _, _ => rfl
  | hunk :: rest, drift, text => by
    rw [applyHunksFrom]
    simp only
    split <;> rw [List.length_cons, List.length_cons, length_applyHunksFrom rest]

/-- **What becomes of hunks after a drift**, in exact integers. -/
theorem applyHunksFrom_eq_iff : ∀ {hunks : List Hunk} {drift : Int} {text out : List Char}
    {applied : List Bool}, DriftFits drift text hunks →
      (applyHunksFrom drift text hunks = (out, applied) ↔
        Patches drift text hunks out applied)
  | [], drift, text, out, applied, _ => by
    constructor
    · intro h
      cases h
      exact .done drift text
    · intro h
      cases h
      rfl
  | hunk :: rest, drift, text, out, applied, fits => by
    unfold DriftFits at fits
    obtain ⟨sum, onward⟩ := fits
    cases located : locate text hunk.source (hunk.expected drift) with
    | some place =>
      simp only [located] at onward
      obtain ⟨shift, fits⟩ := onward
      rw [applyHunksFrom_found sum shift located]
      constructor
      · intro h
        cases h
        exact .found place (nearest_of_locate located) ((applyHunksFrom_eq_iff fits).mp rfl)
      · intro h
        cases h with
        | found other nearest others =>
          rw [nearest.unique (nearest_of_locate located)] at others
          rw [(applyHunksFrom_eq_iff fits).mpr others]
          rfl
        | lost _ nowhere _ => exact absurd (nearest_of_locate located).stands (nowhere place)
    | none =>
      simp only [located] at onward
      obtain ⟨growth, shift, fits⟩ := onward
      rw [applyHunksFrom_lost sum growth shift located]
      constructor
      · intro h
        cases h
        obtain ⟨nonempty, nowhere⟩ := locate_eq_none_iff.mp located
        exact .lost nonempty nowhere ((applyHunksFrom_eq_iff fits).mp rfl)
      · intro h
        cases h with
        | found place nearest _ =>
          exact absurd nearest.stands ((locate_eq_none_iff.mp located).2 place)
        | lost _ _ others =>
          rw [(applyHunksFrom_eq_iff fits).mpr others]
          rfl

/-- **Where hunks go**, given that the drift stays in the signed range: each to the occurrence of
its source nearest to the place where it is expected, cut to the end of the text, the first of those
equally near; a source without characters is at that very place.  A hunk is applied unless its
source has characters and stands nowhere, and then the text is left alone.  Each is answered for. -/
theorem applyHunks_nearest {hunks : List Hunk} {text : List Char}
    (fits : DriftFits 0 text hunks) :
    (applyHunks hunks text).2.length = hunks.length ∧
      ∀ out applied, applyHunks hunks text = (out, applied) ↔
        Patches 0 text hunks out applied :=
  ⟨length_applyHunksFrom hunks 0 text, fun _ _ => applyHunksFrom_eq_iff fits⟩

/-- A hunk whose source stands twice, equally far from the place expected; one whose source stands
nowhere; and one without source, expected behind the end. -/
def scatteredHunks : List Hunk :=
  [⟨[(.remove, ['a', 'b']), (.add, ['c'])], 2, 2, 2, 1⟩,
    ⟨[(.keep, ['z']), (.add, ['y'])], 1, 1, 1, 9⟩, ⟨[(.add, ['!'])], 40, 0, 40, 1⟩]

theorem applyHunks_nearest_scattered :
    DriftFits 0 "ab__ab".toList scatteredHunks ∧
      applyHunks scatteredHunks "ab__ab".toList = ("c__ab!".toList, [true, false, true]) ∧
      Patches 0 "ab__ab".toList scatteredHunks "c__ab!".toList [true, false, true] := by
  have fits : DriftFits 0 "ab__ab".toList scatteredHunks := by decide +kernel
  have applied : applyHunks scatteredHunks "ab__ab".toList =
      ("c__ab!".toList, [true, false, true]) := by decide +kernel
  exact ⟨fits, applied, ((applyHunks_nearest fits).2 _ _).mp applied⟩

end DocumentStore
