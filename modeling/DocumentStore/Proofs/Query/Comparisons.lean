import DocumentStore.Proofs.Json.Numbers
import DocumentStore.Query.Filter

/-!
# Comparisons in filters

A comparison holds only between values of one kind.  Truth values and texts have an order, numbers
have that of their places among the doubles, and containers are equal or nothing.  So comparisons
keep the laws of an order: what is less is less from the other side too, and less than what the
other is less than.  Equality in a filter is equality by value, but for two integers that differ and
are rounded to one double: neither is less, and so the filter takes them for equal.

* `Less` — the order of two values.
* `Integer.RoundedAlike` — two integers that differ, and whose nearest doubles are equal.
* `Compares` — whether a filter that compares two values holds.
* `Compared` — what a comparison of two values comes to.

Principal results: `compareValues_eq_lt_iff`, `compareValues_eq_gt_iff`, `compareValues_eq_eq_iff` —
what the outcome of a comparison says.  `trichotomy_numbers` — two numbers have an order.
`compares_integers` — that of integers is their own, as far as doubles tell them apart.
`comparisons_ordered` — the laws of comparisons.
-/

set_option autoImplicit false

namespace DocumentStore

/-- The order of two values of one kind. -/
inductive Less : Json → Json → Prop
  | bool : Less (.bool false) (.bool true)
  | number {m n : Number} (places : m.units < n.units) : Less (.number m) (.number n)
  | string {s t : String} (order : s < t) : Less (.string s) (.string t)

/-- Two integers that differ, and whose nearest doubles are equal. -/
structure Integer.RoundedAlike (m n : Integer) : Prop where
  differ : m.value ≠ n.value
  alike : (Binary64.ofInt m.value).equal (.ofInt n.value) = true

/-- Two values that are such integers. -/
inductive Json.RoundedAlike : Json → Json → Prop
  | integers {m n : Integer} (alike : m.RoundedAlike n) :
    RoundedAlike (.number (.int m)) (.number (.int n))

/-- Whether a filter that compares two operands holds, given their values. -/
def Compares (comparator : Comparator) (a b : Json) : Prop :=
  comparator.accepts (compareValues a b) = true

theorem Less.trans {a b c : Json} (first : Less a b) (second : Less b c) : Less a c := by
  cases first with
  | bool => cases second
  | number places =>
    cases second with
    | number places' => exact .number (Int.lt_trans places places')
  | string order =>
    cases second with
    | string order' => exact .string (String.lt_trans order order')

/-! ## Numbers -/

namespace Integer

variable {m n : Integer}

theorem roundedAlike_iff :
    m.RoundedAlike n ↔ m.value ≠ n.value ∧ roundedUnits m.value = roundedUnits n.value := by
  have places : (Binary64.ofInt m.value).equal (.ofInt n.value) = true ↔
      roundedUnits m.value = roundedUnits n.value :=
    @Number.toBinary64_equal_iff (.int m) (.int n)
  rw [← places]
  exact ⟨fun h => ⟨h.differ, h.alike⟩, fun h => ⟨h.1, h.2⟩⟩

theorem roundedAlike_comm : m.RoundedAlike n ↔ n.RoundedAlike m := by
  rw [roundedAlike_iff, roundedAlike_iff, ne_comm, eq_comm (a := roundedUnits m.value)]

/-- **Integers up to `2 ^ 53` are told apart** by their doubles. -/
theorem not_roundedAlike (hm : m.value.natAbs ≤ 2 ^ 53) (hn : n.value.natAbs ≤ 2 ^ 53) :
    ¬ m.RoundedAlike n := by
  rw [roundedAlike_iff, roundedUnits_exact hm, roundedUnits_exact hn]
  rintro ⟨differ, same⟩
  have unit : (unitsPerOne : Int) ≠ 0 := Int.natCast_ne_zero.mpr unitsPerOne_pos.ne'
  exact differ (Int.eq_of_mul_eq_mul_right unit same)

/-- An integer has a place before another when it is less and is told apart. -/
theorem roundedUnits_lt_iff :
    roundedUnits m.value < roundedUnits n.value ↔ m.value < n.value ∧ ¬ m.RoundedAlike n := by
  rw [roundedAlike_iff]
  constructor
  · intro places
    refine ⟨?_, fun alike => Int.ne_of_lt places alike.2⟩
    by_contra greater
    exact Int.not_lt.mpr (roundedUnits_mono (Int.not_lt.mp greater)) places
  · rintro ⟨less, apart⟩
    have inOrder : roundedUnits m.value ≤ roundedUnits n.value :=
      roundedUnits_mono (Int.le_of_lt less)
    exact Int.lt_iff_le_and_ne.mpr ⟨inOrder, fun same => apart ⟨Int.ne_of_lt less, same⟩⟩

end Integer

theorem units_eq_iff {a b : Number} :
    a.units = b.units ↔ a.equal b = true ∨ Json.RoundedAlike (.number a) (.number b) := by
  constructor
  · intro same
    have doubles : a.toBinary64.equal b.toBinary64 = true := Number.toBinary64_equal_iff.mpr same
    cases a with
    | float x => exact .inl doubles
    | int m =>
      cases b with
      | float y => exact .inl doubles
      | int n =>
        by_cases value : m.value = n.value
        · exact .inl (beq_iff_eq.mpr value)
        · exact .inr (.integers ⟨value, doubles⟩)
  · rintro (equal | ⟨⟨-, alike⟩⟩)
    · exact Number.toBinary64_equal_iff.mp (Number.toBinary64_equal equal)
    · exact Number.toBinary64_equal_iff.mp alike

/-! ## Outcomes -/

/-- What a comparison of two values comes to: null and equal containers are equal, and other values
of one kind have their order. -/
inductive Compared : Json → Json → Ordering → Prop
  | null : Compared .null .null .eq
  | bool {x y : Bool} {order : Ordering} (h : compareOfLessAndEq x y = order) :
    Compared (.bool x) (.bool y) order
  | number {m n : Number} {order : Ordering} (h : compareOfLessAndEq m.units n.units = order) :
    Compared (.number m) (.number n) order
  | string {s t : String} {order : Ordering} (h : compareOfLessAndEq s t = order) :
    Compared (.string s) (.string t) order
  | container {a b : Json} (equal : a.equal b = true) : Compared a b .eq

section
variable {a b : Json} {order : Ordering}

theorem compared_of_compareValues (h : compareValues a b = some order) : Compared a b order := by
  unfold compareValues at h
  split at h
  · cases h
    exact .null
  · exact .bool (Option.some.inj h)
  · exact .number (Option.some.inj ((Number.compare?_eq _ _).symm.trans h))
  · exact .string (Option.some.inj h)
  · split at h
    · next equal =>
      cases h
      exact .container equal
    · cases h
  · split at h
    · next equal =>
      cases h
      exact .container equal
    · cases h
  · cases h

/-- **Less** is the outcome for values in order. -/
theorem compareValues_eq_lt_iff : compareValues a b = some .lt ↔ Less a b := by
  have truths : ∀ {x y : Bool}, compareOfLessAndEq x y = .lt ↔ x = false ∧ y = true := by decide
  constructor
  · intro h
    cases compared_of_compareValues h with
    | bool h =>
      obtain ⟨rfl, rfl⟩ := truths.mp h
      exact .bool
    | number h => exact .number (compareOfLessAndEq_eq_lt.mp h)
    | string h => exact .string (compareOfLessAndEq_eq_lt.mp h)
  · rintro (_ | places | order)
    · rfl
    · exact (Number.compare?_eq _ _).trans (congrArg some (compareOfLessAndEq_eq_lt.mpr places))
    · exact congrArg some (compareOfLessAndEq_eq_lt.mpr order)

/-- **Greater** is the outcome for values in the opposite order. -/
theorem compareValues_eq_gt_iff : compareValues a b = some .gt ↔ Less b a := by
  have truths : ∀ {x y : Bool}, compareOfLessAndEq x y = .gt ↔ y = false ∧ x = true := by decide
  have places {i j : Int} : compareOfLessAndEq i j = .gt ↔ j < i :=
    compareOfLessAndEq_eq_gt Int.le_antisymm Int.le_total Int.not_le i j
  have texts {s t : String} : compareOfLessAndEq s t = .gt ↔ t < s :=
    compareOfLessAndEq_eq_gt String.le_antisymm String.le_total String.not_le s t
  constructor
  · intro h
    cases compared_of_compareValues h with
    | bool h =>
      obtain ⟨rfl, rfl⟩ := truths.mp h
      exact .bool
    | number h => exact .number (places.mp h)
    | string h => exact .string (texts.mp h)
  · rintro (_ | order | order)
    · rfl
    · exact (Number.compare?_eq _ _).trans (congrArg some (places.mpr order))
    · exact congrArg some (texts.mpr order)

/-- **Equal** is the outcome for equal values, and for integers that are rounded alike. -/
theorem compareValues_eq_eq_iff :
    compareValues a b = some .eq ↔ a.equal b = true ∨ Json.RoundedAlike a b := by
  have truths : ∀ {x y : Bool}, compareOfLessAndEq x y = .eq ↔ (x == y) = true := by decide
  have places {m n : Number} : compareOfLessAndEq m.units n.units = .eq ↔
      m.equal n = true ∨ Json.RoundedAlike (.number m) (.number n) :=
    (compareOfLessAndEq_eq_eq Int.le_refl Int.not_le).trans units_eq_iff
  have texts {s t : String} : compareOfLessAndEq s t = .eq ↔ (s == t) = true :=
    (compareOfLessAndEq_eq_eq String.le_refl String.not_le).trans beq_iff_eq.symm
  have numbers {m n : Number} (same : m.equal n = true ∨
      Json.RoundedAlike (.number m) (.number n)) : m.compare? n = some .eq :=
    (Number.compare?_eq m n).trans (congrArg some (places.mpr same))
  constructor
  · intro h
    cases compared_of_compareValues h with
    | null => exact .inl rfl
    | bool h => exact .inl (truths.mp h)
    | number h => exact places.mp h
    | string h => exact .inl (texts.mp h)
    | container equal => exact .inl equal
  · rintro (equal | alike)
    · have same := equal
      unfold Value.equal at same
      split at same
      · rfl
      · exact congrArg some (truths.mpr same)
      · exact numbers (.inl same)
      · exact congrArg some (texts.mpr same)
      · exact if_pos equal
      · exact if_pos equal
      · cases same
    · cases alike with
      | integers alike => exact numbers (.inr (.integers alike))

end

/-! ## Comparisons -/

section
variable {a b c : Json}

theorem compares_eq_iff : Compares .eq a b ↔ a.equal b = true ∨ Json.RoundedAlike a b := by
  rw [← compareValues_eq_eq_iff]
  exact beq_iff_eq

theorem compares_lt_iff : Compares .lt a b ↔ Less a b := by
  rw [← compareValues_eq_lt_iff]
  exact beq_iff_eq

theorem compares_gt_iff : Compares .gt a b ↔ Less b a := by
  rw [← compareValues_eq_gt_iff]
  exact beq_iff_eq

theorem compares_ne_iff : Compares .ne a b ↔ ¬ Compares .eq a b := by
  unfold Compares Comparator.accepts
  rw [bne_iff_ne, beq_iff_eq]

theorem compares_le_iff : Compares .le a b ↔ Compares .lt a b ∨ Compares .eq a b :=
  Iff.of_eq (Bool.or_eq_true _ _)

theorem compares_ge_iff : Compares .ge a b ↔ Compares .gt a b ∨ Compares .eq a b :=
  Iff.of_eq (Bool.or_eq_true _ _)

theorem compares_lt_iff_gt : Compares .lt a b ↔ Compares .gt b a :=
  compares_lt_iff.trans compares_gt_iff.symm

theorem compares_lt_trans (first : Compares .lt a b) (second : Compares .lt b c) :
    Compares .lt a c :=
  compares_lt_iff.mpr ((compares_lt_iff.mp first).trans (compares_lt_iff.mp second))

end

/-- Exactly one of the three comparisons holds. -/
inductive Trichotomy (a b : Json) : Prop
  | less (is : Compares .lt a b) (not : ¬ Compares .eq a b) (not' : ¬ Compares .gt a b)
  | equal (is : Compares .eq a b) (not : ¬ Compares .lt a b) (not' : ¬ Compares .gt a b)
  | greater (is : Compares .gt a b) (not : ¬ Compares .lt a b) (not' : ¬ Compares .eq a b)

/-- **Two numbers have an order.** -/
theorem trichotomy_numbers (m n : Number) : Trichotomy (.number m) (.number n) := by
  have outcome : compareValues (.number m) (.number n) =
      some (compareOfLessAndEq m.units n.units) := Number.compare?_eq m n
  generalize compareOfLessAndEq m.units n.units = order at outcome
  have holds (comparator : Comparator) : Compares comparator (.number m) (.number n) ↔
      comparator.accepts (some order) = true := by
    unfold Compares
    rw [outcome]
  cases order with
  | lt =>
    refine .less ((holds .lt).mpr rfl) ?_ ?_
    · exact (holds .eq).not.mpr Bool.false_ne_true
    · exact (holds .gt).not.mpr Bool.false_ne_true
  | eq =>
    refine .equal ((holds .eq).mpr rfl) ?_ ?_
    · exact (holds .lt).not.mpr Bool.false_ne_true
    · exact (holds .gt).not.mpr Bool.false_ne_true
  | gt =>
    refine .greater ((holds .gt).mpr rfl) ?_ ?_
    · exact (holds .lt).not.mpr Bool.false_ne_true
    · exact (holds .eq).not.mpr Bool.false_ne_true

/-- **Comparisons of integers** are those of the exact integers, as far as doubles tell the two
apart. -/
theorem compares_integers (m n : Integer) :
    (Compares .lt (.number (.int m)) (.number (.int n)) ↔
      m.value < n.value ∧ ¬ m.RoundedAlike n) ∧
    (Compares .gt (.number (.int m)) (.number (.int n)) ↔
      n.value < m.value ∧ ¬ m.RoundedAlike n) ∧
    (Compares .eq (.number (.int m)) (.number (.int n)) ↔
      m.value = n.value ∨ m.RoundedAlike n) := by
  have less {i j : Integer} : Less (.number (.int i)) (.number (.int j)) ↔
      i.value < j.value ∧ ¬ i.RoundedAlike j := by
    rw [← Integer.roundedUnits_lt_iff]
    exact ⟨fun | .number places => places, fun places => @Less.number (.int i) (.int j) places⟩
  have alike : Json.RoundedAlike (.number (.int m)) (.number (.int n)) ↔ m.RoundedAlike n :=
    ⟨fun | .integers alike => alike, .integers⟩
  refine ⟨compares_lt_iff.trans less, ?_, ?_⟩
  · rw [compares_gt_iff, less, Integer.roundedAlike_comm]
  · rw [compares_eq_iff, alike]
    exact or_congr_left beq_iff_eq

/-- **The laws of comparisons in filters.**  A filter compares the values of its operands.  It takes
values for equal that are equal, and besides two integers that differ but are rounded to one double;
otherwise they are not equal.  What is less is less from the other side, too, and less than anything
that the other is less than.  Exactly one of less, equal and greater holds of two numbers; for
integers it is what the exact integers are, unless they are rounded alike, as none up to `2 ^ 53`
are. -/
theorem comparisons_ordered (a b c : Json) :
    (∀ comparator left right current,
      (Filter.compare comparator left right).holds current = true ↔
        Compares comparator (left.eval current) (right.eval current)) ∧
    (Compares .eq a b ↔ a.equal b = true ∨ Json.RoundedAlike a b) ∧
    (Compares .ne a b ↔ ¬ (a.equal b = true ∨ Json.RoundedAlike a b)) ∧
    (Compares .lt a b ↔ Compares .gt b a) ∧
    (Compares .le a b ↔ Compares .lt a b ∨ Compares .eq a b) ∧
    (Compares .ge a b ↔ Compares .gt a b ∨ Compares .eq a b) ∧
    (Compares .lt a b → Compares .lt b c → Compares .lt a c) ∧
    (∀ m n : Number, Trichotomy (.number m) (.number n)) ∧
    ∀ m n : Integer,
      (Compares .lt (.number (.int m)) (.number (.int n)) ↔
        m.value < n.value ∧ ¬ m.RoundedAlike n) ∧
      (Compares .gt (.number (.int m)) (.number (.int n)) ↔
        n.value < m.value ∧ ¬ m.RoundedAlike n) ∧
      (Compares .eq (.number (.int m)) (.number (.int n)) ↔
        m.value = n.value ∨ m.RoundedAlike n) ∧
      (m.value.natAbs ≤ 2 ^ 53 → n.value.natAbs ≤ 2 ^ 53 → ¬ m.RoundedAlike n) := by
  refine ⟨fun _ _ _ _ => Iff.rfl, compares_eq_iff, ?_, compares_lt_iff_gt, compares_le_iff,
    compares_ge_iff, compares_lt_trans, trichotomy_numbers, ?_⟩
  · rw [compares_ne_iff, compares_eq_iff]
  · intro m n
    obtain ⟨less, greater, equal⟩ := compares_integers m n
    exact ⟨less, greater, equal, Integer.not_roundedAlike⟩

/-- Between one and two. -/
def oneAndAHalf : Finite := ⟨false, 3 * Nat.pow 2 1073, by decide +kernel⟩

theorem comparisons_ordered_levels :
    let one : Integer := ⟨1, by decide⟩
    let two : Integer := ⟨2, by decide⟩
    let between : Json := .number (.float oneAndAHalf)
    Compares .lt (.number (.int one)) between ∧ Compares .lt between (.number (.int two)) ∧
      Compares .lt (.number (.int one)) (.number (.int two)) ∧ ¬ one.RoundedAlike two := by
  intro one two between
  have below : Compares .lt (.number (.int one)) between := by
    unfold Compares
    decide +kernel
  have above : Compares .lt between (.number (.int two)) := by
    unfold Compares
    decide +kernel
  obtain ⟨-, -, -, -, -, -, trans, -, integers⟩ :=
    comparisons_ordered (.number (.int one)) between (.number (.int two))
  exact ⟨below, above, trans below above, (integers one two).2.2.2 (by decide) (by decide)⟩

/-- The first integer that is no double is taken for the one before it. -/
theorem comparison_rounds_integers :
    let stored : Integer := ⟨9007199254740992, by decide⟩
    let asked : Integer := ⟨9007199254740993, by decide⟩
    let document : Json := .object () [("n", .number (.int stored))]
    let filter (comparator : Comparator) : Filter :=
      .compare comparator (.path [.key "n"]) (.literal (.number (.int asked)))
    stored.value < asked.value ∧
      (Value.number (.int stored) : Json).equal (.number (.int asked)) = false ∧
      (filter .eq).holds document = true ∧ (filter .ne).holds document = false ∧
      (filter .lt).holds document = false := by
  decide +kernel

end DocumentStore
