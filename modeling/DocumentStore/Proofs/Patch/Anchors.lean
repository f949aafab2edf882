import DocumentStore.Proofs.Binary64.Rounding
import DocumentStore.Proofs.Json.Numbers
import DocumentStore.Proofs.Patch.Insertion

/-!
# Items that equal a literal

The anchor of an insertion may be the first item that equals a literal.  Such an item is no
container, and it is looked for again by value before others are put in there.  Found is the first
item equal to it, which is the item itself unless a double stands between two integers: the item is
a double, the literal an integer that it equals, and before it stands another integer that it
equals as well.  The items then go to that integer, although the anchor reads the double.

Principal results: `exists_first` — the first of some items.  `placeOfSame_flat` — where an item
that is no container is found again.  `insert_at_equal` — where an insertion at an equal item puts
its items.  `insert_at_equal_levels` — items that go elsewhere.
-/

set_option autoImplicit false

namespace DocumentStore

variable {L : Type}

open PathExpr

/-! ## Values that are no containers -/

namespace Value

theorem equal_self_of_flat {value : Value L} (flat : value.isContainer = false) :
    value.equal value = true := by
  cases value with
  | null => exact DistinctKeys.null.equal_self
  | bool b => exact (DistinctKeys.bool b).equal_self
  | number n => exact n.equal_self
  | string s => exact (DistinctKeys.string s).equal_self
  | array _ _ => cases flat
  | object _ _ => cases flat

theorem flat_of_equal {value other : Value L} (flat : other.isContainer = false)
    (equal : value.equal other = true) : value.isContainer = false := by
  refine Bool.eq_false_iff.mpr (fun container => ?_)
  rw [equal_of_isContainer container flat] at equal
  cases equal

/-- Equality goes over from a value to the next, except by way of a double from an integer to
another integer. -/
theorem equal_trans_or {a b c : Value L} (flat : b.isContainer = false)
    (first : a.equal b = true) (second : b.equal c = true) :
    a.equal c = true ∨
      ∃ m x n, a = .number (.int m) ∧ b = .number (.float x) ∧ c = .number (.int n) := by
  cases b with
  | array _ _ => cases flat
  | object _ _ => cases flat
  | null =>
    cases a with
    | null => exact .inl second
    | _ => cases first
  | bool b =>
    cases a with
    | bool a =>
      have same : a = b := beq_iff_eq.mp first
      exact .inl (same ▸ second)
    | _ => cases first
  | string t =>
    cases a with
    | string s =>
      have same : s = t := beq_iff_eq.mp first
      exact .inl (same ▸ second)
    | _ => cases first
  | number y =>
    cases a with
    | number x =>
      cases c with
      | number z =>
        rcases Number.equal_trans_or first second with whole | ⟨m, x, n, rfl, rfl, rfl⟩
        · exact .inl whole
        · exact .inr ⟨m, x, n, rfl, rfl, rfl⟩
      | _ => cases second
    | _ => cases first

end Value

/-! ## The item found again -/

/-- **The first of some items**: one of them is the first, or another before it. -/
theorem exists_first {α : Type} {p : α → Bool} {item : α} {behind : List α} (h : p item = true) :
    ∀ before : List α, ∃ front chosen back, before ++ item :: behind = front ++ chosen :: back ∧
      (before ++ item :: behind).findIdx p = front.length ∧ (∀ other ∈ front, p other = false) ∧
      p chosen = true ∧ (front = before ∧ chosen = item ∧ back = behind ∨ chosen ∈ before)
  | [] => by
    refine ⟨[], item, behind, rfl, ?_, fun _ h => (List.not_mem_nil h).elim, h,
      .inl ⟨rfl, rfl, rfl⟩⟩
    rw [List.nil_append, List.findIdx_cons, h]
    rfl
  | first :: before => by
    cases hfirst : p first with
    | true =>
      refine ⟨[], first, before ++ item :: behind, rfl, ?_, fun _ h => (List.not_mem_nil h).elim,
        hfirst, .inr List.mem_cons_self⟩
      rw [List.cons_append, List.findIdx_cons, hfirst]
      rfl
    | false =>
      obtain ⟨front, chosen, back, hsplit, hfind, hfront, hchosen, hwhich⟩ :=
        exists_first h before
      refine ⟨first :: front, chosen, back, ?_, ?_, ?_, hchosen, ?_⟩
      · rw [List.cons_append, hsplit, List.cons_append]
      · rw [List.cons_append, List.findIdx_cons, hfirst, hfind]
        rfl
      · exact List.forall_mem_cons.mpr ⟨hfirst, hfront⟩
      · rcases hwhich with ⟨rfl, rfl, rfl⟩ | hmem
        · exact .inl ⟨rfl, rfl, rfl⟩
        · exact .inr (List.mem_cons_of_mem first hmem)

/-- **An item that is no container is found again** at the first item equal to it. -/
theorem placeOfSame_flat {item : Value L} (flat : item.isContainer = false)
    (before behind : List (Value L)) :
    ∃ front chosen back, before ++ item :: behind = front ++ chosen :: back ∧
      Leaf.placeOfSame (before ++ item :: behind) before.length = front.length ∧
      (∀ other ∈ front, other.equal item = false) ∧ chosen.equal item = true ∧
      (front = before ∧ chosen = item ∧ back = behind ∨ chosen ∈ before) := by
  have search : Leaf.placeOfSame (before ++ item :: behind) before.length =
      (before ++ item :: behind).findIdx (fun other => other.equal item) := by
    unfold Leaf.placeOfSame
    rw [getElem?_split]
    cases item with
    | array _ _ => cases flat
    | object _ _ => cases flat
    | _ => rfl
  rw [search]
  exact @exists_first _ (fun other => other.equal item) item behind
    (Value.equal_self_of_flat flat) before

/-! ## Literals -/

theorem IsLiteral.exists_constant {literal : PathExpr} (h : IsLiteral literal) :
    ∃ constant : Value L, literal.constant? = some constant ∧ constant.isContainer = false := by
  cases h with
  | string text => exact ⟨.string text, rfl, rfl⟩
  | boolean b => exact ⟨.bool b, rfl, rfl⟩
  | number x =>
    refine ⟨numberValue x, rfl, ?_⟩
    unfold numberValue
    split <;> rfl

theorem sides_current {literal : PathExpr} {constant : Value L}
    (h : literal.constant? = some constant) (item : Value L) :
    sides .alias (some literal) item = .ok (item.equal constant) := by
  unfold sides readRight
  rw [read_constant h]
  unfold PathExpr.read
  rfl

/-! ## The array -/

/-- **Where an insertion at an equal item puts its items**, given that its anchor ends in a
constraint that compares the items of an array with a literal, and that the anchor reads one of
them.  The items go to the first item that equals the one read.  This is the very item read, unless
that is a double, the literal an integer, and before the double stands another integer that it
equals as well. -/
theorem insert_at_equal {fresh label : L} {insertion : Insertion L} {steps : List PathExpr}
    {literal : PathExpr} {root item : Value L} {before behind : List (Value L)}
    (hpath : ofText insertion.anchor =
      .ok (.path (steps ++ [equality .alias (some literal)])))
    (way : readSegments steps root = .ok (some (.array label (before ++ item :: behind))))
    (leads : Leads (equality .alias (some literal)) (.item label before behind) item) :
    ∃ front chosen back, before ++ item :: behind = front ++ chosen :: back ∧
      Rearranges fresh insertion steps root label (before ++ item :: behind)
        (insertion.position.placed insertion.items front chosen back) ∧
      (∀ other ∈ front, other.equal item = false) ∧ chosen.equal item = true ∧
      (front = before ∧ chosen = item ∧ back = behind ∨
        chosen ∈ before ∧ ∃ m x n, chosen = .number (.int m) ∧ item = .number (.float x) ∧
          literal.constant? = some (.number (.int n) : Value L) ∧ m ≠ n) := by
  have test : IsTest .alias (some literal) :=
    isTest_of_ofText hpath (List.mem_append_right _ List.mem_cons_self)
  obtain ⟨constant, hconstant, flatConstant⟩ :
      ∃ constant : Value L, literal.constant? = some constant ∧ constant.isContainer = false := by
    cases test with
    | current isLiteral => exact isLiteral.exists_constant
  cases leads with
  | constraint selected =>
    obtain ⟨-, before', child, behind', hitems, hlength, hbefore, hchild⟩ :=
      select_eq_some_iff.mp selected
    obtain ⟨rfl, hrest⟩ := List.append_inj hitems hlength
    cases hrest
    simp only [sides_current hconstant, Except.ok.injEq] at hbefore hchild
    have flat : item.isContainer = false := Value.flat_of_equal flatConstant hchild
    obtain ⟨front, chosen, back, hsplit, hplace, hfront, hchosen, hwhich⟩ :=
      placeOfSame_flat flat before behind
    have hleaf : Leaf.insert fresh insertion (equality .alias (some literal))
        (.array label (before ++ item :: behind)) = .ok (.changed (.array fresh
          (insertion.position.placed insertion.items front chosen back))) := by
      rw [insert_at_selected selected, hplace, hsplit, insertAt_eq_placed]
    refine ⟨front, chosen, back, hsplit, rearranges_of_leaf hpath way hleaf, hfront, hchosen, ?_⟩
    rcases hwhich with itself | hmem
    · exact .inl itself
    · -- The constraint has passed over the item chosen, so that does not equal the literal.
      have unequal : chosen.equal constant = false := hbefore chosen hmem
      rcases Value.equal_trans_or flat hchosen hchild with equal | ⟨m, x, n, rfl, rfl, rfl⟩
      · exact absurd (unequal.symm.trans equal) Bool.false_ne_true
      · refine .inr ⟨hmem, m, x, n, rfl, rfl, hconstant, ?_⟩
        rintro rfl
        exact absurd (unequal.symm.trans (Value.equal_self_of_flat rfl)) Bool.false_ne_true

/-- The integer behind the greatest that doubles tell from the next. -/
def oddLevel : Number := .int ⟨9007199254740993, by decide⟩

/-- The double before it. -/
def roundedLevel : Number :=
  .float ⟨false, 9007199254740992 * unitsPerOne, representable_whole (by decide)⟩

/-- An integer, and the double that it is rounded to. -/
def levelRoot : Value Nat :=
  .object 0 [("levels", .array 1 [.number oddLevel, .number roundedLevel])]

theorem ofText_level {path : String} {n : Numeral} (h : (tokensOf path.toList).toOption =
    some [.identifier "levels", .bracket .opening, .alias .atSign, .comparator .eq, .number n,
      .bracket .closing]) :
    ofText path = .ok (.path ([.attribute "levels"] ++
      [equality .alias (some (.number n.toBinary64))])) := by
  have constraint : WritesConstraint [.alias .atSign, .comparator .eq, .number n]
      (.constraint (.compare .eq) .alias (some (.number n.toBinary64))) :=
    .compare .eq (.current .atSign) (.number n)
  have path : WritesPath .needed
      [.identifier "levels", .bracket .opening, .alias .atSign, .comparator .eq, .number n,
        .bracket .closing]
      ([.attribute "levels"] ++ [equality .alias (some (.number n.toBinary64))]) :=
    .name (.identifier "levels") (.union (.terms (.constraint constraint) .done) .done)
  exact ofText_of_writes h path

/-- The numeral that writes the double, which is read as an integer. -/
def levelNumeral : Numeral := ⟨false, "9007199254740992".toList, []⟩

/-- The level that equals the numeral. -/
def levelStep : PathExpr := equality .alias (some (.number levelNumeral.toBinary64))

/-- Something new behind the level that equals the numeral. -/
def levelInsertion : Insertion Nat :=
  ⟨.after, "levels[@==9007199254740992]", [.string "new"]⟩

theorem ofText_levelInsertion :
    ofText levelInsertion.anchor = .ok (.path ([.attribute "levels"] ++ [levelStep])) :=
  ofText_level (by decide +kernel)

theorem select_level :
    select (.compare .eq) .alias (some (.number levelNumeral.toBinary64))
      [(.number oddLevel : Value Nat), .number roundedLevel] = .ok (some 1) :=
  eq_ok_of_toOption (by decide +kernel)

theorem insert_at_equal_levels :
    let items : List (Value Nat) := [.number oddLevel, .number roundedLevel]
    ofText levelInsertion.anchor = .ok (.path ([.attribute "levels"] ++ [levelStep])) ∧
      readSegments [.attribute "levels"] levelRoot = .ok (some (.array 1 items)) ∧
      Leads levelStep (.item 1 [.number oddLevel] []) (.number roundedLevel : Value Nat) ∧
      ∃ front chosen back, items = front ++ chosen :: back ∧
        Rearranges 9 levelInsertion [.attribute "levels"] levelRoot 1 items
          (Position.after.placed [.string "new"] front chosen back) ∧
        chosen.equal (.number roundedLevel) = true := by
  intro items
  have way : readSegments [.attribute "levels"] levelRoot = .ok (some (.array 1 items)) := rfl
  have leads : Leads levelStep (.item 1 [.number oddLevel] []) (.number roundedLevel : Value Nat) :=
    .constraint select_level
  obtain ⟨front, chosen, back, hsplit, rearranges, -, hchosen, -⟩ :=
    @insert_at_equal _ 9 _ _ _ _ _ _ _ _ ofText_levelInsertion way leads
  exact ⟨ofText_levelInsertion, way, leads, front, chosen, back, hsplit, rearranges, hchosen⟩

/-- The anchor reads the double, the second level, and yet what goes behind it is put between the
two. -/
theorem insert_beside_levels :
    ofText levelInsertion.anchor = .ok (.path ([.attribute "levels"] ++ [levelStep])) ∧
      Leads levelStep (.item 1 [.number oddLevel] []) (.number roundedLevel : Value Nat) ∧
      Rearranges 9 levelInsertion [.attribute "levels"] levelRoot 1
        [.number oddLevel, .number roundedLevel]
        [.number oddLevel, .string "new", .number roundedLevel] := by
  have way : readSegments [.attribute "levels"] levelRoot =
      .ok (some (.array 1 [.number oddLevel, .number roundedLevel])) := rfl
  have place : Leaf.placeOfSame [(.number oddLevel : Value Nat), .number roundedLevel] 1 = 0 := by
    decide +kernel
  have hleaf : Leaf.insert 9 levelInsertion levelStep
      (.array 1 [.number oddLevel, .number roundedLevel]) =
        .ok (.changed (.array 9 [.number oddLevel, .string "new", .number roundedLevel])) := by
    unfold levelStep
    rw [insert_at_selected select_level, place]
    rfl
  exact ⟨ofText_levelInsertion, .constraint select_level,
    rearranges_of_leaf ofText_levelInsertion way hleaf⟩

end DocumentStore
