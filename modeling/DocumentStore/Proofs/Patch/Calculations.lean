import DocumentStore.Proofs.Binary64.Sums
import DocumentStore.Proofs.Json.Numbers
import DocumentStore.Proofs.Patch.ReadBack

/-!
# Numbers raised and lowered

An integer that is raised or lowered by an integer is replaced by the exact result, as an integer,
while both have the signed form and the result fits it too.  Otherwise, and so already when one of
them is beyond the greatest signed integer, the two are rounded to doubles and the result is one:
it is finite, and it never has the form of an integer.

* `Number.Calculated` — what two integers come to.

Principal results: `exists_add?`, `exists_sub?` — a sum and a difference of integers.
`Focus.replaces` — what an operation puts in the place of a value is read there.
`calculate_integers` — an integer raised and lowered.
-/

set_option autoImplicit false

namespace DocumentStore

/-! ## Results -/

namespace Number

/-- What two integers come to, given their exact result and that of the doubles next to them. -/
inductive Calculated (m n : Integer) (exact : Int) (rounded : Binary64) : Number → Prop
  /-- The exact result, as an integer. -/
  | integer (result : Integer) (signed : m.isSigned = true ∧ n.isSigned = true)
    (fits : FitsSigned exact) (value : result.value = exact) :
    Calculated m n exact rounded (.int result)
  /-- The result of the doubles. -/
  | double (x : Finite)
    (beyond : ¬(m.isSigned = true ∧ n.isSigned = true ∧ FitsSigned exact))
    (nearest : rounded = .finite x) : Calculated m n exact rounded (.float x)

variable {m n : Integer}

theorem integral?_signed {op : Int → Int → Int} (signed : m.isSigned = true ∧ n.isSigned = true)
    (fits : FitsSigned (op m.value n.value)) :
    ∃ result : Integer, integral? op (.int m) (.int n) = some (.int result) ∧
      result.value = op m.value n.value := by
  have inRange : minSigned ≤ op m.value n.value ∧ op m.value n.value ≤ maxUnsigned :=
    ⟨fits.1, Int.le_trans fits.2 (by decide)⟩
  refine ⟨⟨op m.value n.value, inRange⟩, ?_, rfl⟩
  unfold integral? ofInt?
  simp only [signed.1, signed.2, fits.1, fits.2, inRange, decide_true, Bool.and_self, if_true,
    and_self, dif_pos]

theorem integral?_beyond {op : Int → Int → Int}
    (beyond : ¬(m.isSigned = true ∧ n.isSigned = true ∧ FitsSigned (op m.value n.value))) :
    integral? op (.int m) (.int n) = none := by
  unfold integral?
  refine if_neg (fun all => beyond ?_)
  simp only [Bool.and_eq_true, decide_eq_true_eq] at all
  exact ⟨all.1.1.1, all.1.1.2, all.1.2, all.2⟩

theorem exists_calculated (op : Int → Int → Int) (m n : Integer) {rounded : Binary64}
    (finite : ∃ x : Finite, rounded = .finite x) :
    ∃ result, (integral? op (.int m) (.int n) <|> ofFinite? rounded) = some result ∧
      Calculated m n (op m.value n.value) rounded result := by
  by_cases all : m.isSigned = true ∧ n.isSigned = true ∧ FitsSigned (op m.value n.value)
  · obtain ⟨result, hresult, value⟩ := integral?_signed ⟨all.1, all.2.1⟩ all.2.2
    rw [hresult]
    exact ⟨.int result, rfl, .integer result ⟨all.1, all.2.1⟩ all.2.2 value⟩
  · obtain ⟨x, rfl⟩ := finite
    rw [integral?_beyond all]
    exact ⟨.float x, rfl, .double x all rfl⟩

/-- **The sum of two integers.** -/
theorem exists_add? (m n : Integer) : ∃ result, add? (.int m) (.int n) = some result ∧
    Calculated m n (m.value + n.value) ((Binary64.ofInt m.value).add (.ofInt n.value)) result :=
  exists_calculated (· + ·) m n
    (Binary64.exists_finite_integers (natAbs_value_le m) (natAbs_value_le n)).1

/-- **The difference of two integers.** -/
theorem exists_sub? (m n : Integer) : ∃ result, sub? (.int m) (.int n) = some result ∧
    Calculated m n (m.value - n.value) ((Binary64.ofInt m.value).sub (.ofInt n.value)) result :=
  exists_calculated (· - ·) m n
    (Binary64.exists_finite_integers (natAbs_value_le m) (natAbs_value_le n)).2

end Number

/-! ## The place of a value -/

variable {L : Type}

open PathExpr

theorem Leads.calculate {fresh : L} {result? : Number → Option Number} {current result : Number}
    {last : PathExpr} {frame : Frame L} (leads : Leads last frame (.number current))
    (hresult : result? current = some result) :
    Leaf.calculate fresh result? last (frame.fill (.number current)) =
      .ok (.changed ((frame.renew fresh).fill (.number result))) := by
  unfold Leaf.calculate
  simp only [leads.read, hresult, leads.rebuild, bind, Except.bind]

section
variable {path : String} {steps : List PathExpr} {last : PathExpr} {root : Value L}

/-- A path of attributes and indices leads to one place. -/
theorem Focus.of_addresses (hpath : ofText path = .ok (.path (steps ++ [last])))
    (addresses : ∀ step ∈ steps ++ [last], (∃ key, step = .attribute key) ∨ ∃ i, step = atIndex i) :
    Focus path steps last := by
  rw [List.forall_mem_append, List.forall_mem_singleton] at addresses
  refine ⟨hpath, fun step hstep => ?_, addresses.2, fun key right _ hlast => ?_⟩
  · rcases addresses.1 step hstep with ⟨key, rfl⟩ | ⟨i, rfl⟩
    · exact .name key
    · exact .index i
  · rcases addresses.1 _ (List.mem_of_getLast? hlast) with ⟨_, h⟩ | ⟨_, h⟩ <;> cases h

/-- **What an operation puts in the place of a value is read there**, the path being one of a single
place. -/
theorem Focus.replaces (operation : Operation L) (fresh : L) {old new : Value L}
    (focus : Focus operation.path steps last)
    (found : valueAt operation.path root = .ok (some old))
    (leaf : ∀ frame, Leads last frame old → operation.leaf fresh last (frame.fill old) =
      .ok (.changed ((frame.renew fresh).fill new))) :
    ∃ out, operation.apply fresh root = .ok (.changed out) ∧
      valueAt operation.path out = .ok (some new) := by
  rw [focus.valueAt_eq, readSegments_eq_some_iff focus.isStep] at found
  obtain ⟨_, route, rfl⟩ := found
  obtain ⟨frames, frame, rfl, way, leads⟩ := route.exists_snoc
  have written : Written fresh new last (frame.fill old) ((frame.renew fresh).fill new) :=
    .child leads
  refine ⟨plug (frames.map (Frame.renew fresh)) ((frame.renew fresh).fill new), ?_, ?_⟩
  · rw [plug_append, Operation.apply_of_path focus.ofText_eq]
    refine (way.editParent_eq (fun _ => frame.fill_isTruthy old)).trans ?_
    rw [leaf frame leads]
    rfl
  · have renewed : Route steps (frames.map (Frame.renew fresh)) ((frame.renew fresh).fill new) :=
      way.renewed written (fun _ _ => focus.isTest) focus.ne_last
    obtain ⟨frame', bottom, leads', -⟩ := focus.written written
    rw [bottom] at renewed ⊢
    rw [focus.valueAt_eq, readSegments_eq_some_iff focus.isStep]
    refine ⟨_, renewed.snoc leads', ?_⟩
    rw [plug_append]
    rfl

/-- **An integer raised and lowered** by an integer, at a path to one place where it is read.  Both
operations succeed, and what is read there afterwards is the exact result, as an integer, as long as
both integers and the result have the signed form.  Otherwise it is the result of the doubles next
to the two, in the form of a double. -/
theorem calculate_integers (focus : Focus path steps last) {m : Integer}
    (found : valueAt path root = .ok (some (.number (.int m)))) (n : Integer) (fresh : L) :
    (∃ out result, (Operation.inc path (.int n)).apply fresh root = .ok (.changed out) ∧
      valueAt path out = .ok (some (.number result)) ∧
      Number.Calculated m n (m.value + n.value)
        ((Binary64.ofInt m.value).add (.ofInt n.value)) result) ∧
    ∃ out result, (Operation.dec path (.int n)).apply fresh root = .ok (.changed out) ∧
      valueAt path out = .ok (some (.number result)) ∧
      Number.Calculated m n (m.value - n.value)
        ((Binary64.ofInt m.value).sub (.ofInt n.value)) result := by
  constructor
  · obtain ⟨result, hresult, calculated⟩ := Number.exists_add? m n
    obtain ⟨out, happly, hread⟩ := Focus.replaces (.inc path (.int n)) fresh focus found
      (fun frame leads => leads.calculate hresult)
    exact ⟨out, result, happly, hread, calculated⟩
  · obtain ⟨result, hresult, calculated⟩ := Number.exists_sub? m n
    obtain ⟨out, happly, hread⟩ := Focus.replaces (.dec path (.int n)) fresh focus found
      (fun frame leads => leads.calculate hresult)
    exact ⟨out, result, happly, hread, calculated⟩

end

/-- A count, the only one in a list. -/
def countsRoot (count : Integer) : Value Nat :=
  .object 0 [("counts", .array 1 [.number (.int count)])]

theorem focus_firstCount : Focus "counts[0]" [.attribute "counts"] (atIndex 0) := by
  refine .of_addresses (@ofText_of_writes .needed _ [.identifier "counts", .bracket .opening,
    .number ⟨false, ['0'], []⟩, .bracket .closing] _ (by decide +kernel) ?_) ?_
  · have index : WritesInteger ⟨false, ['0'], []⟩ 0 := eq_ok_of_toOption (by decide +kernel)
    exact .name (.identifier "counts") (.union (.terms (.slice (.index index)) .done) .done)
  · intro step hmem
    rcases List.mem_cons.mp hmem with rfl | hmem
    · exact .inl ⟨"counts", rfl⟩
    · exact .inr ⟨0, List.mem_singleton.mp hmem⟩

theorem valueAt_firstCount (count : Integer) :
    valueAt "counts[0]" (countsRoot count) = .ok (some (.number (.int count))) := by
  rw [focus_firstCount.valueAt_eq]
  rfl

/-- The greatest signed integer, raised and lowered by minus one. -/
theorem calculate_integers_greatest :
    let greatest : Integer := ⟨9223372036854775807, by decide⟩
    let less : Integer := ⟨-1, by decide⟩
    Focus "counts[0]" [.attribute "counts"] (atIndex 0) ∧
      valueAt "counts[0]" (countsRoot greatest) = .ok (some (.number (.int greatest))) ∧
      (∃ out result, (Operation.inc "counts[0]" (.int less)).apply 9 (countsRoot greatest) =
          .ok (.changed out) ∧
        valueAt "counts[0]" out = .ok (some (.number (.int result))) ∧
        result.value = 9223372036854775806) ∧
      ∃ out x, (Operation.dec "counts[0]" (.int less)).apply 9 (countsRoot greatest) =
          .ok (.changed out) ∧
        valueAt "counts[0]" out = .ok (some (.number (.float x))) := by
  intro greatest less
  obtain ⟨⟨raised, sum, hinc, hsum, isSum⟩, lowered, difference, hdec, hdifference, isDifference⟩ :=
    calculate_integers focus_firstCount (valueAt_firstCount greatest) less 9
  refine ⟨focus_firstCount, valueAt_firstCount greatest, ?_, ?_⟩
  · cases isSum with
    | integer result signed fits value => exact ⟨raised, result, hinc, hsum, value⟩
    | double x beyond nearest => exact absurd (by decide) beyond
  · cases isDifference with
    | integer result signed fits value => exact absurd fits (by decide)
    | double x beyond nearest => exact ⟨lowered, x, hdec, hdifference⟩

/-- The integer behind the greatest signed one becomes a double when it is lowered by one, although
the exact difference is a signed integer. -/
theorem dec_unsigned_rounded :
    let past : Integer := ⟨9223372036854775808, by decide⟩
    let one : Integer := ⟨1, by decide⟩
    Focus "counts[0]" [.attribute "counts"] (atIndex 0) ∧
      valueAt "counts[0]" (countsRoot past) = .ok (some (.number (.int past))) ∧
      FitsSigned (past.value - one.value) ∧
      ∃ out x, (Operation.dec "counts[0]" (.int one)).apply 9 (countsRoot past) =
          .ok (.changed out) ∧
        valueAt "counts[0]" out = .ok (some (.number (.float x))) := by
  intro past one
  refine ⟨focus_firstCount, valueAt_firstCount past, by decide, ?_⟩
  obtain ⟨result, hresult, calculated⟩ := Number.exists_sub? past one
  obtain ⟨out, happly, hread⟩ := Focus.replaces (.dec "counts[0]" (.int one)) 9
    focus_firstCount (valueAt_firstCount past) (fun frame leads => leads.calculate hresult)
  cases calculated with
  | integer _ signed _ _ => exact absurd signed.1 (by decide)
  | double x _ _ => exact ⟨out, x, happly, hread⟩

end DocumentStore
