import DocumentStore.Dataset

/-!
# What a batch tells

Everything told while a batch is applied is about its mutations: a path or an anchor that was not
found, an id that was there, a mutation that was skipped.

Principal result: `reduce_quiet` — no batch tells of a skipped listener.
-/

set_option autoImplicit false

namespace DocumentStore

/-! ## Edits -/

/-- An edit that does not tell of a skipped listener. -/
def QuietEdit {L : Type} (edit : Except Fault (Edit L)) : Prop :=
  ∀ notice, edit = .ok (.kept (some notice)) → notice ≠ .listenerSkipped

section
variable {L : Type}

theorem quietEdit_bind {α : Type} (first : Except Fault α) {next : α → Except Fault (Edit L)}
    (quiet : ∀ value, QuietEdit (next value)) : QuietEdit (first >>= next) := by
  intro notice h
  cases first with
  | error fault => cases h
  | ok value => exact quiet value notice h

theorem quietEdit_error (fault : Fault) : QuietEdit (.error fault : Except Fault (Edit L)) :=
  fun _ h => by cases h

theorem quietEdit_changed (value : Value L) : QuietEdit (.ok (.changed value)) :=
  fun _ h => by cases h

theorem quietEdit_kept : QuietEdit (.ok (.kept none) : Except Fault (Edit L)) :=
  fun _ h => by cases h

theorem quietEdit_rebuild (fresh : L) (step : PathExpr) (new parent : Value L) :
    QuietEdit (Edit.rebuild fresh step new parent) := by
  refine quietEdit_bind _ (fun written => ?_)
  cases written <;> exact quietEdit_changed _

theorem quietEdit_setIfMissing (fresh : L) (new : Value L) (last : PathExpr) (parent : Value L) :
    QuietEdit (Leaf.setIfMissing fresh new last parent) := by
  refine quietEdit_bind _ (fun found => ?_)
  cases found
  · exact quietEdit_rebuild _ _ _ _
  · exact quietEdit_kept

theorem quietEdit_unset (fresh : L) (last : PathExpr) (parent : Value L) :
    QuietEdit (Leaf.unset fresh last parent) := by
  unfold Leaf.unset
  split
  · split
    · split
      · exact quietEdit_changed _
      · exact quietEdit_kept
    · exact quietEdit_error _
  · exact quietEdit_error _

theorem quietEdit_calculate (fresh : L) (result? : Number → Option Number) (last : PathExpr)
    (parent : Value L) : QuietEdit (Leaf.calculate fresh result? last parent) := by
  refine quietEdit_bind _ (fun found => ?_)
  split
  · split
    · exact quietEdit_rebuild _ _ _ _
    · exact quietEdit_error _
  · exact quietEdit_error _
  · exact quietEdit_error _

theorem quietEdit_patchText (fresh : L) (patch : String) (last : PathExpr) (parent : Value L) :
    QuietEdit (Leaf.patchText fresh patch last parent) := by
  refine quietEdit_bind _ (fun found => ?_)
  split
  · split
    · exact quietEdit_error _
    · dsimp only
      split
      · exact quietEdit_kept
      · exact quietEdit_rebuild _ _ _ _
  · exact quietEdit_error _
  · exact quietEdit_error _

theorem quietEdit_insert (fresh : L) (insertion : Insertion L) (last : PathExpr)
    (parent : Value L) : QuietEdit (Leaf.insert fresh insertion last parent) := by
  refine quietEdit_bind _ (fun items => ?_)
  split
  · exact quietEdit_changed _
  · refine quietEdit_bind _ (fun place => ?_)
    cases place
    · intro notice h; cases h; exact fun hn => by cases hn
    · exact quietEdit_changed _

theorem quietEdit_editParent (fresh : L) (path : String)
    {leaf : Value L → Except Fault (Edit L)} (quiet : ∀ value, QuietEdit (leaf value)) :
    ∀ (steps : List PathExpr) (value : Value L),
      QuietEdit (editParent fresh path leaf steps value)
  | [], value => quiet value
  | step :: rest, value => by
    have missing : QuietEdit (.ok (.kept (some (.segmentNotFound path step))) :
        Except Fault (Edit L)) := by
      intro notice h; cases h; exact fun hn => by cases hn
    refine quietEdit_bind _ (fun found => ?_)
    split
    · rename_i child
      split
      · have ih := quietEdit_editParent fresh path quiet rest child
        intro notice h
        cases hedit : editParent fresh path leaf rest child with
        | error fault => rw [hedit] at h; cases h
        | ok edit =>
          rw [hedit] at h
          cases edit with
          | changed new => exact quietEdit_rebuild fresh step new value notice h
          | kept told => cases h; exact ih notice hedit
      · exact missing
    · exact missing

theorem quietEdit_apply (fresh : L) (operation : Operation L) (root : Value L) :
    QuietEdit (operation.apply fresh root) := by
  refine quietEdit_bind _ (fun expr => ?_)
  split
  · refine quietEdit_editParent _ _ (fun value => ?_) _ _
    cases operation with
    | set _ _ => exact quietEdit_rebuild _ _ _ _
    | setIfMissing _ _ => exact quietEdit_setIfMissing _ _ _ _
    | unset _ => exact quietEdit_unset _ _ _
    | dec _ _ => exact quietEdit_calculate _ _ _ _
    | inc _ _ => exact quietEdit_calculate _ _ _ _
    | diffMatchPatch _ _ => exact quietEdit_patchText _ _ _ _
    | insert _ => exact quietEdit_insert _ _ _ _
  · exact quietEdit_kept

end

/-! ## Batches -/

/-- A result on the way to which no listener was told to be skipped. -/
def Logged.Quiet {α : Type} (logged : Logged α) : Prop := .listenerSkipped ∉ logged.notices

theorem Logged.Quiet.bind {α β : Type} {first : Logged α} {next : α → Logged β}
    (quiet : first.Quiet) (quiet' : ∀ value, (next value).Quiet) : (first.bind next).Quiet := by
  unfold Logged.Quiet Logged.bind
  cases first.result with
  | error fault => exact quiet
  | ok value => exact fun h => (List.mem_append.mp h).elim quiet (quiet' value)

theorem quiet_pure {α : Type} (value : α) : (Logged.pure value).Quiet := List.not_mem_nil

theorem quiet_applyOperation (id : String) (root : Json) (operation : Operation Unit) :
    (applyOperation id root operation).Quiet := by
  unfold applyOperation
  split
  · rename_i notice happly
    intro h
    exact quietEdit_apply () operation root _
      (by rw [happly, Option.mem_toList.mp h]) rfl
  · exact List.not_mem_nil
  · exact List.not_mem_nil

theorem quiet_applyOperations (id : String) :
    ∀ (operations : List (Operation Unit)) (root : Json), (applyOperations id root operations).Quiet
  | [], root => quiet_pure root
  | operation :: rest, root =>
    (quiet_applyOperation id root operation).bind (quiet_applyOperations id rest)

theorem quiet_reducePatch (patch : Patch) (doc : Document) (tx : Transaction) :
    (patch.reduce doc tx).Quiet := by
  unfold Patch.reduce
  split
  · exact quiet_pure _
  split
  · exact quiet_pure _
  exact (quiet_applyOperations _ _ _).bind (fun _ => List.not_mem_nil)

namespace Dataset

theorem apply_quiet (dataset : Dataset) (tx : Transaction) (mutation : Mutation) :
    (dataset.apply tx mutation).Quiet := by
  cases mutation with
  | create doc =>
    simp only [apply]
    split
    · exact fun h => by cases List.mem_singleton.mp h
    · exact quiet_pure _
  | createIfNotExists doc =>
    simp only [apply]
    split <;> exact quiet_pure _
  | createOrReplace doc =>
    simp only [apply]
    split <;> exact quiet_pure _
  | delete selection =>
    cases selection with
    | ids selector => exact quiet_pure _
    | query _ _ => exact fun h => by cases List.mem_singleton.mp h
  | patch edits =>
    simp only [apply]
    split
    · refine (quiet_reducePatch _ _ _).bind (fun revised => ?_)
      cases revised <;> exact quiet_pure _
    · exact quiet_pure _

/-- **No batch tells of a skipped listener.** -/
theorem reduce_quiet (tx : Transaction) :
    ∀ (mutations : List Mutation) (dataset : Dataset), (dataset.reduce tx mutations).Quiet
  | [], dataset => quiet_pure dataset
  | mutation :: rest, dataset => (dataset.apply_quiet tx mutation).bind (reduce_quiet tx rest)

end Dataset

end DocumentStore
