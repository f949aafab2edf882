import DocumentStore.Proofs.Patch.Independence

/-!
# Distinct keys are kept

No operation gives an object a key twice: what it writes is put into frames whose other children
are kept, a field is added only under a key that is not there, and fields and items taken away
leave the rest as it was.

Principal result: `Operation.outcome_distinctKeys` — an operation whose arguments have distinct keys
leaves a value with distinct keys.
-/

set_option autoImplicit false

namespace DocumentStore

variable {L : Type} {fresh : L}

/-! ## Frames -/

namespace Frame

variable {frame : Frame L} {old new : Value L}

theorem distinctKeys_child (h : (frame.fill old).DistinctKeys) : old.DistinctKeys := by
  cases frame with
  | field label before key behind =>
    cases h with
    | object _ _ each => exact each (key, old) (List.mem_append_right _ List.mem_cons_self)
  | item label before behind =>
    cases h with
    | array _ each => exact each old (List.mem_append_right _ List.mem_cons_self)

theorem distinctKeys_refill (h : (frame.fill old).DistinctKeys) (hnew : new.DistinctKeys)
    (fresh : L) : ((frame.renew fresh).fill new).DistinctKeys := by
  cases frame with
  | field label before key behind =>
    cases h with
    | object _ distinct each =>
      refine .object fresh ?_ ?_
      · simpa [Fields.keys] using distinct
      · intro field hmem
        rcases List.mem_append.mp hmem with hmem | hmem
        · exact each field (List.mem_append_left _ hmem)
        · rcases List.mem_cons.mp hmem with rfl | hmem
          · exact hnew
          · exact each field (List.mem_append_right _ (List.mem_cons_of_mem _ hmem))
  | item label before behind =>
    cases h with
    | array _ each =>
      refine .array fresh ?_
      intro item hmem
      rcases List.mem_append.mp hmem with hmem | hmem
      · exact each item (List.mem_append_left _ hmem)
      · rcases List.mem_cons.mp hmem with rfl | hmem
        · exact hnew
        · exact each item (List.mem_append_right _ (List.mem_cons_of_mem _ hmem))

end Frame

theorem distinctKeys_plugged {value : Value L} :
    ∀ {frames : List (Frame L)}, (plug frames value).DistinctKeys → value.DistinctKeys
  | [], h => h
  | _ :: _, h => distinctKeys_plugged (Frame.distinctKeys_child h)

theorem distinctKeys_plug {old new : Value L} (hnew : new.DistinctKeys) (fresh : L) :
    ∀ {frames : List (Frame L)}, (plug frames old).DistinctKeys →
      (plug (frames.map (Frame.renew fresh)) new).DistinctKeys
  | [], _ => hnew
  | _ :: _, h => Frame.distinctKeys_refill h
      (distinctKeys_plug hnew fresh (Frame.distinctKeys_child h)) fresh

/-! ## Parents -/

section
variable {last : PathExpr} {parent out : Value L}

theorem Written.distinctKeys {value : Value L} (written : Written fresh value last parent out)
    (hvalue : value.DistinctKeys) (hparent : parent.DistinctKeys) : out.DistinctKeys := by
  cases written with
  | child leads => exact Frame.distinctKeys_refill hparent hvalue fresh
  | @added label fields key absent =>
    cases hparent with
    | object _ distinct each =>
      rw [← Fields.set_absent absent]
      refine .object fresh (Fields.nodup_set distinct key value) ?_
      intro field hmem
      rcases Fields.mem_set hmem with rfl | hold
      · exact hvalue
      · exact each field hold
  | copied _ =>
    cases hparent with
    | array _ each => exact .array fresh each

theorem Replaced.distinctKeys {old new : Value L} (h : Replaced fresh last old new parent out)
    (hnew : new.DistinctKeys) (hparent : parent.DistinctKeys) : out.DistinctKeys := by
  obtain ⟨frame, -, rfl, rfl⟩ := h
  exact Frame.distinctKeys_refill hparent hnew fresh

theorem Spliced.distinctKeys {position : Position} {items : List (Value L)}
    (h : Spliced fresh last position items parent out)
    (hitems : ∀ item ∈ items, item.DistinctKeys) (hparent : parent.DistinctKeys) :
    out.DistinctKeys := by
  obtain ⟨label, before, gone, behind, rfl, rfl, -⟩ := h
  cases hparent with
  | array _ each =>
    simp only [List.forall_mem_append] at each
    refine .array fresh ?_
    simp only [List.forall_mem_append]
    exact ⟨⟨each.1.1, hitems⟩, each.2⟩

/-- **What each operator makes of a parent has distinct keys.** -/
theorem Operation.Edits.distinctKeys {operation : Operation L}
    (h : operation.Edits fresh last parent out) (arguments : operation.DistinctKeys)
    (hparent : parent.DistinctKeys) : out.DistinctKeys := by
  cases operation with
  | set path value => exact Written.distinctKeys h arguments hparent
  | setIfMissing path value => exact Written.distinctKeys h.2 arguments hparent
  | unset path =>
    obtain ⟨key, label, fields, -, -, rfl, rfl⟩ := h
    cases hparent with
    | object _ distinct each =>
      refine .object fresh ((List.filter_sublist.map Prod.fst).nodup distinct) ?_
      exact fun field hmem => each field (List.mem_filter.mp hmem).1
  | dec path amount =>
    obtain ⟨n, result, -, replaced⟩ := h
    exact replaced.distinctKeys (.number result) hparent
  | inc path amount =>
    obtain ⟨n, result, -, replaced⟩ := h
    exact replaced.distinctKeys (.number result) hparent
  | diffMatchPatch path patch =>
    obtain ⟨text, hunks, -, replaced⟩ := h
    exact replaced.distinctKeys (.string _) hparent
  | insert insertion => exact Spliced.distinctKeys h arguments hparent

end

/-! ## Operations -/

/-- **An operation leaves distinct keys** where there were distinct keys, in the value and in the
arguments. -/
theorem Operation.outcome_distinctKeys {operation : Operation L} {root out : Value L}
    (arguments : operation.DistinctKeys) (hroot : root.DistinctKeys)
    (h : operation.outcome fresh root = .ok out) : out.DistinctKeys := by
  obtain ⟨edit, happly, rfl⟩ := outcomeOf_eq_ok_iff.mp h
  cases edit with
  | kept _ => exact hroot
  | changed out =>
    obtain ⟨steps, last, frames, parent, new, -, -, rfl, -, hleaf, rfl⟩ :=
      apply_changed_iff.mp happly
    have edits : operation.Edits fresh last parent new := leaf_changed hleaf
    exact distinctKeys_plug (edits.distinctKeys arguments (distinctKeys_plugged hroot)) fresh hroot

end DocumentStore
