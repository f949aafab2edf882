import DocumentStore.Json.Value

/-!
# Fields found and written

A field that is found stands between the fields before it, none of which has its key, and those
behind it.  Writing it replaces its value there; writing a new key puts a field behind all others.

* `Fields.keys` — the keys, in order.

Principal results: `exists_split` — where a found field stands.  `set_split`, `set_absent` — what
a write does to the fields as a whole.  `set_set`, `get?_erase`, `nodup_set`, `nodup_erase` — writes
after writes, and distinct keys.
-/

set_option autoImplicit false

namespace DocumentStore

namespace Fields

variable {α : Type} {key other : String}

/-- The keys of the fields, in order. -/
def keys (fields : Fields α) : List String := fields.map Prod.fst

theorem get?_nil (key : String) : get? ([] : Fields α) key = none := rfl

theorem get?_cons (k : String) (value : α) (rest : Fields α) (key : String) :
    get? ((k, value) :: rest) key = if key = k then some value else get? rest key := by
  unfold get?
  rw [List.lookup_cons]
  by_cases h : key = k
  · simp [h]
  · simp [h, beq_false_of_ne h]

theorem get?_append (front back : Fields α) (key : String) :
    get? (front ++ back) key = (get? front key).or (get? back key) := by
  induction front with
  | nil => rfl
  | cons field rest ih =>
    obtain ⟨k, value⟩ := field
    rw [List.cons_append, get?_cons, get?_cons, ih]
    by_cases h : key = k
    · rw [if_pos h, if_pos h, Option.some_or]
    · rw [if_neg h, if_neg h]

theorem get?_eq_none_iff {fields : Fields α} : get? fields key = none ↔ key ∉ keys fields := by
  induction fields with
  | nil => simp [get?, keys]
  | cons field rest ih =>
    obtain ⟨k, value⟩ := field
    rw [get?_cons]
    by_cases h : key = k
    · simp [h, keys]
    · rw [if_neg h, ih]
      simp [h, keys]

theorem get?_split {before : Fields α} (absent : get? before key = none) (value : α)
    (behind : Fields α) : get? (before ++ (key, value) :: behind) key = some value := by
  rw [get?_append, absent, Option.none_or, get?_cons, if_pos rfl]

/-- **Where a field that is found stands**: no field before it has its key. -/
theorem exists_split {fields : Fields α} {value : α} (h : get? fields key = some value) :
    ∃ before behind, fields = before ++ (key, value) :: behind ∧ get? before key = none := by
  induction fields with
  | nil => cases h
  | cons field rest ih =>
    obtain ⟨k, v⟩ := field
    rw [get?_cons] at h
    by_cases hk : key = k
    · rw [if_pos hk] at h
      cases h
      subst hk
      exact ⟨[], rest, rfl, rfl⟩
    · rw [if_neg hk] at h
      obtain ⟨before, behind, rfl, absent⟩ := ih h
      refine ⟨(k, v) :: before, behind, rfl, ?_⟩
      rw [get?_cons, if_neg hk, absent]

/-- **A key that is there is written in its place.** -/
theorem set_split {before : Fields α} (absent : get? before key = none) (new old : α)
    (behind : Fields α) :
    set key new (before ++ (key, old) :: behind) = before ++ (key, new) :: behind := by
  induction before with
  | nil => simp [set]
  | cons field rest ih =>
    obtain ⟨k, v⟩ := field
    rw [get?_cons] at absent
    by_cases hk : key = k
    · rw [if_pos hk] at absent
      cases absent
    · rw [if_neg hk] at absent
      rw [List.cons_append, set, if_neg (Ne.symm hk), ih absent, List.cons_append]

/-- **A new key is written behind all others.** -/
theorem set_absent {fields : Fields α} (absent : get? fields key = none) (new : α) :
    set key new fields = fields ++ [(key, new)] := by
  induction fields with
  | nil => rfl
  | cons field rest ih =>
    obtain ⟨k, v⟩ := field
    rw [get?_cons] at absent
    by_cases hk : key = k
    · rw [if_pos hk] at absent
      cases absent
    · rw [if_neg hk] at absent
      rw [set, if_neg (Ne.symm hk), ih absent, List.cons_append]

theorem set_found {fields : Fields α} {value : α} (h : get? fields key = some value) :
    set key value fields = fields := by
  obtain ⟨before, behind, rfl, absent⟩ := exists_split h
  exact set_split absent value value behind

theorem set_set (key : String) (first second : α) (fields : Fields α) :
    set key second (set key first fields) = set key second fields := by
  induction fields with
  | nil => simp [set]
  | cons field rest ih =>
    obtain ⟨k, v⟩ := field
    by_cases hk : k = key
    · simp [set, hk]
    · simp [set, hk, ih]

theorem get?_erase (fields : Fields α) (key other : String) :
    get? (erase fields key) other = if other = key then none else get? fields other := by
  induction fields with
  | nil => simp [erase, get?]
  | cons field rest ih =>
    obtain ⟨k, v⟩ := field
    unfold erase at ih ⊢
    by_cases hk : k = key
    · subst hk
      rw [List.filter_cons_of_neg (by simp), ih, get?_cons]
      by_cases ho : other = k
      · rw [if_pos ho, if_pos ho]
      · rw [if_neg ho, if_neg ho, if_neg ho]
    · rw [List.filter_cons_of_pos (by simp [hk]), get?_cons, get?_cons, ih]
      by_cases ho : other = k
      · subst ho
        rw [if_pos rfl, if_pos rfl, if_neg hk]
      · rw [if_neg ho, if_neg ho]

theorem erase_eq_filter (fields : Fields α) (key : String) :
    erase fields key = fields.filter (fun field => field.1 ≠ key) :=
  List.filter_congr (fun field _ => by by_cases h : field.1 = key <;> simp [h])

theorem erase_absent {fields : Fields α} (absent : get? fields key = none) :
    erase fields key = fields := by
  refine List.filter_eq_self.mpr (fun field hmem => ?_)
  have hne : field.1 ≠ key := by
    rintro rfl
    exact get?_eq_none_iff.mp absent (List.mem_map_of_mem hmem)
  simp [hne]

theorem erase_added {fields : Fields α} (absent : get? fields key = none) (new : α) :
    erase (fields ++ [(key, new)]) key = fields := by
  have hlast : erase [(key, new)] key = [] := by simp [erase]
  calc erase (fields ++ [(key, new)]) key = erase fields key ++ erase [(key, new)] key :=
        List.filter_append _ _
    _ = fields := by rw [erase_absent absent, hlast, List.append_nil]

/-! ## Distinct keys -/

theorem nodup_set {fields : Fields α} (distinct : (keys fields).Nodup) (key : String) (new : α) :
    (keys (set key new fields)).Nodup := by
  cases h : get? fields key with
  | none =>
    rw [set_absent h]
    have absent := get?_eq_none_iff.mp h
    unfold keys at absent distinct ⊢
    rw [List.map_append, List.nodup_append]
    refine ⟨distinct, by simp, ?_⟩
    intro k hk k' hk' he
    rw [List.map_cons, List.map_nil, List.mem_singleton] at hk'
    rw [he, hk'] at hk
    exact absent hk
  | some old =>
    obtain ⟨before, behind, rfl, absent⟩ := exists_split h
    rw [set_split absent]
    simpa [keys] using distinct

theorem nodup_erase {fields : Fields α} (distinct : (keys fields).Nodup) (key : String) :
    (keys (erase fields key)).Nodup :=
  (List.filter_sublist.map Prod.fst).nodup distinct

theorem get?_of_mem {fields : Fields α} {value : α} (distinct : (keys fields).Nodup)
    (hmem : (key, value) ∈ fields) : get? fields key = some value := by
  obtain ⟨before, behind, rfl⟩ := List.append_of_mem hmem
  refine get?_split (get?_eq_none_iff.mpr ?_) value behind
  intro hbefore
  unfold keys at distinct hbefore
  rw [List.map_append, List.nodup_append] at distinct
  exact distinct.2.2 key hbefore key List.mem_cons_self rfl

theorem mem_set {fields : Fields α} {new : α} {field : String × α}
    (h : field ∈ set key new fields) : field = (key, new) ∨ field ∈ fields := by
  induction fields with
  | nil => exact .inl (List.mem_singleton.mp h)
  | cons first rest ih =>
    obtain ⟨k, v⟩ := first
    unfold set at h
    split at h
    · rename_i hk
      subst hk
      rcases List.mem_cons.mp h with rfl | hrest
      · exact .inl rfl
      · exact .inr (List.mem_cons_of_mem _ hrest)
    · rcases List.mem_cons.mp h with rfl | hrest
      · exact .inr List.mem_cons_self
      · rcases ih hrest with hnew | hold
        · exact .inl hnew
        · exact .inr (List.mem_cons_of_mem _ hold)

end Fields

end DocumentStore
