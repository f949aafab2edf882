import DocumentStore.Patch.Reduce
import DocumentStore.Proofs.Mutation.ReadBack
import Mathlib.Data.List.Induction
import Mathlib.Data.List.Nodup

/-!
# Patches built call by call

A patch is built by one call after the other, the operators in any order and mixed at will.  What
it does depends on the calls of each operator alone: the operators are applied in one fixed order,
and in the group of an operator a path stands once, at the place of its first call and with the
argument of its last.  Only removals stand as often as they were called, and only the last
insertion counts.  The order of the fields that write a patch in JSON does not matter either.

* `callsOf` — the calls of one operator, in their order.
* `lastOfEach`, `settled` — what the calls of one operator come to.
* `applicationOrder`, `Patch.group` — the groups of a patch, in the order of their application.
* `Patch.ofCalls` — the patch that calls build.

Principal results: `Patch.group_add` — what one call does to every group.  `Patch.group_ofCalls` —
the groups of a patch that was built.  `Patch.ofJson?_perm` — fields of a patch in any order.
`Patch.ofCalls_order` — patches that are built or written in another order do the same.
-/

set_option autoImplicit false

namespace DocumentStore

/-- The calls of one operator, in their order. -/
def callsOf (kind : OperatorKind) (calls : List (Operation Unit)) : List (Operation Unit) :=
  calls.filter (fun call => call.kind = kind)

/-- The last call for a path. -/
def lastAt (calls : List (Operation Unit)) (path : String) : Option (Operation Unit) :=
  (calls.filter (fun call => call.path = path)).getLast?

/-- For each path the last call, at the place of the first one. -/
def lastOfEach (calls : List (Operation Unit)) : List (Operation Unit) :=
  (calls.map Operation.path).eraseDups.filterMap (lastAt calls)

/-- What the calls of one operator come to: all removals, the last insertion, and the last call for
each path of any other operator. -/
def settled (kind : OperatorKind) (calls : List (Operation Unit)) : List (Operation Unit) :=
  match kind with
  | .unset => calls
  | .insert => calls.getLast?.toList
  | _ => lastOfEach calls

/-- The operators in the order in which they are applied. -/
def applicationOrder : List OperatorKind :=
  [.set, .setIfMissing, .unset, .dec, .inc, .diffMatchPatch, .insert]

/-! ## Each path once -/

theorem eraseDups_concat (paths : List String) (path : String) :
    (paths ++ [path]).eraseDups =
      if path ∈ paths then paths.eraseDups else paths.eraseDups ++ [path] := by
  rw [List.eraseDups_append]
  by_cases h : path ∈ paths <;> simp [List.removeAll, List.eraseDups_cons, h]

theorem nodup_eraseDups (paths : List String) : paths.eraseDups.Nodup := by
  induction paths using List.reverseRecOn with
  | nil => exact List.nodup_nil
  | append_singleton paths path ih =>
    rw [eraseDups_concat]
    split
    · exact ih
    · next new =>
      rw [← List.concat_eq_append]
      exact List.Nodup.concat (fun h => new (List.mem_eraseDups.mp h)) ih

theorem lastAt_concat (calls : List (Operation Unit)) (call : Operation Unit) (path : String) :
    lastAt (calls ++ [call]) path =
      if call.path = path then some call else lastAt calls path := by
  unfold lastAt
  by_cases h : call.path = path <;> simp [h]

theorem path_of_lastAt {calls : List (Operation Unit)} {call : Operation Unit} {path : String}
    (h : lastAt calls path = some call) : call.path = path := by
  have hmem := List.mem_of_getLast? h
  simpa using (List.mem_filter.mp hmem).2

theorem exists_lastAt {calls : List (Operation Unit)} {path : String}
    (h : path ∈ calls.map Operation.path) : ∃ call, lastAt calls path = some call := by
  obtain ⟨call, hmem, hpath⟩ := List.mem_map.mp h
  unfold lastAt
  rw [← Option.isSome_iff_exists, List.getLast?_isSome]
  exact List.ne_nil_of_mem (List.mem_filter.mpr ⟨hmem, by simpa using hpath⟩)

/-- A call in the place of the one for its path, or behind all others. -/
def placed (call : Operation Unit) : List (Operation Unit) → List (Operation Unit)
  | [] => [call]
  | other :: rest => if other.path = call.path then call :: rest else other :: placed call rest

section
variable {call : Operation Unit} {before : List (Operation Unit)}

theorem placed_absent (absent : ∀ other ∈ before, other.path ≠ call.path) :
    placed call before = before ++ [call] := by
  induction before with
  | nil => rfl
  | cons other rest ih =>
    rw [List.forall_mem_cons] at absent
    rw [placed, if_neg absent.1, ih absent.2, List.cons_append]

theorem placed_split (absent : ∀ other ∈ before, other.path ≠ call.path) {old : Operation Unit}
    (same : old.path = call.path) (behind : List (Operation Unit)) :
    placed call (before ++ old :: behind) = before ++ call :: behind := by
  induction before with
  | nil => exact if_pos same
  | cons other rest ih =>
    rw [List.forall_mem_cons] at absent
    rw [List.cons_append, placed, if_neg absent.1, ih absent.2, List.cons_append]

end

/-- Calls for paths other than one are not changed by a call for that one. -/
theorem filterMap_lastAt_concat (calls : List (Operation Unit)) {call : Operation Unit}
    {paths : List String} (absent : call.path ∉ paths) :
    paths.filterMap (lastAt (calls ++ [call])) = paths.filterMap (lastAt calls) ∧
      ∀ other ∈ paths.filterMap (lastAt calls), other.path ≠ call.path := by
  constructor
  · refine List.filterMap_congr (fun path hmem => ?_)
    have hne : call.path ≠ path := fun h => absent (h ▸ hmem)
    rw [lastAt_concat, if_neg hne]
  · intro other hother hpath
    obtain ⟨path, hmem, hlast⟩ := List.mem_filterMap.mp hother
    rw [path_of_lastAt hlast] at hpath
    exact absent (hpath ▸ hmem)

/-- **One more call** takes the place of the last one for its path, or comes last. -/
theorem lastOfEach_concat (calls : List (Operation Unit)) (call : Operation Unit) :
    lastOfEach (calls ++ [call]) = placed call (lastOfEach calls) := by
  unfold lastOfEach
  rw [List.map_append, List.map_singleton, eraseDups_concat]
  have self : lastAt (calls ++ [call]) call.path = some call := by
    rw [lastAt_concat, if_pos rfl]
  split
  · next known =>
    have hmem := List.mem_eraseDups.mpr known
    have distinct := nodup_eraseDups (calls.map Operation.path)
    obtain ⟨old, hold⟩ := exists_lastAt known
    obtain ⟨before, behind, hsplit⟩ := List.append_of_mem hmem
    rw [hsplit] at distinct ⊢
    have hbefore : call.path ∉ before := fun h =>
      List.disjoint_of_nodup_append distinct h List.mem_cons_self
    have hbehind : call.path ∉ behind :=
      (List.nodup_cons.mp (List.nodup_append.mp distinct).2.1).1
    obtain ⟨keepsBefore, absent⟩ := filterMap_lastAt_concat calls hbefore
    obtain ⟨keepsBehind, -⟩ := filterMap_lastAt_concat calls hbehind
    rw [List.filterMap_append, List.filterMap_append, List.filterMap_cons_some self,
      List.filterMap_cons_some hold, keepsBefore, keepsBehind,
      placed_split absent (path_of_lastAt hold)]
  · next new =>
    have hnew : call.path ∉ (calls.map Operation.path).eraseDups :=
      fun h => new (List.mem_eraseDups.mp h)
    obtain ⟨keeps, absent⟩ := filterMap_lastAt_concat calls hnew
    rw [List.filterMap_append, keeps, List.filterMap_cons_some self, List.filterMap_nil,
      placed_absent absent]

/-! ## Groups -/

/-- A group with one more call of its operator. -/
def joined (call : Operation Unit) (group : List (Operation Unit)) : List (Operation Unit) :=
  match call.kind with
  | .unset => group ++ [call]
  | .insert => [call]
  | _ => placed call group

theorem settled_concat (calls : List (Operation Unit)) (call : Operation Unit) :
    settled call.kind (calls ++ [call]) = joined call (settled call.kind calls) := by
  unfold settled joined
  cases call with
  | unset path => rfl
  | insert insertion => exact congrArg Option.toList List.getLast?_concat
  | _ => exact lastOfEach_concat calls _

theorem callsOf_concat (kind : OperatorKind) (calls : List (Operation Unit))
    (call : Operation Unit) : callsOf kind (calls ++ [call]) =
      if call.kind = kind then callsOf kind calls ++ [call] else callsOf kind calls := by
  unfold callsOf
  by_cases h : call.kind = kind <;> simp [h]

namespace Patch

/-- The operations of one group of a patch. -/
def group (patch : Patch) : OperatorKind → List (Operation Unit)
  | .set => entries .set patch.set
  | .setIfMissing => entries .setIfMissing patch.setIfMissing
  | .unset => (patch.unset.getD []).map .unset
  | .dec => entries .dec patch.dec
  | .inc => entries .inc patch.inc
  | .diffMatchPatch => entries .diffMatchPatch patch.diffMatchPatch
  | .insert => patch.insert.toList.map .insert

theorem operations_eq_flatMap (patch : Patch) :
    patch.operations = applicationOrder.flatMap patch.group := by
  simp [operations, applicationOrder, group]

/-- An entry written to a group is a call placed in it. -/
theorem entries_addEntry {α : Type} {operation : String → α → Operation Unit}
    (hpath : ∀ path argument, (operation path argument).path = path) (path : String)
    (argument : α) (written : Option (Fields α)) :
    entries operation (addEntry path argument written) =
      placed (operation path argument) (entries operation written) := by
  unfold entries addEntry
  rw [Option.getD_some]
  induction written.getD [] with
  | nil => rfl
  | cons entry rest ih =>
    obtain ⟨key, old⟩ := entry
    rw [List.map_cons, placed, hpath, hpath, Fields.set]
    split
    · next same => rw [List.map_cons, same]
    · rw [List.map_cons, ih]

/-- **What a call does to the groups**: it joins the group of its operator and leaves the others. -/
theorem group_add (patch : Patch) (call : Operation Unit) (kind : OperatorKind) :
    (patch.add call).group kind =
      if call.kind = kind then joined call (patch.group kind) else patch.group kind := by
  split
  · next same =>
    subst same
    cases call with
    | unset path =>
      show (patch.unset.getD [] ++ [path]).map Operation.unset = _
      rw [List.map_append]
      rfl
    | insert insertion => rfl
    | _ => exact entries_addEntry (fun _ _ => rfl) _ _ _
  · next other =>
    cases call <;> cases kind <;> first | rfl | exact absurd rfl other

/-- The patch that calls build, one after the other. -/
def ofCalls (id : String) (calls : List (Operation Unit)) : Patch := calls.foldl add (empty id)

theorem id_ofCalls (id : String) (calls : List (Operation Unit)) : (ofCalls id calls).id = id := by
  have hadd : ∀ (patch : Patch) (call : Operation Unit), (patch.add call).id = patch.id := by
    intro patch call
    cases call <;> rfl
  induction calls using List.reverseRecOn with
  | nil => rfl
  | append_singleton calls call ih => rw [ofCalls, List.foldl_concat, hadd]; exact ih

/-- **The groups of a patch that was built** are what the calls of their operators come to. -/
theorem group_ofCalls (id : String) (calls : List (Operation Unit)) (kind : OperatorKind) :
    (ofCalls id calls).group kind = settled kind (callsOf kind calls) := by
  induction calls using List.reverseRecOn with
  | nil => cases kind <;> rfl
  | append_singleton calls call ih =>
    rw [ofCalls, List.foldl_concat, ← ofCalls, group_add, callsOf_concat, ih]
    split
    · next same =>
      subst same
      rw [settled_concat]
    · rfl

theorem operations_ofCalls (id : String) (calls : List (Operation Unit)) :
    (ofCalls id calls).operations =
      applicationOrder.flatMap (fun kind => settled kind (callsOf kind calls)) := by
  rw [operations_eq_flatMap]
  exact List.flatMap_congr (fun kind _ => group_ofCalls id calls kind)

theorem reduce_congr {patch other : Patch} (id : patch.id = other.id)
    (operations : patch.operations = other.operations) (doc : Document) (tx : Transaction) :
    patch.reduce doc tx = other.reduce doc tx := by
  unfold reduce
  rw [id, operations]

end Patch

/-! ## Fields in any order -/

theorem Fields.get?_perm {α : Type} {fields other : Fields α} (distinct : (keys fields).Nodup)
    (perm : fields.Perm other) : get? fields = get? other := by
  have hother : (keys other).Nodup := (perm.map Prod.fst).nodup distinct
  funext key
  cases h : get? fields key with
  | none =>
    rw [get?_eq_none_iff] at h
    exact (get?_eq_none_iff.mpr (fun hmem => h ((perm.map Prod.fst).mem_iff.mpr hmem))).symm
  | some value =>
    obtain ⟨before, behind, rfl, -⟩ := exists_split h
    have hmem : (key, value) ∈ other := perm.mem_iff.mp (by simp)
    exact (get?_of_mem hother hmem).symm

namespace Patch

/-- **The fields of a patch may stand in any order.** -/
theorem ofJson?_perm {fields other : Fields Json} (distinct : (Fields.keys fields).Nodup)
    (perm : fields.Perm other) : ofJson? (Json.ofFields fields) = ofJson? (Json.ofFields other) := by
  unfold ofJson?
  rw [Json.parts?_ofFields, Json.parts?_ofFields, Fields.get?_perm distinct perm]

theorem keys_groupField {α : Type} (name : String) (write : α → Json) (group : Option α) :
    (Fields.keys (groupField name write group)).Sublist [name] := by
  cases group with
  | none => exact List.nil_sublist _
  | some group => exact List.Sublist.refl _

theorem nodup_keys_of_toJson {patch : Patch} {fields : Fields Json}
    (h : patch.toJson.fields? = some fields) : (Fields.keys fields).Nodup := by
  cases h
  have names : (Fields.keys (("id", Value.string patch.id)
      :: (groupField "set" Json.ofFields patch.set
      ++ groupField "setIfMissing" Json.ofFields patch.setIfMissing
      ++ groupField "unset" Json.ofTexts patch.unset
      ++ groupField "inc" (Json.ofFieldsOf .number) patch.inc
      ++ groupField "dec" (Json.ofFieldsOf .number) patch.dec
      ++ groupField "diffMatchPatch" (Json.ofFieldsOf .string) patch.diffMatchPatch
      ++ groupField "insert" Insertion.toJson patch.insert))).Sublist partNames := by
    simp only [Fields.keys, List.map_cons, List.map_append]
    have first := (keys_groupField "set" Json.ofFields patch.set).append
      (keys_groupField "setIfMissing" Json.ofFields patch.setIfMissing)
    have second := (first.append (keys_groupField "unset" Json.ofTexts patch.unset)).append
      (keys_groupField "inc" (Json.ofFieldsOf .number) patch.inc)
    have third := (second.append
      (keys_groupField "dec" (Json.ofFieldsOf .number) patch.dec)).append
      (keys_groupField "diffMatchPatch" (Json.ofFieldsOf .string) patch.diffMatchPatch)
    exact (third.append (keys_groupField "insert" Insertion.toJson patch.insert)).cons_cons "id"
  exact names.nodup (by decide)

/-- **Neither the order of the calls nor that of the fields matters.**  The operations of a patch
that was built are what the calls of each operator come to, operator by operator.  So calls that
differ only in how those of the operators are mixed build patches that do the same to every
document, whether they change it or fail.  Objects that differ only in the order of their fields are
patches that do the same, or neither is one; and the fields that write a patch that was built are
read as it in any order. -/
theorem ofCalls_order (id : String) (calls : List (Operation Unit)) :
    (ofCalls id calls).operations =
        applicationOrder.flatMap (fun kind => settled kind (callsOf kind calls)) ∧
      (∀ other, (∀ kind, callsOf kind other = callsOf kind calls) → ∀ doc tx,
        (ofCalls id other).reduce doc tx = (ofCalls id calls).reduce doc tx) ∧
      (∀ fields other : Fields Json, (Fields.keys fields).Nodup → fields.Perm other → ∀ doc tx,
        (ofJson? (Json.ofFields other)).map (fun patch => patch.reduce doc tx) =
          (ofJson? (Json.ofFields fields)).map (fun patch => patch.reduce doc tx)) ∧
      ∀ written fields : Fields Json, (ofCalls id calls).toJson.fields? = some written →
        written.Perm fields → ofJson? (Json.ofFields fields) = some (ofCalls id calls) := by
  refine ⟨operations_ofCalls id calls, ?_, ?_, ?_⟩
  · intro other same doc tx
    refine reduce_congr (by rw [id_ofCalls, id_ofCalls]) ?_ doc tx
    simp only [operations_ofCalls, same]
  · intro fields other distinct perm doc tx
    rw [ofJson?_perm distinct perm]
  · intro written fields hwritten perm
    have object : (ofCalls id calls).toJson = Json.ofFields written := by
      cases hwritten
      rfl
    rw [← ofJson?_perm (nodup_keys_of_toJson hwritten) perm, ← object, ofJson?_toJson]

/-- Calls that write two paths, one of them twice, and take one away. -/
def lampCalls : List (Operation Unit) :=
  [.set "place" (.string "hall"), .inc "level" (.ofCount 1), .set "on" (.bool true),
    .unset "fan", .set "place" (.string "attic")]

/-- The same calls with those of the operators mixed in another way. -/
def lampCallsMixed : List (Operation Unit) :=
  [.unset "fan", .set "place" (.string "hall"), .set "on" (.bool true),
    .set "place" (.string "attic"), .inc "level" (.ofCount 1)]

theorem ofCalls_order_lamp :
    let fields : Fields Json := [("id", .string "lamp"), ("unset", Json.ofTexts ["fan"]),
      ("set", Json.ofFields [("on", .bool true)])]
    let written : Fields Json := [("id", .string "lamp"),
      ("set", Json.ofFields [("place", .string "attic"), ("on", .bool true)]),
      ("unset", Json.ofTexts ["fan"]), ("inc", Json.ofFields [("level", .number (.ofCount 1))])]
    (ofCalls "lamp" lampCalls).operations = [.set "place" (.string "attic"), .set "on" (.bool true),
        .unset "fan", .inc "level" (.ofCount 1)] ∧
      (∀ kind, callsOf kind lampCallsMixed = callsOf kind lampCalls) ∧
      (∀ doc tx, (ofCalls "lamp" lampCallsMixed).reduce doc tx =
        (ofCalls "lamp" lampCalls).reduce doc tx) ∧
      (Fields.keys fields).Nodup ∧ fields.Perm fields.reverse ∧
      (∀ doc tx, (ofJson? (Json.ofFields fields.reverse)).map (fun patch => patch.reduce doc tx) =
        (ofJson? (Json.ofFields fields)).map (fun patch => patch.reduce doc tx)) ∧
      (ofCalls "lamp" lampCalls).toJson.fields? = some written ∧ written.Perm written.reverse ∧
      ofJson? (Json.ofFields written.reverse) = some (ofCalls "lamp" lampCalls) := by
  intro fields written
  obtain ⟨operations, calls, perm, read⟩ := ofCalls_order "lamp" lampCalls
  have same : ∀ kind, callsOf kind lampCallsMixed = callsOf kind lampCalls := by
    intro kind
    cases kind <;> rfl
  have distinct : (Fields.keys fields).Nodup := by decide
  have hfields : fields.Perm fields.reverse := (List.reverse_perm fields).symm
  have hwritten : written.Perm written.reverse := (List.reverse_perm written).symm
  exact ⟨operations.trans rfl, same, calls _ same, distinct, hfields, perm _ _ distinct hfields,
    rfl, hwritten, read _ _ rfl hwritten⟩

end Patch

end DocumentStore
