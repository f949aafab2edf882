import DocumentStore.Patch.Operation

/-!
# Patches

A patch holds operations on one document, grouped by operator.  The groups are applied in one
fixed order, whatever order they were written in; inside a group the order written is kept.

* `Patch` — the groups.
* `Patch.add` — one more operation.
* `Patch.operations` — all operations in the order in which they are applied.
-/

set_option autoImplicit false

namespace DocumentStore

/-- The operations on one document, by group.  A group that was not written is absent. -/
structure Patch where
  id : String
  set : Option (Fields Json)
  setIfMissing : Option (Fields Json)
  unset : Option (List String)
  inc : Option (Fields Number)
  dec : Option (Fields Number)
  diffMatchPatch : Option (Fields String)
  insert : Option (Insertion Unit)

namespace Patch

/-- The patch without groups. -/
def empty (id : String) : Patch := ⟨id, none, none, none, none, none, none, none⟩

/-- A group with one more entry: a path written before keeps its place and takes the new
argument. -/
def addEntry {α : Type} (path : String) (argument : α) (group : Option (Fields α)) :
    Option (Fields α) :=
  some (Fields.set path argument (group.getD []))

/-- A patch with one more operation.  An insertion replaces the one before. -/
def add (patch : Patch) : Operation Unit → Patch
  | .set path value => { patch with set := addEntry path value patch.set }
  | .setIfMissing path value =>
    { patch with setIfMissing := addEntry path value patch.setIfMissing }
  | .unset path => { patch with unset := some (patch.unset.getD [] ++ [path]) }
  | .dec path amount => { patch with dec := addEntry path amount patch.dec }
  | .inc path amount => { patch with inc := addEntry path amount patch.inc }
  | .diffMatchPatch path text =>
    { patch with diffMatchPatch := addEntry path text patch.diffMatchPatch }
  | .insert insertion => { patch with insert := some insertion }

/-- The operations that the entries of a group are. -/
def entries {α : Type} (operation : String → α → Operation Unit) (group : Option (Fields α)) :
    List (Operation Unit) :=
  (group.getD []).map (fun entry => operation entry.1 entry.2)

/-- All operations in the order in which they are applied. -/
def operations (patch : Patch) : List (Operation Unit) :=
  entries .set patch.set
    ++ entries .setIfMissing patch.setIfMissing
    ++ (patch.unset.getD []).map .unset
    ++ entries .dec patch.dec
    ++ entries .inc patch.inc
    ++ entries .diffMatchPatch patch.diffMatchPatch
    ++ patch.insert.toList.map .insert

end Patch

end DocumentStore
