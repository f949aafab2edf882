import DocumentStore.Mutation.Basic
import DocumentStore.Patch.Reduce

/-!
# Datasets

A dataset is an ordered list of documents with distinct ids.  Every write makes a new record and
stamps it with a number that no record of the dataset had before, so two records with one stamp
are the very same record.

* `Record`, `Dataset` — a document as it was written once, and the records of a dataset.
* `Dataset.ofDocuments` — a dataset of documents; of two with one id the first is kept.
* `Dataset.apply`, `Dataset.reduce` — one mutation, and a whole batch.
* `Dataset.diff` — what happened to each document between two datasets.
-/

set_option autoImplicit false

namespace DocumentStore

/-- A document as it was written once. -/
structure Record where
  stamp : Nat
  document : Document
  deriving DecidableEq

/-- The id of a record. -/
def Record.id (record : Record) : String := record.document.id

/-- Whether two records are the very same. -/
def Record.same (a b : Record) : Bool := a.stamp == b.stamp

/-- Records in order, and the stamp of the next write. -/
structure Dataset where
  records : List Record
  nextStamp : Nat
  deriving DecidableEq

/-- The record with an id among records. -/
def findRecord (records : List Record) (id : String) : Option Record :=
  records.find? (fun record => record.id == id)

namespace Dataset

/-- The dataset without documents. -/
def empty : Dataset := ⟨[], 0⟩

/-- The record with an id. -/
def get? (dataset : Dataset) (id : String) : Option Record := findRecord dataset.records id

/-- The place of an id. -/
def position? (dataset : Dataset) (id : String) : Option Nat :=
  dataset.records.findIdx? (fun record => record.id == id)

/-- Whether there is a document with an id. -/
def contains (dataset : Dataset) (id : String) : Bool := (dataset.position? id).isSome

/-- The number of documents. -/
def size (dataset : Dataset) : Nat := dataset.records.length

/-- The documents in order. -/
def documents (dataset : Dataset) : List Document := dataset.records.map Record.document

/-- The ids in order. -/
def ids (dataset : Dataset) : List String := dataset.records.map Record.id

/-- A document written behind all others. -/
def append (dataset : Dataset) (doc : Document) : Dataset :=
  ⟨dataset.records ++ [⟨dataset.nextStamp, doc⟩], dataset.nextStamp + 1⟩

/-- A document written in a place. -/
def writeAt (dataset : Dataset) (place : Nat) (doc : Document) : Dataset :=
  ⟨dataset.records.set place ⟨dataset.nextStamp, doc⟩, dataset.nextStamp + 1⟩

/-- A dataset without the records that a selector names. -/
def remove (dataset : Dataset) (selector : IdSelector) : Dataset :=
  { dataset with records := dataset.records.filter (fun record => !selector.contains record.id) }

/-- A dataset with one more document, unless its id is there. -/
def addDocument (loaded : Dataset × List Notice) (doc : Document) : Dataset × List Notice :=
  if loaded.1.contains doc.id then (loaded.1, loaded.2 ++ [.duplicateId doc.id])
  else (loaded.1.append doc, loaded.2)

/-- The dataset of these documents; of two with one id the first is kept. -/
def ofDocuments (docs : List Document) : Dataset × List Notice :=
  docs.foldl addDocument (empty, [])

/-- One mutation. -/
def apply (dataset : Dataset) (tx : Transaction) : Mutation → Logged Dataset
  | .create doc =>
    if dataset.contains doc.id then .tell (.alreadyExists doc.id) dataset
    else .pure (dataset.append (doc.created tx))
  | .createIfNotExists doc =>
    if dataset.contains doc.id then .pure dataset
    else .pure (dataset.append (doc.created tx))
  | .createOrReplace doc =>
    match dataset.position? doc.id with
    | some place => .pure (dataset.writeAt place (doc.created tx))
    | none => .pure (dataset.append (doc.created tx))
  | .delete (.ids selector) => .pure (dataset.remove selector)
  | .delete (.query _ _) => .tell .mutationSkipped dataset
  | .patch edits =>
    match dataset.position? edits.id, dataset.get? edits.id with
    | some place, some record =>
      (edits.reduce record.document tx).bind (fun revised =>
        match revised with
        | some doc => .pure (dataset.writeAt place doc)
        | none => .pure dataset)
    | _, _ => .pure dataset

/-- A batch, in order, up to the first mutation that fails. -/
def reduce (dataset : Dataset) (tx : Transaction) : List Mutation → Logged Dataset
  | [] => .pure dataset
  | mutation :: rest => (dataset.apply tx mutation).bind (fun next => next.reduce tx rest)

/-- Equality of datasets by value. -/
def equal (a b : Dataset) : Bool :=
  a.records.length == b.records.length
    && (a.documents.zip b.documents).all (fun (x, y) => x.equal y)

end Dataset

/-- What happened to a document between two datasets. -/
inductive ChangeKind where
  | create
  | update
  | delete
  deriving DecidableEq

/-- The name of what happened. -/
def ChangeKind.name : ChangeKind → String
  | .create => "create"
  | .update => "update"
  | .delete => "delete"

/-- What happened to the document with an id. -/
structure Change where
  id : String
  kind : ChangeKind
  deriving DecidableEq

/-- What happened to a record since the previous dataset. -/
def changeOf? (previous : Dataset) (record : Record) : Option Change :=
  match previous.get? record.id with
  | none => some ⟨record.id, .create⟩
  | some old => if old.same record then none else some ⟨record.id, .update⟩

namespace Dataset

/-- Documents created and updated, in the order of the current dataset, then documents deleted, in
the order of the previous one. -/
def diff (previous current : Dataset) : List Change :=
  current.records.filterMap (changeOf? previous)
    ++ (previous.records.filter (fun record => !current.contains record.id)).map
      (fun record => ⟨record.id, .delete⟩)

end Dataset

end DocumentStore
