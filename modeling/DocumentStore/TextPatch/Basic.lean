/-!
# Text patches

A text patch is a list of hunks.  A hunk says where its source is expected and which parts of it
are kept, removed or added.  It goes where its source stands: at the expected place, or else at
the occurrence nearest to it.  How far a hunk was found from its place shifts what later hunks
expect.  Places count characters; their arithmetic is that of 64-bit signed integers.

* `Hunk`, `Hunk.source`, `Hunk.target` — a hunk, the text it finds and the text it leaves.
* `locate` — where a source stands.
* `applyHunks` — the patched text, and which hunks were applied.
-/

set_option autoImplicit false

namespace DocumentStore

/-- What a part of a hunk does to the text. -/
inductive DiffKind where
  | remove
  | keep
  | add
  deriving DecidableEq

/-- One place in a text patch.  The first start and length are of the old text, the second of the
new one. -/
structure Hunk where
  diffs : List (DiffKind × List Char)
  start1 : Nat
  length1 : Nat
  start2 : Nat
  length2 : Nat
  deriving DecidableEq

namespace Hunk

/-- The text that a hunk expects to find: what it keeps and removes. -/
def source (hunk : Hunk) : List Char :=
  ((hunk.diffs.filter (fun diff => diff.1 != .add)).map Prod.snd).flatten

/-- The text that a hunk leaves: what it keeps and adds. -/
def target (hunk : Hunk) : List Char :=
  ((hunk.diffs.filter (fun diff => diff.1 != .remove)).map Prod.snd).flatten

end Hunk

/-- The places, counted from `i`, where a pattern stands in a text. -/
def occurrencesFrom (pattern : List Char) (i : Nat) : List Char → List Nat
  | [] => []
  | c :: rest =>
    if pattern.isPrefixOf (c :: rest) then i :: occurrencesFrom pattern (i + 1) rest
    else occurrencesFrom pattern (i + 1) rest

/-- How far two places are apart. -/
def distance (i j : Nat) : Nat := (i - j) + (j - i)

/-- The place nearest to the expected one; of two equally near the first in the list. -/
def closest (expected : Nat) : List Nat → Option Nat
  | [] => none
  | i :: rest =>
    match closest expected rest with
    | none => some i
    | some j => some (if distance j expected < distance i expected then j else i)

/-- Where a pattern stands: at the expected place, or else nearest to it.  The expected place is
cut to the end of the text; an empty pattern stands there. -/
def locate (text pattern : List Char) (expected : Nat) : Option Nat :=
  let place := min expected text.length
  if pattern.isEmpty then some place
  else if pattern.isPrefixOf (text.drop place) then some place
  else closest place (occurrencesFrom pattern 0 text)

/-- An integer in the arithmetic of 64-bit signed integers. -/
def wrapSigned (n : Int) : Int := n.bmod (Nat.pow 2 64)

/-- The place where a hunk expects its source after a drift. -/
def expectedPlace (start : Nat) (drift : Int) : Nat :=
  (wrapSigned (wrapSigned start + drift)).toNat

/-- Text with `count` characters at `place` replaced. -/
def splice (text : List Char) (place count : Nat) (inserted : List Char) : List Char :=
  text.take place ++ inserted ++ text.drop (place + count)

/-- The text after the hunks, one after the other, and whether each was applied. -/
def applyHunksFrom (drift : Int) (text : List Char) : List Hunk → List Char × List Bool
  | [] => (text, [])
  | hunk :: rest =>
    let expected := expectedPlace hunk.start2 drift
    match locate text hunk.source expected with
    | some place =>
      let text := splice text place hunk.source.length hunk.target
      let drift := wrapSigned ((place : Int) - wrapSigned expected)
      let (text, applied) := applyHunksFrom drift text rest
      (text, true :: applied)
    | none =>
      let growth := wrapSigned (wrapSigned hunk.length2 - wrapSigned hunk.length1)
      let (text, applied) := applyHunksFrom (wrapSigned (drift - growth)) text rest
      (text, false :: applied)

/-- The text after the hunks, and whether each was applied. -/
def applyHunks (hunks : List Hunk) (text : List Char) : List Char × List Bool :=
  applyHunksFrom 0 text hunks

end DocumentStore
