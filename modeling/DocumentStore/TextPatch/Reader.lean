import DocumentStore.TextPatch.Basic
import DocumentStore.Binary64.Decimal
import DocumentStore.Text.Leading
import DocumentStore.Text.Pieces
import DocumentStore.Text.Utf8

/-!
# Reading text patches

A text patch is written in lines.  A header `@@ -start,length +start,length @@` begins a hunk; the
lines behind it start with a blank, a minus or a plus for a part kept, removed or added, and hold
the part with percent escapes.  Blank lines mean nothing.  A coordinate without a length is one
character long; starts count from one, except for the length written `0`, whose start is as
written.

* `TextPatchProblem` — how a text fails to be a patch.
* `hunksOf` — the hunks of a text.
-/

set_option autoImplicit false

namespace DocumentStore

/-- How a text fails to be a patch. -/
inductive TextPatchProblem where
  | badHeader (line : List Char)
  | badStart (digits : List Char)
  | badLength (digits : List Char)
  | badMode (sign : Char)
  | badEscape (line : List Char) (fault : Utf8Fault)
  deriving DecidableEq

/-- The text of a problem. -/
def TextPatchProblem.message : TextPatchProblem → String
  | .badHeader line => "invalid patch string: " ++ String.ofList line
  | .badStart digits => "bad start `" ++ String.ofList digits ++ "`"
  | .badLength digits => "bad length `" ++ String.ofList digits ++ "`"
  | .badMode sign => "invalid patch mode '" ++ String.ofList [sign] ++ "'"
  | .badEscape line fault =>
    "bad escape in `" ++ String.ofList line ++ "`: " ++ fault.message

/-- The digits of a start and a length at the start of a text, and the rest behind them. -/
def coordinateText? (text : List Char) : Option (List Char × List Char × List Char) :=
  match text.takeWhile isDecimalDigit with
  | [] => none
  | start =>
    let rest := text.dropWhile isDecimalDigit
    let rest := match rest with
      | ',' :: rest => rest
      | rest => rest
    some (start, rest.takeWhile isDecimalDigit, rest.dropWhile isDecimalDigit)

/-- The digits of the four numbers of a header. -/
def headerText? (line : List Char) :
    Option ((List Char × List Char) × (List Char × List Char)) := do
  let rest ← after? "@@ -".toList line
  let (start1, length1, rest) ← coordinateText? rest
  let rest ← after? " +".toList rest
  let (start2, length2, rest) ← coordinateText? rest
  if rest = " @@".toList then some ((start1, length1), (start2, length2)) else none

/-- A number below `2 ^ 64` in ASCII digits. -/
def natOfText? (digits : List Char) : Option Nat :=
  if digits.all isAsciiDigit && decide (natOfDigits digits < Nat.pow 2 64) then
    some (natOfDigits digits)
  else none

/-- The start and length that the digits of a coordinate write. -/
def coordinate (start length : List Char) : Except TextPatchProblem (Nat × Nat) :=
  match natOfText? start with
  | none => .error (.badStart start)
  | some n =>
    if length.isEmpty then .ok (n - 1, 1)
    else if length = ['0'] then .ok (n, 0)
    else match natOfText? length with
      | some count => .ok (n - 1, count)
      | none => .error (.badLength length)

/-- What the first character of a line does to the text. -/
def kindOfSign? (sign : Char) : Option DiffKind :=
  if sign = '-' then some .remove
  else if sign = '+' then some .add
  else if sign = ' ' then some .keep
  else none

/-- One line of a hunk. -/
def diffOfLine : List Char → Except TextPatchProblem (DiffKind × List Char)
  | [] => .ok (.keep, [])
  | sign :: text =>
    match kindOfSign? sign with
    | none => .error (.badMode sign)
    | some kind =>
      match decodeUtf8 (unescapeBytes text) with
      | .ok text => .ok (kind, text)
      | .error fault => .error (.badEscape (sign :: text) fault)

/-- The coordinates of a header line. -/
def headerOfLine (line : List Char) : Except TextPatchProblem ((Nat × Nat) × (Nat × Nat)) :=
  match headerText? line with
  | none => .error (.badHeader line)
  | some (old, new) => do
    let old ← coordinate old.1 old.2
    let new ← coordinate new.1 new.2
    .ok (old, new)

/-- Whether a line belongs to the hunk before it. -/
def isBodyLine (line : List Char) : Bool := line.head? != some '@'

/-- The lines of a hunk, one after the other. -/
def diffsOfLines : List (List Char) → Except TextPatchProblem (List (DiffKind × List Char))
  | [] => .ok []
  | line :: rest => do
    let diff ← diffOfLine line
    let diffs ← diffsOfLines rest
    .ok (diff :: diffs)

/-- The hunks that lines write, none of the lines blank. -/
def hunksOfLines (lines : List (List Char)) : Except TextPatchProblem (List Hunk) :=
  match lines with
  | [] => .ok []
  | header :: rest => do
    let (old, new) ← headerOfLine header
    let diffs ← diffsOfLines (rest.takeWhile isBodyLine)
    let hunks ← hunksOfLines (rest.dropWhile isBodyLine)
    .ok (⟨diffs, old.1, old.2, new.1, new.2⟩ :: hunks)
  termination_by lines.length
  decreasing_by
    have := (List.dropWhile_sublist (l := rest) isBodyLine).length_le
    simp only [List.length_cons]
    omega

/-- The hunks that a text writes. -/
def hunksOf (text : List Char) : Except TextPatchProblem (List Hunk) :=
  hunksOfLines ((piecesOf '\n' text).filter (fun line => !line.isEmpty))

end DocumentStore
