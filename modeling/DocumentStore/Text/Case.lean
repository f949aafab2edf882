import DocumentStore.Text.CaseTable

/-!
# Letter case

Capital and small forms of text by the full Unicode mappings.  One character may become
several, and a capital sigma at the end of a word becomes the final small sigma.

* `toUpperText` — capital forms.
* `toLowerText` — small forms.
-/

set_option autoImplicit false

namespace DocumentStore

/-- The image of a character under the run that moves it, or the character itself. -/
def applyRuns (runs : List CaseRun) (c : Char) : Char :=
  let moves (run : CaseRun) : Bool :=
    let (first, last, step, _) := run
    decide (first ≤ c.toNat) && decide (c.toNat ≤ last) && (c.toNat - first) % step == 0
  match runs.find? moves with
  | some (_, _, _, distance) => Char.ofNat ((c.toNat : Int) + distance).toNat
  | none => c

/-- The capital form of a character. -/
def upperForm (c : Char) : List Char :=
  if c.toNat < 0x80 then [c.toUpper]
  else match upperExpansions.lookup c.toNat with
    | some form => form.map Char.ofNat
    | none => [applyRuns upperRuns c]

/-- The small form of a character outside any word. -/
def lowerForm (c : Char) : List Char :=
  if c.toNat < 0x80 then [c.toLower]
  else if c.toNat = 0x130 then ['i', Char.ofNat 0x307]
  else [applyRuns lowerRuns c]

/-- Whether the first character that is not passed over has a case. -/
def meetsCased (text : List Char) : Bool :=
  match text.dropWhile caseIgnorableRanges.contains with
  | c :: _ => casedRanges.contains c
  | [] => false

/-- The small form of `text`, which stands after the reverse of `before`. -/
def lowerAfter (before : List Char) : List Char → List Char
  | [] => []
  | c :: rest =>
    let form :=
      if c.toNat = 0x3A3 then
        [Char.ofNat (if meetsCased before && !meetsCased rest then 0x3C2 else 0x3C3)]
      else lowerForm c
    form ++ lowerAfter (c :: before) rest

/-- Text in capital letters. -/
def toUpperText (text : List Char) : List Char := text.flatMap upperForm

/-- Text in small letters. -/
def toLowerText (text : List Char) : List Char := lowerAfter [] text

end DocumentStore
