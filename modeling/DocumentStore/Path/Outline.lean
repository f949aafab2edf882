import DocumentStore.Path.Expr

/-!
# Outlines of paths

How the tree of a path is shown: every part on a line of its own, four blanks to a level, a comma
behind it.

* `Outline` — the shape of what is shown.
* `Outline.text` — its lines.
* `PathExpr.outline` — the outline of a path.
-/

set_option autoImplicit false

namespace DocumentStore

/-- The shape of what is shown: a word, parts in a bracket behind a name, named parts in braces,
or a list. -/
inductive Outline where
  | word (text : String)
  | call (name : String) (parts : List Outline)
  | record (name : String) (parts : List (String × Outline))
  | list (parts : List Outline)

/-- Lines between an opening and a closing text, one level deeper than `depth`. -/
def outlineBlock (depth : Nat) (opening closing : String) (lines : List String) : String :=
  let margin (levels : Nat) : String := "".pushn ' ' (4 * levels)
  if lines.isEmpty then opening ++ closing
  else
    opening ++ "\n" ++ String.join (lines.map (fun line => margin (depth + 1) ++ line ++ ",\n"))
      ++ margin depth ++ closing

namespace Outline

mutual

/-- The lines of an outline that stands `depth` levels deep. -/
def textAt (depth : Nat) : Outline → String
  | .word text => text
  | .call name parts => outlineBlock depth (name ++ "(") ")" (textsAt (depth + 1) parts)
  | .record name parts =>
    outlineBlock depth (name ++ " \x7b") "\x7d" (namedTextsAt (depth + 1) parts)
  | .list parts => outlineBlock depth "[" "]" (textsAt (depth + 1) parts)

/-- The lines of parts. -/
def textsAt (depth : Nat) : List Outline → List String
  | [] => []
  | part :: rest => textAt depth part :: textsAt depth rest

/-- The lines of named parts. -/
def namedTextsAt (depth : Nat) : List (String × Outline) → List String
  | [] => []
  | (name, part) :: rest => (name ++ ": " ++ textAt depth part) :: namedTextsAt depth rest

end

/-- The lines of an outline. -/
def text (outline : Outline) : String := textAt 0 outline

/-- An integer. -/
def ofInt (i : Int) : Outline := .word (String.ofList (intText i))

/-- Something that may be missing. -/
def ofOption : Option Outline → Outline
  | some part => .call "Some" [part]
  | none => .word "None"

end Outline

/-- The name of a relation in an outline. -/
def Relation.outlineName : Relation → String
  | .present => "Exists"
  | .compare .gt => "Gt"
  | .compare .ge => "Gte"
  | .compare .lt => "Lt"
  | .compare .le => "Lte"
  | .compare .eq => "Eq"
  | .compare .ne => "Ne"

namespace PathExpr

mutual

/-- The outline of a path. -/
def outline : PathExpr → Outline
  | .alias => .word "Alias"
  | .attribute name => .call "Attribute" [.word (listingText name)]
  | .index i => .call "Index" [.ofInt i]
  | .range first last step =>
    .record "Range" [("start", .ofInt first), ("end", .ofInt last),
      ("step", .ofOption (step.map .ofInt))]
  | .union terms => .call "Union" [.list (outlines terms)]
  | .constraint relation left right =>
    .call "Constraint" [.record "Constraint" [("operator", .word relation.outlineName),
      ("lhs", outline left), ("rhs", .ofOption (outlineRight right))]]
  | .path segments => .call "Path" [.list (outlines segments)]
  | .recursive term => .call "Recursive" [outline term]
  | .string s => .call "String" [.word (listingText s)]
  | .number x => .call "Number" [.word (String.ofList (NumberLayout.listing.text x))]
  | .boolean b => .call "Boolean" [.word (boolText b)]

/-- The outlines of several paths. -/
def outlines : List PathExpr → List Outline
  | [] => []
  | expr :: rest => outline expr :: outlines rest

/-- The outline of the right side of a constraint. -/
def outlineRight : Option PathExpr → Option Outline
  | some right => some (outline right)
  | none => none

end

end PathExpr

end DocumentStore
