import DocumentStore.Path.Tokens

/-!
# Path expressions

A path is a tree.  A path that was read is a list of segments: attributes, unions and, in last
place, a recursive descent; a union holds paths, indices, ranges and constraints.  The type also
holds every other tree that a caller may build.

* `PathExpr`, `Relation` — the trees, and the relation that a constraint asks for.
* `PathExpr.text` — the path as it is written.
* `PathExpr.equal` — equality, numbers compared as doubles.
* `PathExpr.singleIndex?`, `PathExpr.singleConstraint?` — unions of one term.
-/

set_option autoImplicit false

namespace DocumentStore

/-- What a constraint asks of its left side: to be there, or to compare with its right side. -/
inductive Relation where
  | present
  | compare (comparator : Comparator)
  deriving DecidableEq

/-- A relation as it is written. -/
def Relation.symbol : Relation → String
  | .present => "?"
  | .compare c => c.symbol

/-- The relation that a sign writes. -/
def Relation.ofSymbol? (symbol : String) : Option Relation :=
  [.present, .compare .gt, .compare .ge, .compare .lt, .compare .le, .compare .eq,
    .compare .ne].find? (fun (r : Relation) => r.symbol == symbol)

/-- A path expression. -/
inductive PathExpr where
  /-- The value being looked at. -/
  | alias
  | attribute (name : String)
  | index (i : Int)
  | range (first last : Int) (step : Option Int)
  | union (terms : List PathExpr)
  | constraint (relation : Relation) (left : PathExpr) (right : Option PathExpr)
  | path (segments : List PathExpr)
  | recursive (term : PathExpr)
  | string (text : String)
  | number (x : Binary64)
  | boolean (b : Bool)

/-- Whether a name is written without quotes: an identifier that is no truth value. -/
def isPlainName (name : List Char) : Bool :=
  match name with
  | [] => false
  | c :: rest =>
    isIdentifierStart c && rest.all isIdentifierPart
      && name != "true".toList && name != "false".toList

/-- An attribute name as it is written. -/
def attributeText (name : String) : List Char :=
  if isPlainName name.toList then name.toList else quote '\'' name.toList

/-- Texts joined by commas. -/
def commaSeparated : List (List Char) → List Char
  | [] => []
  | [text] => text
  | text :: rest => text ++ ',' :: commaSeparated rest

namespace PathExpr

/-- The index that addresses one item. -/
def atIndex (i : Int) : PathExpr := .union [.index i]

/-- The constraint that looks an item up by the text of one of its attributes. -/
def whereEqual (name text : String) : PathExpr :=
  .union [.constraint (.compare .eq) (.attribute name) (some (.string text))]

/-- The segments of a path; any other expression is its own single segment. -/
def segments : PathExpr → List PathExpr
  | .path segments => segments
  | expr => [expr]

/-- Whether a dot stands before a segment that is not the first. -/
def needsDot : PathExpr → Bool
  | .attribute _ => true
  | _ => false

mutual

/-- A path expression as it is written. -/
def text : PathExpr → List Char
  | .alias => ['@']
  | .attribute name => attributeText name
  | .index i => intText i
  | .range first last step =>
    intText first ++ ':' :: (intText last ++
      (match step with
        | some step => ':' :: intText step
        | none => []))
  | .union terms => '[' :: (commaSeparated (termTexts terms) ++ [']'])
  | .constraint relation left right => text left ++ relation.symbol.toList ++ rightText right
  | .path segments =>
    match segments with
    | [] => []
    | first :: rest => text first ++ tailText rest
  | .recursive term => '.' :: '.' :: text term
  | .string s => quote '"' s.toList
  | .number x => NumberLayout.path.text x
  | .boolean b => (boolText b).toList

/-- The terms of a union as they are written. -/
def termTexts : List PathExpr → List (List Char)
  | [] => []
  | term :: rest => text term :: termTexts rest

/-- The right side of a constraint as it is written. -/
def rightText : Option PathExpr → List Char
  | some right => text right
  | none => []

/-- The segments behind the first as they are written. -/
def tailText : List PathExpr → List Char
  | [] => []
  | segment :: rest => (if segment.needsDot then ['.'] else []) ++ text segment ++ tailText rest

end

/-- A path expression as it is written. -/
def render (expr : PathExpr) : String := String.ofList expr.text

mutual

/-- Equality of path expressions; numbers are compared as doubles. -/
def equal : PathExpr → PathExpr → Bool
  | .alias, .alias => true
  | .attribute a, .attribute b => a == b
  | .index i, .index j => i == j
  | .range a b s, .range c d t => a == c && b == d && s == t
  | .union a, .union b => equalAll a b
  | .constraint r a x, .constraint q b y => decide (r = q) && equal a b && equalRight x y
  | .path a, .path b => equalAll a b
  | .recursive a, .recursive b => equal a b
  | .string a, .string b => a == b
  | .number x, .number y => x.equal y
  | .boolean a, .boolean b => a == b
  | _, _ => false

/-- Equality one by one. -/
def equalAll : List PathExpr → List PathExpr → Bool
  | [], [] => true
  | a :: as, b :: bs => equal a b && equalAll as bs
  | _, _ => false

/-- Equality of right sides. -/
def equalRight : Option PathExpr → Option PathExpr → Bool
  | none, none => true
  | some a, some b => equal a b
  | _, _ => false

end

/-- The index of a union that holds one index and nothing else. -/
def singleIndex? : PathExpr → Option Int
  | .union [.index i] => some i
  | _ => none

/-- The constraint of a union that holds one constraint and nothing else. -/
def singleConstraint? : PathExpr → Option (Relation × PathExpr × Option PathExpr)
  | .union [.constraint relation left right] => some (relation, left, right)
  | _ => none

end PathExpr

end DocumentStore
