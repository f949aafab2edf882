import DocumentStore.Path.Expr
import DocumentStore.Json.Number

/-!
# Reading paths

A recursive-descent reader over the tokens of a path.  A rule that does not apply gives `none`
and takes nothing; a rule that breaks off in the middle gives the problem found.

    Path       = (Attribute | Union) Tail | Recursive
    Tail       = { "." Attribute | Union } [ Recursive ]
    Recursive  = ".." Path
    Union      = "[" Term { "," Term } "]"
    Term       = Constraint | Path | Slice
    Constraint = (Attribute | Alias) ("?" | Comparator Literal)
    Slice      = Number [ ":" Number [ ":" [ Number ] ] ]

* `PathProblem` — how tokens fail to be a path, and the text of each problem.
* `PathExpr.ofTokens` — the path that a list of tokens writes.
-/

set_option autoImplicit false

namespace DocumentStore

/-- How tokens fail to be a path. -/
inductive PathProblem where
  | expectedPath
  | unexpected (token : Token)
  | expectedInteger (x : Binary64)
  | needsLiteral (comparator : Comparator)
  | expectedFirstTerm
  | expectedNextTerm
  | expectedClosing
  | expectedDescent
  | expectedAttribute
  deriving DecidableEq

/-- The text of a problem. -/
def PathProblem.message : PathProblem → String
  | .expectedPath => "expected a path"
  | .unexpected token => "unexpected " ++ token.listing ++ " after path"
  | .expectedInteger x =>
    "expected an integer, found " ++ String.ofList (NumberLayout.path.text x)
  | .needsLiteral c =>
    "operator " ++ c.symbol ++ " needs a literal value at the right hand side"
  | .expectedFirstTerm => "expected expression following '['"
  | .expectedNextTerm => "expected expression following ','"
  | .expectedClosing => "expected ]"
  | .expectedDescent => "expected path following '..' operator"
  | .expectedAttribute => "expected attribute name following '.'"

/-- What a rule that may not apply finds: nothing, or a result and the tokens behind it. -/
abbrev Found (α : Type) := Option (α × List Token)

namespace PathExpr

/-- An attribute: an identifier or a text in single quotes. -/
def attribute? : List Token → Found PathExpr
  | .identifier name :: rest => some (.attribute name, rest)
  | .quoted name .single :: rest => some (.attribute name, rest)
  | _ => none

/-- An alias. -/
def alias? : List Token → Found PathExpr
  | .alias _ :: rest => some (.alias, rest)
  | _ => none

/-- A number, when there is one. -/
def takeNumber : List Token → Option Binary64 × List Token
  | .number n :: rest => (some n.toBinary64, rest)
  | tokens => (none, tokens)

/-- The integer of an integral double, held in the signed range. -/
def integral (x : Binary64) : Except PathProblem Int :=
  match x.toIntClamped? minSigned maxSigned with
  | some i => .ok i
  | none => .error (.expectedInteger x)

/-- The step of a range, when there is one. -/
def integralStep : Option Binary64 → Except PathProblem (Option Int)
  | some x => (integral x).map some
  | none => .ok none

/-- The last two parts of a range, behind its first colon. -/
def rangeTail (tokens : List Token) : Option Binary64 × Option Binary64 × List Token :=
  let (last, rest) := takeNumber tokens
  match rest with
  | .joint .colon :: rest =>
    let (step, rest) := takeNumber rest
    (last, step, rest)
  | rest => (last, none, rest)

/-- An index or a range.  A range without one of its ends is none. -/
def readSlice (tokens : List Token) : Except PathProblem (Found PathExpr) :=
  let (first, rest) := takeNumber tokens
  match first, rest with
  | some first, .joint .colon :: rest =>
    match rangeTail rest with
    | (some last, step, rest) => do
      let first ← integral first
      let last ← integral last
      let step ← integralStep step
      .ok (some (.range first last step, rest))
    | (none, _, _) => .ok none
  | some i, rest => do
    let i ← integral i
    .ok (some (.index i, rest))
  | none, _ => .ok none

/-- A literal: a text in double quotes, a truth value or a number. -/
def literal? : List Token → Found PathExpr
  | .quoted text .double :: rest => some (.string text, rest)
  | .boolean b :: rest => some (.boolean b, rest)
  | .number n :: rest => some (.number n.toBinary64, rest)
  | _ => none

/-- A constraint.  An attribute without a relation behind it is none. -/
def readConstraint (tokens : List Token) : Except PathProblem (Found PathExpr) :=
  match attribute? tokens <|> alias? tokens with
  | none => .ok none
  | some (left, .joint .question :: rest) => .ok (some (.constraint .present left none, rest))
  | some (left, .comparator c :: rest) =>
    match literal? rest with
    | some (right, rest) => .ok (some (.constraint (.compare c) left (some right), rest))
    | none => .error (.needsLiteral c)
  | some _ => .ok none

mutual

/-- The segments of a path. -/
def readPath (fuel : Nat) (tokens : List Token) : Except PathProblem (Found (List PathExpr)) :=
  match fuel with
  | 0 => .ok none
  | fuel + 1 =>
    match attribute? tokens with
    | some (head, rest) => do
      let (segments, rest) ← readTail fuel rest
      .ok (some (head :: segments, rest))
    | none =>
      match tokens with
      | .bracket .opening :: rest => do
        let (terms, rest) ← readUnion fuel rest
        let (segments, rest) ← readTail fuel rest
        .ok (some (.union terms :: segments, rest))
      | .joint .descent :: rest => do
        match ← readPath fuel rest with
        | some (segments, rest) => .ok (some ([.recursive (.path segments)], rest))
        | none => .error .expectedDescent
      | _ => .ok none

/-- The segments behind the first. -/
def readTail (fuel : Nat) (tokens : List Token) :
    Except PathProblem (List PathExpr × List Token) :=
  match fuel with
  | 0 => .ok ([], tokens)
  | fuel + 1 =>
    match tokens with
    | .joint .dot :: rest =>
      match attribute? rest with
      | some (name, rest) => do
        let (segments, rest) ← readTail fuel rest
        .ok (name :: segments, rest)
      | none => .error .expectedAttribute
    | .bracket .opening :: rest => do
      let (terms, rest) ← readUnion fuel rest
      let (segments, rest) ← readTail fuel rest
      .ok (.union terms :: segments, rest)
    | .joint .descent :: rest => do
      match ← readPath fuel rest with
      | some (segments, rest) => .ok ([.recursive (.path segments)], rest)
      | none => .error .expectedDescent
    | tokens => .ok ([], tokens)

/-- The terms of a union, behind its opening bracket. -/
def readUnion (fuel : Nat) (tokens : List Token) :
    Except PathProblem (List PathExpr × List Token) :=
  match fuel with
  | 0 => .error .expectedFirstTerm
  | fuel + 1 => do
    match ← readTerm fuel tokens with
    | some (first, rest) =>
      let (terms, rest) ← readTerms fuel rest
      .ok (first :: terms, rest)
    | none => .error .expectedFirstTerm

/-- The terms of a union behind its first one, and its closing bracket. -/
def readTerms (fuel : Nat) (tokens : List Token) :
    Except PathProblem (List PathExpr × List Token) :=
  match fuel with
  | 0 => .error .expectedClosing
  | fuel + 1 =>
    match tokens with
    | .bracket .closing :: rest => .ok ([], rest)
    | .joint .comma :: rest => do
      match ← readTerm fuel rest with
      | some (term, rest) =>
        let (terms, rest) ← readTerms fuel rest
        .ok (term :: terms, rest)
      | none => .error .expectedNextTerm
    | _ => .error .expectedClosing

/-- One term of a union. -/
def readTerm (fuel : Nat) (tokens : List Token) : Except PathProblem (Found PathExpr) :=
  match fuel with
  | 0 => .ok none
  | fuel + 1 => do
    match ← readConstraint tokens with
    | some result => .ok (some result)
    | none =>
      match ← readPath fuel tokens with
      | some (segments, rest) => .ok (some (.path segments, rest))
      | none => readSlice tokens

end

/-- Enough fuel for a list of tokens: between two tokens taken there are at most three rules. -/
def fuelFor (tokens : List Token) : Nat := 4 * tokens.length + 4

/-- The path that a list of tokens writes. -/
def ofTokens (tokens : List Token) : Except PathProblem PathExpr := do
  match ← readPath (fuelFor tokens) tokens with
  | some (segments, []) => .ok (.path segments)
  | some (_, token :: _) => .error (.unexpected token)
  | none => .error .expectedPath

end PathExpr

end DocumentStore
