/-!
# Problems of queries

How a text fails to be a query, and where.  The place is a count of UTF-8 bytes.
-/

set_option autoImplicit false

namespace DocumentStore

/-- How a text fails to be a query. -/
inductive QueryProblem where
  | expected (c : Char)
  | trailing
  | expectedIdentifier
  | expectedInteger
  | badInteger (raw : List Char)
  | expectedNumber
  | badNumber (raw : List Char)
  | unterminated
  | missingParameter (name : String)
  | unknownFunction (name : String)
  | badOperand
  deriving DecidableEq

/-- The text of a problem. -/
def QueryProblem.message : QueryProblem → String
  | .expected c => "expected '" ++ String.ofList [c] ++ "'"
  | .trailing => "unsupported query syntax"
  | .expectedIdentifier => "identifier expected"
  | .expectedInteger => "expected integer"
  | .badInteger raw => "bad integer `" ++ String.ofList raw ++ "`"
  | .expectedNumber => "number expected"
  | .badNumber raw => "bad number `" ++ String.ofList raw ++ "`"
  | .unterminated => "unterminated string"
  | .missingParameter name => "param $" ++ name ++ " referenced, but not provided"
  | .unknownFunction name => "unknown function `" ++ name ++ "`"
  | .badOperand => "invalid operand"

/-- Why a query has no answer: its text is malformed, or the evaluator refuses it. -/
inductive QueryFault where
  | malformed (query : String) (offset : Nat) (problem : QueryProblem)
  | refused (reason : String)
  deriving DecidableEq

/-- The text of a fault. -/
def QueryFault.message : QueryFault → String
  | .malformed query offset problem =>
    problem.message ++ " at offset " ++ toString offset ++ " in `" ++ query ++ "`"
  | .refused reason => reason

end DocumentStore
