import DocumentStore.Document
import DocumentStore.Path.Parser
import DocumentStore.Query.Problem
import DocumentStore.TextPatch.Reader

/-!
# Faults

Everything that makes an operation fail, and the text of each fault.  What does not fail but is
worth telling is a `Notice`.

* `Fault`, `Fault.message`, `Fault.root` — faults, their texts, and the innermost cause.
* `Notice` — things worth telling.
* `Logged` — a result together with the notices given on the way, kept also when it fails.
* `Token.ofText`, `PathExpr.ofText` — paths read, with their faults.
-/

set_option autoImplicit false

namespace DocumentStore

/-- What was being done to a value of the wrong kind. -/
inductive Access where
  | get
  | set
  | unset
  | insert
  deriving DecidableEq

/-- The name of an access. -/
def Access.name : Access → String
  | .get => "get"
  | .set => "set"
  | .unset => "unset"
  | .insert => "insert"

/-- The kind of value that an operator needs. -/
inductive Needed where
  | number
  | finiteNumber
  | string
  deriving DecidableEq

/-- The name of what is needed. -/
def Needed.name : Needed → String
  | .number => "number"
  | .finiteNumber => "finite number"
  | .string => "string"

/-- An expression that cannot be used where it stands. -/
inductive Unsupported where
  | expression (expr : PathExpr)
  | equalityWithoutRight
  | unsetOf (expr : PathExpr)

/-- The text of an expression that cannot be used. -/
def Unsupported.message : Unsupported → String
  | .expression expr => expr.render
  | .equalityWithoutRight => "equality constraint without a right hand side"
  | .unsetOf expr => "unset needs an attribute as last segment, found `" ++ expr.render ++ "`"

/-- The operators of a patch. -/
inductive OperatorKind where
  | set
  | setIfMissing
  | unset
  | dec
  | inc
  | diffMatchPatch
  | insert
  deriving DecidableEq

/-- The name of an operator, as a patch writes it. -/
def OperatorKind.name : OperatorKind → String
  | .set => "set"
  | .setIfMissing => "setIfMissing"
  | .unset => "unset"
  | .dec => "dec"
  | .inc => "inc"
  | .diffMatchPatch => "diffMatchPatch"
  | .insert => "insert"

/-- What makes an operation fail. -/
inductive Fault where
  /-- No token starts at this byte of the path. -/
  | badToken (path : String) (offset : Nat)
  | badPath (path : String) (problem : PathProblem)
  | typeMismatch (needed : Needed) (found : Option Kind)
  | notARecord (access : Access)
  | notAnArray (access : Access)
  | indexOutOfRange (index : Int) (length : Nat)
  | unsupportedExpression (what : Unsupported)
  | unsupportedRelation (relation : Relation)
  | badDocument (problem : DocumentProblem)
  | immutableId (id : String)
  | badTextPatch (problem : TextPatchProblem)
  | query (fault : QueryFault)
  /-- An operator of a patch failed on a document. -/
  | operator (kind : OperatorKind) (path id : String) (cause : Fault)

namespace Fault

/-- The name of the kind found, or of its absence. -/
def foundName : Option Kind → String
  | some kind => kind.name
  | none => "missing"

/-- The text of a fault. -/
def message : Fault → String
  | .badToken path offset =>
    "invalid tokens in path `" ++ path ++ "` at offset " ++ toString offset
  | .badPath path problem => "could not parse path `" ++ path ++ "`: " ++ problem.message
  | .typeMismatch needed found =>
    "type mismatch: expected " ++ needed.name ++ ", found " ++ foundName found
  | .notARecord access => access.name ++ ": source is not a record"
  | .notAnArray access => access.name ++ ": source is not an array"
  | .indexOutOfRange index length =>
    "index " ++ String.ofList (intText index) ++ " out of range for array of length "
      ++ toString length
  | .unsupportedExpression what => "unsupported expression: " ++ what.message
  | .unsupportedRelation relation => "unsupported operator: " ++ relation.symbol
  | .badDocument problem => "invalid document: " ++ problem.message
  | .immutableId id => "patch would change the immutable id of document `" ++ id ++ "`"
  | .badTextPatch problem => "invalid diff-match-patch text: " ++ problem.message
  | .query fault => "query error: " ++ fault.message
  | .operator kind path id cause =>
    kind.name ++ " `" ++ path ++ "` on document `" ++ id ++ "` failed: " ++ cause.message

/-- The innermost cause of a fault. -/
def root : Fault → Fault
  | .operator _ _ _ cause => cause.root
  | fault => fault

end Fault

/-- Something worth telling that is no failure. -/
inductive Notice where
  | segmentNotFound (path : String) (segment : PathExpr)
  | anchorNotFound (anchor : String)
  | alreadyExists (id : String)
  | duplicateId (id : String)
  | mutationSkipped
  | transactionAborted
  | listenerSkipped

namespace Notice

/-- The text of a notice. -/
def message : Notice → String
  | .segmentNotFound _ _ => "path segment not found, leaving value unchanged"
  | .anchorNotFound _ => "insert anchor not found, leaving value unchanged"
  | .alreadyExists _ => "document already exists, skipping create"
  | .duplicateId _ => "duplicate document id, keeping the first"
  | .mutationSkipped => "skipping mutation"
  | .transactionAborted => "transaction aborted"
  | .listenerSkipped => "listener query failed, skipping listener"

/-- What a notice is about, by name. -/
def details : Notice → List (String × String)
  | .segmentNotFound path segment => [("path", path), ("segment", segment.render)]
  | .anchorNotFound anchor => [("anchor", anchor)]
  | .alreadyExists id => [("document_id", id)]
  | .duplicateId id => [("document_id", id)]
  | .mutationSkipped => []
  | .transactionAborted => []
  | .listenerSkipped => []

end Notice

/-- A result with the notices given on the way.  A failure keeps the notices before it. -/
structure Logged (α : Type) where
  notices : List Notice
  result : Except Fault α

namespace Logged

variable {α β : Type}

/-- A result without notices. -/
def pure (value : α) : Logged α := ⟨[], .ok value⟩

/-- A failure. -/
def fail (fault : Fault) : Logged α := ⟨[], .error fault⟩

/-- A result with one notice. -/
def tell (notice : Notice) (value : α) : Logged α := ⟨[notice], .ok value⟩

/-- One step after another; the second only when the first succeeds. -/
def bind (first : Logged α) (next : α → Logged β) : Logged β :=
  match first.result with
  | .ok value => ⟨first.notices ++ (next value).notices, (next value).result⟩
  | .error fault => ⟨first.notices, .error fault⟩

instance : Monad Logged where
  pure := pure
  bind := bind

/-- The result of two steps is that of their results. -/
theorem result_bind (first : Logged α) (next : α → Logged β) :
    (first.bind next).result = first.result.bind (fun value => (next value).result) := by
  unfold bind Except.bind
  cases first.result <;> rfl

end Logged

/-- The tokens of a path. -/
def Token.ofText (path : String) : Except Fault (List Token) :=
  match tokensOf path.toList with
  | .ok tokens => .ok tokens
  | .error rest => .error (.badToken path (utf8Length path.toList - utf8Length rest))

/-- The expression that the tokens of a path write. -/
def PathExpr.ofTokensOf (path : String) (tokens : List Token) : Except Fault PathExpr :=
  match PathExpr.ofTokens tokens with
  | .ok expr => .ok expr
  | .error problem => .error (.badPath path problem)

/-- The expression that a path writes. -/
def PathExpr.ofText (path : String) : Except Fault PathExpr :=
  (Token.ofText path).bind (PathExpr.ofTokensOf path)

end DocumentStore
