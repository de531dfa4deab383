import StageStock.Json

/-!
# Notices of failure

A `Notice` is what a caller is told when the ledger declines a request: the kind of failure, its
wording and, where they help, a bound, conflicts, warnings, details and broken rules. Parts that are
empty are left out of the notice as it is shown (`Notice.payload`); only a broken invariant always
shows its list of broken rules.
-/

namespace StageStock

/-- The kinds of failure. -/
inductive NoticeKind where
  /-- A failure of no special kind. -/
  | general
  /-- The request itself is wrong. -/
  | validation
  /-- The request contradicts what others hold. -/
  | conflict
  | notFound
  /-- The ledger was busy or has moved on. -/
  | concurrency
  /-- The request would have broken a rule of the ledger. -/
  | invariant
  deriving DecidableEq, Repr

namespace NoticeKind

/-- The name of a kind. -/
def text : NoticeKind → String
  | general => "LedgerError"
  | validation => "ValidationError"
  | conflict => "ConflictError"
  | notFound => "NotFoundError"
  | concurrency => "ConcurrencyError"
  | invariant => "InvariantViolation"

/-- The status of an answer over HTTP. -/
def httpStatus : NoticeKind → Nat
  | general => 400
  | validation => 400
  | conflict => 409
  | notFound => 404
  | concurrency => 503
  | invariant => 500

end NoticeKind

/-- What a caller is told about a failure. -/
structure Notice where
  kind : NoticeKind
  message : String
  /-- The number that would have been acceptable. -/
  bound : Option Int := none
  conflicts : List Json := []
  warnings : List Json := []
  details : List (String × Json) := []
  /-- The rules that would have been broken. -/
  violations : List String := []
  /-- Whether the same request may succeed later. -/
  retryable : Bool := false
  deriving Repr

namespace Notice

/-- A field that is left out when it holds nothing. -/
def fieldUnless (empty : Bool) (key : String) (value : Json) : List (String × Json) :=
  if empty then [] else [(key, value)]

/-- The notice as it is shown. -/
def payload (n : Notice) : List (String × Json) :=
  [("errorKind", .str n.kind.text), ("message", .str n.message)]
    ++ (match n.bound with
      | some b => [("bound", .int b)]
      | none => [])
    ++ fieldUnless n.conflicts.isEmpty "conflicts" (.arr n.conflicts)
    ++ fieldUnless n.warnings.isEmpty "warnings" (.arr n.warnings)
    ++ fieldUnless n.details.isEmpty "details" (.obj n.details)
    ++ fieldUnless (n.kind ≠ .invariant) "violations" (.arr (n.violations.map .str))

/-- The status of an answer over HTTP. -/
def httpStatus (n : Notice) : Nat :=
  n.kind.httpStatus

end Notice

end StageStock
