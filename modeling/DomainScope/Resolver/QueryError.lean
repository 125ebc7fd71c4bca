/-
  DomainScope.Resolver.QueryError
  ───────────────────────────────
  **FAILED QUERIES.**

  That a name has no records is an answer, not a failure.
-/
import DomainScope.Record.Kind

namespace DomainScope

/-- What went wrong with a query. -/
inductive QueryFault where
  /-- No answer in time. -/
  | timeout
  /-- The server answered with an error code, given in words. -/
  | responseCode (text : Text)
  /-- Any other failure, with its cause in words. -/
  | lookup (cause : Text)
  deriving DecidableEq, Repr

/-- A failed query: the name and the kind asked for, and what went wrong. -/
structure QueryError where
  name : Text
  kind : RecordKind
  fault : QueryFault
  deriving DecidableEq, Repr

namespace QueryError

/-- Whether asking again may succeed. -/
def isTransient (e : QueryError) : Bool :=
  match e.fault with
  | .timeout => true
  | .responseCode _ => false
  | .lookup _ => true

/-- The query in words. -/
def query (e : QueryError) : Text :=
  "DNS ".toList ++ e.kind.name.toList ++ " query for ".toList ++ e.name

/-- The report on a failed query. -/
def message (e : QueryError) : Text :=
  match e.fault with
  | .timeout => e.query ++ " timed out".toList
  | .responseCode text => e.query ++ " answered ".toList ++ text
  | .lookup cause => e.query ++ " failed: ".toList ++ cause

/-- The causes behind the report. -/
def causes (e : QueryError) : List Text :=
  match e.fault with
  | .lookup cause => [cause]
  | _ => []

end QueryError

end DomainScope
