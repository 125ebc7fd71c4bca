/-
  DomainScope.Resolver.Client
  ───────────────────────────
  **ASKING FOR RECORDS.**

  A query is tried again while its failures are transient and attempts are
  left.  Its records are turned into values, of which those of the kind asked
  for are kept; for the question whether a name exists any record counts.

  Main definitions
    `Client.attempt`    a query with its attempts counted
    `Client.lookup`     the values of a kind
    `Client.isFound`, `Client.isFoundAny`, `Client.probe`   existence
-/
import DomainScope.Record.Value
import DomainScope.Resolver.Backoff
import DomainScope.Resolver.Reply

namespace DomainScope

/-! ## §1. Attempts. -/

/-- A result and the number of attempts that it took. -/
structure Attempted (α : Type) where
  attempts : Nat
  result : Except QueryError α

/-- Takes the outcomes from number `i` on, one after the other, until one is
not a transient failure or `more` further ones have been taken. -/
def retryFrom {α : Type} (outcome : Nat → Except QueryError α) (i : Nat) : Nat → Attempted α
  | 0 => ⟨i + 1, outcome i⟩
  | more + 1 =>
    match outcome i with
    | .ok a => ⟨i + 1, .ok a⟩
    | .error e => if e.isTransient then retryFrom outcome (i + 1) more else ⟨i + 1, .error e⟩

/-! ## §2. Clients. -/

/-- A source of replies and the delays between attempts. -/
structure Client where
  source : ReplySource
  backoff : Backoff := .standard

/-- Why a look-up gives no values. -/
inductive LookupError where
  /-- The query failed. -/
  | query (e : QueryError)
  /-- A record has no printed form. -/
  | unprintable (e : Unprintable)
  deriving DecidableEq, Repr

namespace Client

/-- Asks for the records of a kind. -/
def attempt (c : Client) (name : Text) (kind : RecordKind) :
    Attempted (Option (List RecordData)) :=
  retryFrom (fun i => (c.source name kind i).meaning name kind) 0 c.backoff.delays.length

/-- The records found, or none. -/
def query (c : Client) (name : Text) (kind : RecordKind) :
    Except QueryError (Option (List RecordData)) :=
  (c.attempt name kind).result

/-- The values of some records that are of a kind. -/
def valuesOfKind (kind : RecordKind) (records : List RecordData) :
    Except Unprintable (List Record) := do
  let values ← Record.ofAnswers records
  return values.filter (·.kind = kind)

/-- The values of a kind that a name has. -/
def lookup (c : Client) (name : Text) (kind : RecordKind) : Except LookupError (List Record) :=
  match c.query name kind with
  | .error e => .error (.query e)
  | .ok none => .ok []
  | .ok (some records) => (valuesOfKind kind records).mapError .unprintable

/-- Whether a query for a kind finds any record. -/
def isFound (c : Client) (name : Text) (kind : RecordKind) : Except QueryError Bool :=
  match c.query name kind with
  | .error e => .error e
  | .ok none => .ok false
  | .ok (some records) => .ok (!records.isEmpty)

/-- Asks for one kind after the other, up to the first that is found or fails. -/
def isFoundAmong (c : Client) (name : Text) : List RecordKind → Except QueryError Bool
  | [] => .ok false
  | kind :: rest =>
    match c.isFound name kind with
    | .error e => .error e
    | .ok true => .ok true
    | .ok false => c.isFoundAmong name rest

/-- Whether a name has records of any kind that tells its existence. -/
def isFoundAny (c : Client) (name : Text) : Except QueryError Bool :=
  c.isFoundAmong name RecordKind.existenceOrder

/-- Whether a name has records of a kind, or of any. -/
def probe (c : Client) (kind : Option RecordKind) (name : Text) : Except QueryError Bool :=
  match kind with
  | some kind => c.isFound name kind
  | none => c.isFoundAny name

end Client

end DomainScope
