/-
  DomainScope.Resolver.Reply
  ──────────────────────────
  **WHAT COMES BACK FROM A QUERY.**

  A query is answered with records, with a response code and no records, or
  not at all.  Two response codes mean that there are no records, all others
  are failures.  How a failure is worded, by the code or by its cause, is up to
  the resolver library: the words come with the reply, and nothing is assumed
  of them.
-/
import DomainScope.Record.Data
import DomainScope.Resolver.QueryError

namespace DomainScope

/-! ## §1. Response codes. -/

/-- A response code.  Two of them are told apart from all others. -/
inductive ResponseCode where
  /-- Nothing is wrong. -/
  | noError
  /-- There is no such name. -/
  | noSuchName
  /-- Any other code, with the words that the resolver library prints for it. -/
  | other (words : Text)
  deriving DecidableEq, Repr

/-! ## §2. Replies. -/

/-- What comes back from one attempt to query. -/
inductive Reply where
  /-- Records, among them those of aliases followed on the way. -/
  | answer (records : List RecordData)
  /-- No records, and why. -/
  | noRecords (code : ResponseCode)
  /-- Nothing in time. -/
  | timeout
  /-- Any other failure. -/
  | failure (cause : Text)
  deriving DecidableEq, Repr

/-- A source of replies: to a query for a name and a kind, at an attempt
counted from zero. -/
abbrev ReplySource := Text → RecordKind → Nat → Reply

/-- The meaning of a reply: records, or none, or a failure. -/
def Reply.meaning (name : Text) (kind : RecordKind) :
    Reply → Except QueryError (Option (List RecordData))
  | .answer records => .ok (some records)
  | .noRecords .noError => .ok none
  | .noRecords .noSuchName => .ok none
  | .noRecords (.other words) => .error ⟨name, kind, .responseCode words⟩
  | .timeout => .error ⟨name, kind, .timeout⟩
  | .failure cause => .error ⟨name, kind, .lookup cause⟩

end DomainScope
