/-
  DomainScope.Resolver.Survey
  ───────────────────────────
  **ALL RECORDS OF A NAME.**

  A survey asks for every kind of record, one after the other.  Records of a
  kind for which the name is covered by a wildcard are left out, since they say
  nothing about the name itself.  A kind that fails does not stop the others,
  and records are kept when it cannot be told whether they come from a
  wildcard.  Only an invalid name stops the survey.
-/
import DomainScope.Resolver.Client
import DomainScope.Wildcard.Verdict

namespace DomainScope

/-- The records found and the failures met. -/
structure Survey where
  records : List Record := []
  errors : List (ProbeError QueryError) := []
  deriving DecidableEq, Repr

/-- Two surveys, one after the other. -/
def Survey.append (s t : Survey) : Survey := ⟨s.records ++ t.records, s.errors ++ t.errors⟩

namespace Client

/-- Checks in sequence whether a name is covered by a wildcard, for a kind or any. -/
def isWildcard (c : Client) (d : Decomposer) (labels : LabelSource) (kind : Option RecordKind)
    (name : Text) : Except (ProbeError QueryError) Bool :=
  (wildcardInSequence d labels (fun _ => c.probe kind) name).verdict

/-- The same with all probes at once. -/
def isWildcardAtOnce (c : Client) (d : Decomposer) (labels : LabelSource)
    (kind : Option RecordKind) (delay : Nat → Nat) (name : Text) :
    Except (ProbeError QueryError) Bool :=
  (wildcardAtOnce d labels (fun _ => c.probe kind) delay name).verdict

/-- What one kind adds to a survey. -/
def surveyKind (c : Client) (d : Decomposer) (labels : LabelSource) (name : Text)
    (kind : RecordKind) : Except Unprintable Survey :=
  match c.lookup name kind with
  | .error (.unprintable e) => .error e
  | .error (.query e) => .ok { errors := [.probe e] }
  | .ok [] => .ok {}
  | .ok (first :: rest) =>
    -- Made-up names that have records of this kind say where these come from.
    match c.isWildcard d labels (some kind) name with
    | .ok false => .ok { records := first :: rest }
    | .ok true => .ok {}
    | .error e => .ok { records := first :: rest, errors := [e] }

/-- What some kinds add to a survey, in order. -/
def surveyKinds (c : Client) (d : Decomposer) (labels : RecordKind → LabelSource) (name : Text) :
    List RecordKind → Except Unprintable Survey
  | [] => .ok {}
  | kind :: rest => do
    let here ← c.surveyKind d (labels kind) name kind
    let later ← c.surveyKinds d labels name rest
    return here.append later

/-- The survey of a name. -/
def survey (c : Client) (d : Decomposer) (labels : RecordKind → LabelSource) (name : Text) :
    Except Unprintable Survey :=
  match Name.validate d.policy name with
  | .error e => .ok { errors := [.invalidName e] }
  | .ok () => c.surveyKinds d labels name RecordKind.all

end Client

end DomainScope
