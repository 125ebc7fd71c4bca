/-
  DomainScope.CommandLine.Run
  ───────────────────────────
  **CARRYING OUT A COMMAND.**

  A command ends with a report, or with a failure: the suffix list cannot be
  set up, or a query for a single name fails.  A failure is told as a chain of
  messages from the outermost to the innermost cause.
-/
import DomainScope.CommandLine.Report
import DomainScope.CommandLine.Settings
import DomainScope.Resolver.Survey

namespace DomainScope

/-! ## §1. Failures. -/

/-- Why a command could not be carried out. -/
inductive Failure where
  /-- The suffix list cannot be set up. -/
  | suffixList (cause : RuleListError)
  /-- The check of a name for wildcards failed. -/
  | wildcardCheck (name : Text) (cause : ProbeError QueryError)
  /-- The query for records of a kind failed. -/
  | query (name : Text) (kind : RecordKind) (cause : QueryError)
  deriving DecidableEq, Repr

/-- The report on a check that failed. -/
def ProbeError.message : ProbeError QueryError → Text
  | .invalidName e => e.message
  | .probe e => e.message

/-- The causes behind that report. -/
def ProbeError.causes : ProbeError QueryError → List Text
  | .invalidName _ => []
  | .probe e => e.causes

/-- The messages of a failure, from the outermost cause. -/
def Failure.chain : Failure → List Text
  | .suffixList cause =>
    "Failed to load suffix list".toList :: cause.setupMessage :: cause.causes
  | .wildcardCheck name cause =>
    ("Wildcard check failed for ".toList ++ name) :: cause.message :: cause.causes
  | .query name kind cause =>
    (kind.name.toList ++ " query failed for ".toList ++ name) :: cause.message :: cause.causes

/-- The messages of a failure in one line. -/
def Failure.message (failure : Failure) : Text :=
  match failure.chain with
  | [] => []
  | first :: rest => first ++ rest.flatMap (':' :: ' ' :: ·)

/-! ## §2. Surroundings. -/

/-- What a command needs from outside: files, a source of replies, and labels
for the wildcard checks of each kind of record, or of no particular kind. -/
structure Surroundings where
  readFile : FileReader
  client : Client
  labels : Option RecordKind → LabelSource

/-- The outcome of a command; a record that cannot be printed aborts it. -/
abbrev Outcome := Except Unprintable (Except Failure Report)

namespace Surroundings

/-! ## §3. Commands on names. -/

/-- The verdict of a wildcard check. -/
def verdict (s : Surroundings) (d : Decomposer) (atOnce : Bool) (kind : Option RecordKind)
    (name : Text) : Except (ProbeError QueryError) Bool :=
  if atOnce then s.client.isWildcardAtOnce d (s.labels kind) kind (fun _ => 0) name
  else s.client.isWildcard d (s.labels kind) kind name

/-- A verdict in words. -/
def verdictText (isCovered : Bool) : String := if isCovered then "wildcard" else "not wildcard"

/-- Checks whether a name is covered by a wildcard. -/
def runWildcard (s : Surroundings) (d : Decomposer) (atOnce : Bool) (kind : Option RecordKind)
    (name : Text) : Except Failure Report :=
  match s.verdict d atOnce kind name with
  | .ok isCovered => .ok (.line (Report.columns [name, (verdictText isCovered).toList]))
  | .error e => .error (.wildcardCheck name e)

/-- The line on a record. -/
def recordLine (name : Text) (record : Record) : Report :=
  .line (Report.columns [name, record.kind.name.toList, record.display])

/-- Shows the records of one kind, unless they come from a wildcard. -/
def runRecordsOfKind (s : Surroundings) (d : Decomposer) (name : Text) (kind : RecordKind) :
    Outcome :=
  match s.client.lookup name kind with
  | .error (.unprintable e) => .error e
  | .error (.query e) => .ok (.error (.query name kind e))
  | .ok [] => .ok (.ok {})
  | .ok (first :: rest) =>
    match s.client.isWildcard d (s.labels (some kind)) (some kind) name with
    | .error e => .ok (.error (.wildcardCheck name e))
    | .ok true => .ok (.ok {})
    | .ok false => .ok (.ok (.concat ((first :: rest).map (recordLine name))))

/-- Shows the records of every kind, and complains of the kinds that fail. -/
def runSurvey (s : Surroundings) (d : Decomposer) (name : Text) : Outcome :=
  (s.client.survey d (fun kind => s.labels (some kind)) name).map fun survey =>
    .ok ((Report.concat (survey.records.map (recordLine name))).append
      (.concat (survey.errors.map fun e => .complaint e.message)))

/-! ## §4. All commands. -/

/-- Carries out a command on names, with the suffix list that the settings name. -/
def withDecomposer (s : Surroundings) (settings : Settings) (run : Decomposer → Outcome) :
    Outcome :=
  match settings.decomposer s.readFile with
  | .error e => .ok (.error (.suffixList e))
  | .ok d => run d

/-- Carries out a command. -/
def run (s : Surroundings) (settings : Settings) : Command → Outcome
  | .parts names json => s.withDecomposer settings fun d => .ok (.ok (reportNames d json names))
  | .wildcard name kind _ => s.withDecomposer settings fun d =>
    .ok (s.runWildcard d settings.probesAtOnce kind name)
  | .records name (some kind) => s.withDecomposer settings fun d =>
    s.runRecordsOfKind d name kind
  | .records name none => s.withDecomposer settings fun d => s.runSurvey d name
  | .ip addresses => .ok (.ok (reportAddresses addresses))

end Surroundings

end DomainScope
