/-
  DomainScope.CommandLine.Settings
  ────────────────────────────────
  **SETTINGS AND COMMANDS.**

  What a command line asks for: a command with its operands, and the settings
  under which it is carried out.
-/
import DomainScope.Address.Basic
import DomainScope.Name.Decompose
import DomainScope.Record.Kind
import DomainScope.Suffix.Source

namespace DomainScope

/-! ## §1. The log. -/

/-- How much is logged, from errors only to everything. -/
inductive LogLevel where
  | error
  | warn
  | info
  | debug
  | trace
  deriving DecidableEq, Repr

/-- All levels, from the least. -/
def LogLevel.all : List LogLevel := [.error, .warn, .info, .debug, .trace]

/-- The level as it is written on a command line. -/
def LogLevel.flag : LogLevel → String
  | .error => "error"
  | .warn => "warn"
  | .info => "info"
  | .debug => "debug"
  | .trace => "trace"

/-- How log lines look. -/
inductive LogFormat where
  | plain
  | json
  deriving DecidableEq, Repr

/-- All formats. -/
def LogFormat.all : List LogFormat := [.plain, .json]

/-- The format as it is written on a command line. -/
def LogFormat.flag : LogFormat → String
  | .plain => "plain"
  | .json => "json"

/-! ## §2. Settings. -/

/-- The time after which a query is given up, in seconds. -/
def standardTimeout : Nat := 3

/-- The settings of a run. -/
structure Settings where
  logLevel : LogLevel := .info
  logFormat : LogFormat := .plain
  suffixSource : SuffixSource := .builtin
  policy : Policy := {}
  /-- The servers to ask; none means those of the resolver. -/
  nameservers : List Address := []
  /-- The time after which a query is given up, in seconds. -/
  timeoutSeconds : Nat := standardTimeout
  /-- How often the resolver asks a server. -/
  attempts : Nat := 2
  /-- Whether all probes of a wildcard check are made at once. -/
  probesAtOnce : Bool := false
  deriving DecidableEq, Repr

/-- The suffix list and the policy that the settings name. -/
def Settings.decomposer (readFile : FileReader) (s : Settings) :
    Except RuleListError Decomposer :=
  (s.suffixSource.load readFile).map fun suffixes => ⟨suffixes, s.policy⟩

/-! ## §3. Commands. -/

/-- What is to be done. -/
inductive Command where
  /-- Split names. -/
  | parts (names : List Text) (json : Bool)
  /-- Check whether a name is covered by a wildcard, for one kind of record or any. -/
  | wildcard (name : Text) (kind : Option RecordKind) (atOnce : Bool)
  /-- Show the records of a name, of one kind or of every kind. -/
  | records (name : Text) (kind : Option RecordKind)
  /-- Classify addresses and describe networks. -/
  | ip (addresses : List Text)
  deriving DecidableEq, Repr

end DomainScope
