/-
  DomainScope.CommandLine.Usage
  ─────────────────────────────
  **WHAT MAY STAND ON A COMMAND LINE.**

  A command line has two levels: the top level with its options and the verb,
  and what follows the verb.  Options of the top level may also follow the
  verb.  Each level has options that take a value, switches that take none, and
  room for some operands.
-/
import DomainScope.Text.Basic

namespace DomainScope

/-! ## §1. Errors. -/

/-- Why a command line is not carried out. -/
inductive UsageError where
  /-- Help was asked for. -/
  | helpRequested
  /-- The version was asked for. -/
  | versionRequested
  /-- Nothing was asked for. -/
  | nothingGiven
  /-- There are options, but no verb. -/
  | missingVerb
  /-- What stands in the place of the verb is none. -/
  | unknownVerb
  /-- An option that is not known, or an operand for which there is no room. -/
  | unknownArgument
  /-- Operands are missing. -/
  | missingOperand
  /-- An option without its value, or with one that is not among those it has. -/
  | badValue
  /-- A value that cannot be read. -/
  | unreadableValue
  /-- A switch with a value. -/
  | unwantedValue
  /-- Options that exclude each other, or one that is given twice. -/
  | conflict
  deriving DecidableEq, Repr

/-- Whether all is well: help and version were asked for. -/
def UsageError.isRequest : UsageError → Bool
  | .helpRequested => true
  | .versionRequested => true
  | _ => false

/-- The exit status that goes with an error. -/
def UsageError.exitStatus (e : UsageError) : Nat := if e.isRequest then 0 else 2

/-- The error in words. -/
def UsageError.text : UsageError → String
  | .helpRequested => "help was asked for"
  | .versionRequested => "the version was asked for"
  | .nothingGiven => "nothing was asked for"
  | .missingVerb => "a subcommand is required"
  | .unknownVerb => "unrecognized subcommand"
  | .unknownArgument => "unexpected argument"
  | .missingOperand => "a required argument is missing"
  | .badValue => "an option has no value or an invalid one"
  | .unreadableValue => "the value of an option cannot be read"
  | .unwantedValue => "an option that takes no value has one"
  | .conflict => "options cannot be used together"

/-! ## §2. Options and verbs. -/

/-- The options that take a value. -/
inductive Setting where
  | logLevel
  | logFormat
  | psl
  | nameserver
  | timeout
  | recordType
  deriving DecidableEq, Repr

/-- The name of an option, without the hyphens in front of it. -/
def Setting.name : Setting → String
  | .logLevel => "log-level"
  | .logFormat => "log-format"
  | .psl => "psl"
  | .nameserver => "nameserver"
  | .timeout => "timeout-secs"
  | .recordType => "record-type"

/-- The options that take no value. -/
inductive Switch where
  | fallbackPsl
  | lenient
  | icannOnly
  | json
  | concurrent
  | help
  | version
  deriving DecidableEq, Repr

/-- The name of a switch, without the hyphens in front of it. -/
def Switch.name : Switch → String
  | .fallbackPsl => "fallback-psl"
  | .lenient => "lenient"
  | .icannOnly => "icann-only"
  | .json => "json"
  | .concurrent => "concurrent"
  | .help => "help"
  | .version => "version"

/-- The letter of a switch, if it has one. -/
def Switch.letter? : Switch → Option Char
  | .help => some 'h'
  | .version => some 'V'
  | _ => none

/-- What can be done. -/
inductive Verb where
  | parts
  | wildcard
  | records
  | ip
  deriving DecidableEq, Repr

/-- The name of a verb. -/
def Verb.name : Verb → String
  | .parts => "parts"
  | .wildcard => "wildcard"
  | .records => "records"
  | .ip => "ip"

/-- All verbs. -/
def Verb.all : List Verb := [.parts, .wildcard, .records, .ip]

/-- What may stand in the place of the verb. -/
inductive Choice where
  | verb (v : Verb)
  /-- Help, also on a verb that follows. -/
  | help
  deriving DecidableEq, Repr

/-- The choice with a name. -/
def Choice.ofName? (t : Text) : Option Choice :=
  if t = "help".toList then some .help
  else (Verb.all.find? fun verb => verb.name.toList = t).map .verb

/-! ## §3. Levels. -/

/-- How many operands there is room for. -/
inductive Room where
  | none
  | one
  | many
  deriving DecidableEq, Repr

/-- A level of the command line. -/
structure Level where
  settings : List Setting
  switches : List Switch
  room : Room
  /-- Whether a verb has to come. -/
  takesVerb : Bool := false
  deriving DecidableEq, Repr

namespace Level

/-- The options with a value that every level has. -/
def sharedSettings : List Setting := [.logLevel, .logFormat, .psl, .nameserver, .timeout]

/-- The switches that every level has. -/
def sharedSwitches : List Switch := [.fallbackPsl, .lenient, .icannOnly, .help]

/-- The level in front of the verb. -/
def top : Level :=
  { settings := sharedSettings, switches := .version :: sharedSwitches, room := .none,
    takesVerb := true }

/-- The level behind a verb. -/
def after : Verb → Level
  | .parts =>
    { settings := sharedSettings, switches := .json :: sharedSwitches, room := .many }
  | .wildcard =>
    { settings := .recordType :: sharedSettings, switches := .concurrent :: sharedSwitches,
      room := .one }
  | .records =>
    { settings := .recordType :: sharedSettings, switches := sharedSwitches, room := .one }
  | .ip =>
    { settings := sharedSettings, switches := sharedSwitches, room := .many }

/-- The choice with a name, if the level takes a verb. -/
def choice? (level : Level) (t : Text) : Option Choice :=
  if level.takesVerb then Choice.ofName? t else none

/-- The option with a value that has a name. -/
def setting? (level : Level) (t : Text) : Option Setting :=
  level.settings.find? fun setting => setting.name.toList = t

/-- The switch that has a name. -/
def switch? (level : Level) (t : Text) : Option Switch :=
  level.switches.find? fun switch => switch.name.toList = t

/-- The switch that has a letter. -/
def switchOfLetter? (level : Level) (c : Char) : Option Switch :=
  level.switches.find? fun switch => switch.letter? = some c

/-- Whether one more operand has room beside those given. -/
def hasRoom (level : Level) (operands : List Text) : Bool :=
  match level.room with
  | .none => false
  | .one => operands.isEmpty
  | .many => true

/-- What is wrong with an operand that has no room. -/
def excess (level : Level) : UsageError :=
  if level.takesVerb then .unknownVerb else .unknownArgument

end Level

end DomainScope
