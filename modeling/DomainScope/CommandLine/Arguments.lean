/-
  DomainScope.CommandLine.Arguments
  ─────────────────────────────────
  **READING A COMMAND LINE.**

  The arguments are read from left to right.  The value of an option stands
  behind an equals sign or is the next argument; in the second case it is put
  aside, and looked at only when the next option or operand comes, or at the
  end of its level.  That decides which of several errors is reported: an
  argument that is not known before a value put aside, and the errors behind
  the verb before the value put aside in front of it.

  Main definitions
    `Given`              what has been read
    `Level.read`         reads the arguments of one level
    `readCommandLine`    reads the whole line
-/
import DomainScope.Address.Written
import DomainScope.CommandLine.Settings
import DomainScope.CommandLine.Usage

namespace DomainScope

/-! ## §1. What has been read. -/

/-- The options and operands of a level. -/
structure Given where
  logLevel : Option LogLevel := none
  logFormat : Option LogFormat := none
  psl : Option Text := none
  nameservers : List Address := []
  timeout : Option Nat := none
  kind : Option RecordKind := none
  fallbackPsl : Bool := false
  lenient : Bool := false
  icannOnly : Bool := false
  json : Bool := false
  concurrent : Bool := false
  operands : List Text := []
  deriving DecidableEq, Repr

namespace Given

/-- Fails if an option has been given before. -/
def once {α : Type} (before : Option α) : Except UsageError Unit :=
  if before.isSome then .error .conflict else .ok ()

/-- One of some values, told by its flag. -/
def choose {α : Type} (flag : α → Text) (values : List α) (t : Text) : Except UsageError α :=
  match values.find? fun value => flag value = t with
  | some value => .ok value
  | none => .error .badValue

/-- A value that can be read, or the error that it cannot. -/
def readable {α : Type} : Option α → Except UsageError α
  | some value => .ok value
  | none => .error .unreadableValue

/-- The greatest timeout. -/
def greatestTimeout : Nat := 1 <<< 64 - 1

/-- Takes the value of an option.  Only name servers can be given more than once. -/
def set (g : Given) (setting : Setting) (t : Text) : Except UsageError Given :=
  match setting with
  | .logLevel => do
    once g.logLevel
    return { g with logLevel := some (← choose (·.flag.toList) LogLevel.all t) }
  | .logFormat => do
    once g.logFormat
    return { g with logFormat := some (← choose (·.flag.toList) LogFormat.all t) }
  | .psl => do
    once g.psl
    if t.isEmpty then .error .badValue else return { g with psl := some t }
  | .nameserver => do
    return { g with nameservers := g.nameservers ++ [← readable (Address.read? t)] }
  | .timeout => do
    once g.timeout
    return { g with timeout := some (← readable (Text.boundedCount? greatestTimeout t)) }
  | .recordType => do
    once g.kind
    return { g with kind := some (← choose RecordKind.flag RecordKind.all t) }

/-- Turns a switch on that is off. -/
def turnOn (isOn : Bool) (on : Given) : Except UsageError Given :=
  if isOn then .error .conflict else .ok on

/-- Takes a switch. -/
def flip (g : Given) : Switch → Except UsageError Given
  | .fallbackPsl => turnOn g.fallbackPsl { g with fallbackPsl := true }
  | .lenient => turnOn g.lenient { g with lenient := true }
  | .icannOnly => turnOn g.icannOnly { g with icannOnly := true }
  | .json => turnOn g.json { g with json := true }
  | .concurrent => turnOn g.concurrent { g with concurrent := true }
  | .help => .error .helpRequested
  | .version => .error .versionRequested

/-- Takes an operand. -/
def addOperand (g : Given) (t : Text) : Given := { g with operands := g.operands ++ [t] }

/-- The options of an outer level and of an inner one, which goes first. -/
def overlay (outer inner : Given) : Given :=
  { inner with
    logLevel := inner.logLevel.or outer.logLevel
    logFormat := inner.logFormat.or outer.logFormat
    psl := inner.psl.or outer.psl
    nameservers := if inner.nameservers.isEmpty then outer.nameservers else inner.nameservers
    timeout := inner.timeout.or outer.timeout
    fallbackPsl := inner.fallbackPsl || outer.fallbackPsl
    lenient := inner.lenient || outer.lenient
    icannOnly := inner.icannOnly || outer.icannOnly }

/-- Whether options of the level exclude each other. -/
def clashes (g : Given) : Bool := g.psl.isSome && g.fallbackPsl

end Given

/-! ## §2. Values put aside. -/

/-- What an option still waits for. -/
inductive Pending where
  | nothing
  /-- An option whose value has not come. -/
  | valueOf (setting : Setting)
  /-- An option whose value has come and has not been looked at. -/
  | held (setting : Setting) (value : Text)
  deriving DecidableEq, Repr

/-- Looks at the value put aside. -/
def Pending.settle (g : Given) : Pending → Except UsageError Given
  | .nothing => .ok g
  | .valueOf _ => .error .badValue
  | .held setting value => g.set setting value

/-! ## §3. Arguments by their form. -/

/-- An argument by its form. -/
inductive Argument where
  /-- Two hyphens: only operands follow. -/
  | separator
  /-- Two hyphens and a name, with a value behind an equals sign if there is one. -/
  | long (name : Text) (value : Option Text)
  /-- A hyphen and a letter; what follows the letter does not count. -/
  | short (letter : Char)
  /-- Anything else. -/
  | plain (t : Text)
  deriving DecidableEq, Repr

/-- The form of an argument. -/
def Argument.of : Text → Argument
  | ['-', '-'] => .separator
  | '-' :: '-' :: body =>
    match Text.splitFirst '=' body with
    | some (name, value) => .long name (some value)
    | none => .long body none
  | '-' :: letter :: _ => .short letter
  | t => .plain t

/-! ## §4. One level. -/

/-- Where the reading of a level stopped: at the end, or in the place of the
verb, with what stands there and what follows. -/
structure Stop where
  given : Given
  pending : Pending := .nothing
  choice : Option (Choice × List Text) := none
  deriving DecidableEq, Repr

namespace Level

/-- The choice that an argument is, unless it is the value of an option. -/
def choiceAt? (level : Level) (pending : Pending) (t : Text) : Option Choice :=
  match pending with
  | .valueOf _ => none
  | _ => level.choice? t

/-- Takes an operand, after the value put aside. -/
def takeOperand (level : Level) (g : Given) (pending : Pending) (t : Text) :
    Except UsageError Given :=
  if level.hasRoom g.operands then (pending.settle g).map (·.addOperand t)
  else .error level.excess

/-- Takes an option with a value behind an equals sign. -/
def takeAttached (level : Level) (g : Given) (pending : Pending) (name value : Text) :
    Except UsageError Given :=
  match level.setting? name, level.switch? name with
  | some setting, _ => do (← pending.settle g).set setting value
  | none, some _ => .error .unwantedValue
  | none, none => .error .unknownArgument

/-- Takes a switch, after the value put aside. -/
def takeSwitch (g : Given) (pending : Pending) (switch : Option Switch) :
    Except UsageError Given :=
  match switch with
  | some switch => do (← pending.settle g).flip switch
  | none => .error .unknownArgument

/-- Reads the arguments that follow two hyphens. -/
def readOperands (level : Level) (g : Given) (pending : Pending) :
    List Text → Except UsageError Stop
  | [] => .ok { given := g, pending }
  | t :: rest =>
    -- Behind two hyphens a verb is an operand, and there is no room for it.
    if !level.hasRoom g.operands && (level.choice? t).isSome then .error .unknownArgument
    else do level.readOperands (← level.takeOperand g pending t) .nothing rest

/-- Reads arguments up to the verb or the end. -/
def read (level : Level) (g : Given) (pending : Pending) : List Text → Except UsageError Stop
  | [] => .ok { given := g, pending }
  | t :: rest =>
    match level.choiceAt? pending t with
    | some choice => .ok ⟨g, pending, some (choice, rest)⟩
    | none =>
      match Argument.of t with
      | .separator => level.readOperands g pending rest
      | .long name none =>
        match level.setting? name with
        -- A value may look like a verb, and is looked at later.
        | some setting => do level.read (← pending.settle g) (.valueOf setting) rest
        | none => do level.read (← takeSwitch g pending (level.switch? name)) .nothing rest
      | .long name (some value) => do
        level.read (← level.takeAttached g pending name value) .nothing rest
      | .short letter => do
        level.read (← takeSwitch g pending (level.switchOfLetter? letter)) .nothing rest
      | .plain t =>
        match pending with
        | .valueOf setting => level.read g (.held setting t) rest
        | _ => do level.read (← level.takeOperand g pending t) .nothing rest

end Level

/-! ## §5. The whole line. -/

/-- What comes of a request for help on what is named: nothing, or one verb. -/
def helpOn : List Text → UsageError
  | [] => .helpRequested
  | [t] => if (Choice.ofName? t).isSome then .helpRequested else .unknownVerb
  | _ => .unknownVerb

/-- Reads what follows a verb. -/
def readVerb (verb : Verb) (rest : List Text) : Except UsageError Given := do
  let stop ← (Level.after verb).read {} .nothing rest
  let g ← stop.pending.settle stop.given
  if g.clashes then .error .conflict
  if g.operands.isEmpty then .error .missingOperand
  return g

/-- The settings that some options stand for. -/
def Given.settings (g : Given) : Settings :=
  { logLevel := g.logLevel.getD .info
    logFormat := g.logFormat.getD .plain
    suffixSource :=
      match g.psl with
      | some path => .file path
      | none => if g.fallbackPsl then .fallback else .builtin
    policy := ⟨g.lenient, !g.icannOnly⟩
    nameservers := g.nameservers
    timeoutSeconds := g.timeout.getD standardTimeout
    probesAtOnce := g.concurrent }

/-- The command of a verb with its options and operands. -/
def Given.command (g : Given) : Verb → Command
  | .parts => .parts g.operands g.json
  | .wildcard => .wildcard (g.operands.headD []) g.kind g.concurrent
  | .records => .records (g.operands.headD []) g.kind
  | .ip => .ip g.operands

/-- Reads a command line, without the name of the program. -/
def readCommandLine (arguments : List Text) : Except UsageError (Settings × Command) := do
  let stop ← Level.top.read {} .nothing arguments
  match stop.choice with
  | some (.help, rest) => .error (helpOn rest)
  | some (.verb verb, rest) =>
    -- What follows the verb is settled before what is pending in front of it.
    let inner ← readVerb verb rest
    let outer ← stop.pending.settle stop.given
    if outer.clashes then .error .conflict
    let g := outer.overlay inner
    return (g.settings, g.command verb)
  | none =>
    let g ← stop.pending.settle stop.given
    .error (if g = {} then .nothingGiven else .missingVerb)

end DomainScope
