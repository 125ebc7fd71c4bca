/-
  DomainScope.Name.Validate
  ─────────────────────────
  **WHICH TEXTS ARE DOMAIN NAMES.**

  A name is a row of labels of letters, digits, hyphens and underscores, 253
  bytes at most, with an optional final dot.  Checking reports the first rule
  that a text breaks: its length, then its first character, then the leftmost
  fault met while walking through the characters, then the faults of the name
  as a whole.

  Main definitions
    `Name.fault?`     the first broken rule, if there is one
    `Name.validate`   the same as a check that fails with the name and the rule
    `Name.isLabel`    a single label without underscores and double hyphens
-/
import DomainScope.Name.Basic
import DomainScope.Text.Utf8

namespace DomainScope

/-! ## §1. Rules and the errors that report them. -/

/-- The rules that a text can break. -/
inductive Fault where
  /-- Empty, or longer than 253 bytes (254 with a final dot). -/
  | length
  /-- The root name alone. -/
  | root
  /-- The name starts with a dot. -/
  | leadingDot
  /-- A character other than letters, digits, hyphen, underscore and dot. -/
  | character
  /-- A label starts or ends with a hyphen. -/
  | hyphen
  /-- Two dots in a row. -/
  | emptyLabel
  /-- A label longer than 63 characters. -/
  | labelLength
  /-- A single label. -/
  | bareTld
  /-- No letter and no underscore. -/
  | numeric
  deriving DecidableEq, Repr

/-- The rule in words. -/
def Fault.text : Fault → String
  | .length => "name must be 1-253 characters long"
  | .root => "root name is not accepted"
  | .leadingDot => "name starts with a dot"
  | .character => "name contains an invalid character"
  | .hyphen => "label starts or ends with a hyphen"
  | .emptyLabel => "name contains an empty label"
  | .labelLength => "label is longer than 63 characters"
  | .bareTld => "name has no dot"
  | .numeric => "name has no letter or underscore"

/-- A rejected name, as it was given, and the first rule it breaks. -/
structure InvalidName where
  name : Text
  fault : Fault
  deriving DecidableEq, Repr

/-- The report on a rejected name. -/
def InvalidName.message (e : InvalidName) : Text :=
  "invalid domain '".toList ++ e.name ++ "': ".toList ++ e.fault.text.toList

namespace Name

/-! ## §2. Limits. -/

/-- The greatest length of a name without final dot, in bytes. -/
def maxLength : Nat := 253

/-- The greatest length of a label. -/
def maxLabelLength : Nat := 63

/-! ## §3. The walk through the characters. -/

/-- Closes a label: what was read last, and the length of the label. -/
def closeLabel (last : Char) (length : Nat) : Option Fault :=
  if last = '-' then some .hyphen
  else if length > maxLabelLength then some .labelLength
  else none

/-- A character that makes a name more than a number. -/
def isNaming (c : Char) : Bool := c.isAlpha || c = '_'

/-- Walks through the characters: `last` is the character before (a dot at the
start), `length` the length of the label so far, `named` whether a character
that names has been met.  Gives the leftmost fault, or `named` at the end. -/
def walk (last : Char) (length : Nat) (named : Bool) : Text → Except Fault Bool
  | [] =>
    match closeLabel last length with
    | some fault => .error fault
    | none => .ok named
  | c :: cs =>
    if isNaming c then walk c (length + 1) true cs
    else if c.isDigit then walk c (length + 1) named cs
    else if c = '-' then
      -- After a dot, and at the start, a label begins here.
      if last = '.' then .error .hyphen else walk c (length + 1) named cs
    else if c = '.' then
      if last = '.' then .error .emptyLabel
      else
        match closeLabel last length with
        | some fault => .error fault
        | none => walk c 0 named cs
    else .error .character

/-! ## §4. The whole check. -/

/-- Whether a text has a length that no name has. -/
def badLength (name : Text) : Bool :=
  let n := Text.byteLength name
  -- One byte more is allowed if it is the final dot.
  n = 0 || n > maxLength + 1 || (n = maxLength + 1 && name.getLast? ≠ some '.')

/-- The first rule that a text breaks. -/
def fault? (policy : Policy) (name : Text) : Option Fault :=
  if badLength name then some .length
  else if name = ['.'] then
    if policy.acceptsRootAndBareTld then none else some .root
  else if name.head? = some '.' then some .leadingDot
  else
    match walk '.' 0 false name with
    | .error fault => some fault
    | .ok named =>
      -- No character is at fault; what remains concerns the name as a whole.
      if policy.acceptsRootAndBareTld = false ∧ '.' ∉ dropFinalDot name then some .bareTld
      else if named = false then some .numeric
      else none

/-- Checks a name. -/
def validate (policy : Policy) (name : Text) : Except InvalidName Unit :=
  match fault? policy name with
  | some fault => .error ⟨name, fault⟩
  | none => .ok ()

/-- Whether a text is a name. -/
def isValid (policy : Policy) (name : Text) : Bool := (fault? policy name).isNone

/-! ## §5. Labels and wildcard names. -/

/-- Whether a text is a label of letters, digits and single hyphens, with no
hyphen at its ends and 63 characters at most. -/
def isLabel (label : Text) : Bool :=
  let n := Text.byteLength label
  0 < n && n ≤ maxLabelLength
    && label.head? ≠ some '-' && label.getLast? ≠ some '-'
    && !Text.occurs ['-', '-'] label
    && label.all fun c => c.isAlphanum || c = '-'

/-- Whether a text is `*.` and a name. -/
def isWildcard (policy : Policy) (name : Text) : Bool :=
  match ['*', '.'].isPrefixOf? name with
  | some rest => isValid policy rest
  | none => false

end Name

end DomainScope
