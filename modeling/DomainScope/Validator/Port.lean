/-
  DomainScope.Validator.Port
  ──────────────────────────
  **PORT NUMBERS.**

  A port number is at most 65535, and leading zeros are allowed.  It may be
  asked for alone, or stand behind a colon that follows the host of a URL; there
  it may also be left empty, and one that the scheme implies is dropped.
-/
import DomainScope.Url.Basic

namespace DomainScope

/-! ## §1. Ports alone. -/

namespace Validator

/-- The greatest port number. -/
def greatestPort : Nat := 65535

/-- Whether a text is a port number: digits only, leading zeros allowed. -/
def isPort (t : Text) : Bool := (Text.boundedNumeral? greatestPort t).isSome

end Validator

/-! ## §2. Ports behind hosts. -/

namespace Url

/-- Cuts at the first colon outside brackets. -/
def splitPort (inBrackets : Bool) : Text → Text × Option Text
  | [] => ([], none)
  | c :: cs =>
    if c = ':' && !inBrackets then ([], some cs)
    else
      let inside := if c = '[' then true else if c = ']' then false else inBrackets
      let (host, port) := splitPort inside cs
      (c :: host, port)

/-- Reads a port and gives what follows it. -/
def readPort (scheme : Text) (t : Text) : Except UrlError (Option Nat × Text) :=
  let digits := t.takeWhile Char.isDigit
  let left := t.dropWhile Char.isDigit
  if digits.isEmpty then
    -- A backslash ends the port and begins the path.
    if left.isEmpty || left.head? = some '\\' then .ok (none, left) else .error .port
  else
    match Text.boundedNumeral? Validator.greatestPort digits with
    | none => .error .port
    | some n =>
      if !(left.isEmpty || left.head? = some '\\') then .error .port
      else .ok (if impliedPort? scheme = some n then none else some n, left)

end Url

end DomainScope
