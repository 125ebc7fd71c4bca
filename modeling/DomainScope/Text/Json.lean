/-
  DomainScope.Text.Json
  ─────────────────────
  **FLAT JSON OBJECTS.**

  One object of text fields on one line: no spaces, the keys in the order
  given.  A quote and a backslash are preceded by a backslash, the control
  characters are written by their short escapes or as four hexadecimal digits,
  and all other characters stand for themselves.

  Reports take a writer of objects as a parameter (`Json.Writer`), since objects
  are written by a library; the writer defined here is the one that is used
  unless another one is given.
-/
import DomainScope.Text.Numeral

namespace DomainScope.Text.Json

/-- The quote that opens and closes a string. -/
def quoteMark : Char := '\x22'

/-- A character as it stands inside a string. -/
def escaped (c : Char) : Text :=
  if c = quoteMark then ['\\', quoteMark]
  else if c = '\\' then ['\\', '\\']
  else if c = '\x08' then ['\\', 'b']
  else if c = '\x09' then ['\\', 't']
  else if c = '\x0a' then ['\\', 'n']
  else if c = '\x0c' then ['\\', 'f']
  else if c = '\x0d' then ['\\', 'r']
  else if c.toNat < 0x20 then '\\' :: 'u' :: (hexadecimal c.toNat).leftpad 4 '0'
  else [c]

/-- A string between quotes. -/
def string (t : Text) : Text :=
  quoteMark :: t.flatMap escaped ++ [quoteMark]

/-- One field of an object. -/
def field (key value : Text) : Text := string key ++ ':' :: string value

/-- A writer of objects with the given fields. -/
abbrev Writer := List (Text × Text) → Text

/-- An object with the given fields. -/
def object (fields : List (Text × Text)) : Text :=
  '\x7b' :: [','].intercalate (fields.map fun (key, value) => field key value) ++ ['\x7d']

end DomainScope.Text.Json
