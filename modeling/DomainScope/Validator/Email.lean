/-
  DomainScope.Validator.Email
  ───────────────────────────
  **E-MAIL ADDRESSES.**

  A plain address is a local part, an at sign and a domain name of at least
  two labels.  The local part is a row of atoms with single dots between them;
  quoted local parts and address literals are not accepted.
-/
import DomainScope.Name.Validate

namespace DomainScope.Validator

/-! ## §1. Atoms. -/

/-- The characters of atoms other than letters and digits. -/
def atomMarks : Text :=
  ['!', '#', '$', '%', '&', '\x27', '*', '+', '-', '/', '=', '?', '^', '_', '\x60', '\x7b', '|',
    '\x7d', '~']

/-- Whether a character may stand in an atom. -/
def isAtomChar (c : Char) : Bool := c.isAlphanum || atomMarks.elem c

/-- The greatest length of a local part, in bytes. -/
def longestLocalPart : Nat := 64

/-- Whether a text is a row of atoms with single dots between them. -/
def isDotAtom (t : Text) : Bool :=
  !t.isEmpty && Text.byteLength t ≤ longestLocalPart
    && (t.splitOn '.').all fun atom => !atom.isEmpty && atom.all isAtomChar

/-! ## §2. Addresses. -/

/-- The greatest length of an address, in bytes. -/
def longestAddress : Nat := 254

/-- Whether a text is a plain e-mail address. -/
def isEmail (t : Text) : Bool :=
  Text.byteLength t ≤ longestAddress &&
    match Text.splitLast '@' t with
    | none => false
    | some (local_, domain) => isDotAtom local_ && Name.isValid {} domain

end DomainScope.Validator
