/-
  DomainScope.Url.Percent
  ───────────────────────
  **PERCENT-ENCODING.**

  Each part of a URL has its own set of characters of ASCII that it cannot
  hold as they are.  They are written as `%` and two hexadecimal digits per
  byte, and so are control characters and all characters beyond ASCII.  What
  is encoded already stays as it is.
-/
import DomainScope.Text.Numeral
import DomainScope.Text.Utf8

namespace DomainScope.Percent

/-! ## §1. Encoding. -/

/-- A hexadecimal digit with a capital letter. -/
def hexDigit (n : Nat) : Char := n.digitChar.toUpper

/-- A byte as `%` and two digits. -/
def encodeByte (b : UInt8) : Text := ['%', hexDigit (b.toNat / 16), hexDigit (b.toNat % 16)]

/-- Whether a character is encoded in every part. -/
def isControl (c : Char) : Bool := c.toNat < 0x20 || c.toNat ≥ 0x7F

/-- Encodes the control characters, those beyond ASCII, and those of `also`. -/
def encode (also : Text) (t : Text) : Text :=
  t.flatMap fun c =>
    if isControl c || also.elem c then (String.utf8EncodeChar c).flatMap encodeByte else [c]

/-! ## §2. The sets. -/

/-- Encoded in fragments. -/
def fragmentSet : Text := [' ', '\x22', '<', '>', '\x60']

/-- Encoded in path segments. -/
def pathSet : Text := fragmentSet ++ ['#', '?', '\x7b', '\x7d']

/-- Encoded in names and passwords. -/
def credentialSet : Text := pathSet ++ ['/', ':', ';', '=', '@', '[', '\\', ']', '^', '|']

/-- Encoded in queries. -/
def querySet : Text := [' ', '\x22', '#', '<', '>']

/-- Encoded in queries of special schemes. -/
def specialQuerySet : Text := querySet ++ ['\x27']

/-! ## §3. Decoding. -/

/-- The bytes of a text in which `%` and two hexadecimal digits stand for a byte. -/
def decode : Text → List UInt8
  | [] => []
  | [c] => String.utf8EncodeChar c
  | [c, d] => String.utf8EncodeChar c ++ decode [d]
  | c :: high :: low :: rest =>
    match if c = '%' then Text.numeral? 16 [high, low] else none with
    | some n => n.toUInt8 :: decode rest
    | none => String.utf8EncodeChar c ++ decode (high :: low :: rest)

end DomainScope.Percent
