/-
  DomainScope.Text.Utf8
  ─────────────────────
  **UTF-8: LENGTHS, WRITING AND READING.**

  Lengths of names are counted in bytes of UTF-8.  Record data arrives as
  bytes; it is read by a machine that takes one byte at a time and remembers
  which byte may come next.  A byte that cannot continue the character begun
  before it closes that character as broken.  The strict reader gives up
  there, the lossy one writes U+FFFD and goes on with the same byte.
-/
import DomainScope.Text.Basic

namespace DomainScope.Text

/-! ## §1. Length and writing. -/

/-- The number of bytes that a text takes in UTF-8. -/
def byteLength (t : Text) : Nat := t.foldr (fun c n => c.utf8Size + n) 0

/-- The bytes of a text. -/
def toBytes (t : Text) : List UInt8 := t.flatMap String.utf8EncodeChar

/-! ## §2. The reading machine. -/

/-- A character whose first bytes have been read: how many bytes are still
missing, the range of the next one, and the value of the bits so far. -/
structure PartialChar where
  missing : Nat
  least : Nat
  greatest : Nat
  bits : Nat
  deriving DecidableEq, Repr

/-- What the first byte of a character says. -/
inductive Lead where
  /-- The byte is a whole character. -/
  | whole (c : Char)
  /-- More bytes follow. -/
  | opens (p : PartialChar)
  /-- No character begins with this byte. -/
  | broken

/-- Reads the first byte of a character. -/
def lead (byte : UInt8) : Lead :=
  let b := byte.toNat
  if b < 0x80 then .whole (Char.ofNat b)
  -- The bounds on the second byte leave out longer spellings than needed,
  -- surrogates, and numbers beyond the last character.
  else if 0xC2 ≤ b ∧ b ≤ 0xDF then .opens ⟨1, 0x80, 0xBF, b - 0xC0⟩
  else if b = 0xE0 then .opens ⟨2, 0xA0, 0xBF, 0⟩
  else if b = 0xED then .opens ⟨2, 0x80, 0x9F, 0xD⟩
  else if 0xE1 ≤ b ∧ b ≤ 0xEF then .opens ⟨2, 0x80, 0xBF, b - 0xE0⟩
  else if b = 0xF0 then .opens ⟨3, 0x90, 0xBF, 0⟩
  else if 0xF1 ≤ b ∧ b ≤ 0xF3 then .opens ⟨3, 0x80, 0xBF, b - 0xF0⟩
  else if b = 0xF4 then .opens ⟨3, 0x80, 0x8F, 4⟩
  else .broken

/-- Whether a byte may come next. -/
def PartialChar.admits (p : PartialChar) (byte : UInt8) : Bool :=
  p.least ≤ byte.toNat && byte.toNat ≤ p.greatest

/-- The character so far with the bits of one more byte. -/
def PartialChar.extend (p : PartialChar) (byte : UInt8) : PartialChar :=
  ⟨p.missing - 1, 0x80, 0xBF, p.bits * 0x40 + (byte.toNat - 0x80)⟩

/-! ## §3. Lossy and strict reading. -/

/-- The mark that stands for bytes that are no character. -/
def replacement : Char := Char.ofNat 0xFFFD

/-- A reading under way: the character begun, the characters read so far (the
last one first), and whether any byte was broken. -/
structure Decoder where
  pending : Option PartialChar := none
  written : Text := []
  broken : Bool := false
  deriving DecidableEq, Repr

/-- Takes a byte between two characters. -/
def Decoder.start (d : Decoder) (byte : UInt8) : Decoder :=
  match lead byte with
  | .whole c => { d with pending := none, written := c :: d.written }
  | .opens p => { d with pending := some p }
  | .broken => { pending := none, written := replacement :: d.written, broken := true }

/-- Takes one byte. -/
def Decoder.feed (d : Decoder) (byte : UInt8) : Decoder :=
  match d.pending with
  | none => d.start byte
  | some p =>
    if p.admits byte then
      if p.missing = 1 then
        { d with pending := none, written := Char.ofNat (p.extend byte).bits :: d.written }
      else { d with pending := some (p.extend byte) }
    else
      -- The byte is not lost: it may begin a character of its own.
      Decoder.start { pending := none, written := replacement :: d.written, broken := true } byte

/-- Ends the reading; a character begun and not completed is broken. -/
def Decoder.finish (d : Decoder) : Decoder :=
  match d.pending with
  | none => d
  | some _ => { pending := none, written := replacement :: d.written, broken := true }

/-- The whole reading of a row of bytes. -/
def decode (bytes : List UInt8) : Decoder := (bytes.foldl Decoder.feed {}).finish

/-- The text of the bytes, with U+FFFD for each longest run of bytes that
begins a character without completing it. -/
def ofBytesLossy (bytes : List UInt8) : Text := (decode bytes).written.reverse

/-- The text of the bytes, if they are UTF-8. -/
def ofBytes? (bytes : List UInt8) : Option Text :=
  let d := decode bytes
  if d.broken then none else some d.written.reverse

end DomainScope.Text
