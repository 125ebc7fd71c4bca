/-
  DomainScope.Record.WireName
  ───────────────────────────
  **NAMES IN RECORD DATA.**

  In record data a name is a row of labels of bytes.  On the wire each label
  is preceded by its length, and a zero closes the name.  In print a dot
  follows each label, bytes without a printable form of their own are escaped,
  and labels in Punycode are shown in Unicode.

  Names are read and printed by the resolver library, so both are parameters of
  what is made of record data (`NameLibrary`), and what is defined here is the
  library that is used unless another one is given.
-/
import DomainScope.Idna.Domain
import DomainScope.Text.Utf8

namespace DomainScope

/-- A name in record data; an absolute one ends at the root. -/
structure WireName where
  labels : List (List UInt8)
  isAbsolute : Bool
  deriving DecidableEq, Repr

namespace WireName

/-! ## §1. Printing. -/

/-- The three octal digits of a byte. -/
def octal (b : UInt8) : Text :=
  [b.toNat / 64, b.toNat / 8 % 8, b.toNat % 8].map Nat.digitChar

/-- A byte of a label, escaped if it needs to be. -/
def printByte (isFirst : Bool) (b : UInt8) : Text :=
  let c := Char.ofNat b.toNat
  if c.isAlphanum || c = '_' || (c = '-' && !isFirst) || (c = '*' && isFirst) then [c]
  else if 0x20 < b.toNat && b.toNat < 0x7F then ['\\', c]
  else '\\' :: octal b

/-- A label byte by byte. -/
def printBytes : List UInt8 → Text
  | [] => []
  | b :: bytes => printByte true b ++ bytes.flatMap (printByte false)

/-- Whether a label begins with the mark of Punycode. -/
def isPunycode (label : List UInt8) : Bool :=
  (Text.toBytes Idna.punycodeMark).isPrefixOf label

/-- A label as it is printed. -/
def printLabel (label : List UInt8) : Text :=
  if isPunycode label then
    (Idna.toUnicode? (Text.ofBytesLossy label)).getD (printBytes label)
  else printBytes label

/-- A name as it is printed. -/
def print (n : WireName) : Text :=
  ['.'].intercalate (n.labels.map printLabel) ++ (if n.isAbsolute then ['.'] else [])

/-! ## §2. Reading. -/

/-- The name that a plain text stands for; it is absolute if it ends with a dot. -/
def ofText (t : Text) : WireName :=
  let isAbsolute := t.getLast? = some '.'
  let body := if isAbsolute then t.dropLast else t
  ⟨if body.isEmpty then [] else (body.splitOn '.').map Text.toBytes, isAbsolute⟩

/-- The greatest length of a label. -/
def maxLabelLength : Nat := 63

/-- Names have fewer bytes than this, a dot counted for each label. -/
def lengthLimit : Nat := 255

/-- The bytes of a name, a dot counted for each label. -/
def length (labels : List (List UInt8)) : Nat := labels.foldr (fun l n => l.length + 1 + n) 0

/-- Reads labels up to the closing zero; what follows it is not looked at.
Greater lengths than that of a label are pointers or reserved, and a pointer
cannot point before the name.  Each label takes a byte at least, so `fuel` is
the number of bytes. -/
def readLabels? : Nat → List UInt8 → Option (List (List UInt8))
  | 0, _ => none
  | _ + 1, [] => none
  | fuel + 1, size :: rest =>
    if size = 0 then some []
    else if maxLabelLength < size.toNat || rest.length < size.toNat then none
    else (readLabels? fuel (rest.drop size.toNat)).map (rest.take size.toNat :: ·)

/-- The name at the beginning of some bytes. -/
def ofWire? (bytes : List UInt8) : Option WireName :=
  match readLabels? bytes.length bytes with
  | none => none
  | some labels => if length labels < lengthLimit then some ⟨labels, true⟩ else none

end WireName

/-! ## §3. Libraries. -/

/-- What a resolver library does with names. -/
structure NameLibrary where
  /-- Reads the name at the beginning of some bytes. -/
  read? : List UInt8 → Option WireName
  /-- Prints a name. -/
  print : WireName → Text

/-- The library that reads and prints as above. -/
def NameLibrary.standard : NameLibrary := ⟨WireName.ofWire?, WireName.print⟩

end DomainScope
