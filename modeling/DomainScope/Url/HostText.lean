/-
  DomainScope.Url.HostText
  ────────────────────────
  **READING HOSTS.**

  A host in brackets is an IPv6 address.  For the schemes of the web every
  other host is percent-decoded and read as an internationalized domain name;
  if its last label is a number, it must be an IPv4 address, whose numbers may
  be decimal, octal or hexadecimal and of which the last fills all bytes left.
  For other schemes a host is any text without a handful of characters.
-/
import DomainScope.Idna.Domain
import DomainScope.Url.Basic
import DomainScope.Url.Percent

namespace DomainScope.HostText

/-! ## §1. IPv4 addresses of the web. -/

/-- The digits of a number and their base: `0x` is base 16, another leading
zero base 8. -/
def numberParts : Text → Nat × Text
  | '0' :: 'x' :: digits => (16, digits)
  | '0' :: 'X' :: digits => (16, digits)
  | '0' :: d :: digits => (8, d :: digits)
  | digits => (10, digits)

/-- Reads a number; no digits after `0x` are zero. -/
def readNumber? (t : Text) : Option Nat :=
  if t.isEmpty then none
  else
    let (base, digits) := numberParts t
    Text.digitsFrom? base 0 digits

/-- The labels of a name, without an empty last one. -/
def significantLabels (name : Text) : List Text :=
  match (Name.labels name).reverse with
  | [] :: rest => rest.reverse
  | ls => ls.reverse

/-- Whether the last label of a name is a number. -/
def endsInNumber (name : Text) : Bool :=
  match (significantLabels name).getLast? with
  | none => false
  | some last => (!last.isEmpty && last.all Char.isDigit) || (readNumber? last).isSome

/-- The value of an address given by numbers: each but the last is a byte, and
the last fills the bytes left. -/
def v4Value? (numbers : List Nat) : Option Nat :=
  match numbers.reverse with
  | [] => none
  | last :: front =>
    if 4 < numbers.length || front.any (255 < ·) then none
    else if 1 <<< (8 * (4 - front.length)) ≤ last then none
    else
      some (front.reverse.foldl (fun n b => n * 256 + b) 0 <<< (8 * (4 - front.length)) + last)

/-- Reads a name whose last label is a number. -/
def readV4? (name : Text) : Option (BitVec 32) :=
  match (significantLabels name).mapM readNumber? with
  | none => none
  | some numbers => (v4Value? numbers).map (BitVec.ofNat 32)

/-! ## §2. Hosts. -/

/-- The characters of ASCII that no domain name of the web holds. -/
def isDenied (c : Char) : Bool :=
  c.toNat ≤ 0x20 || c.toNat = 0x7F
    || ['%', '#', '/', ':', '<', '>', '?', '@', '[', '\\', ']', '^', '|'].elem c

/-- The characters that no host holds. -/
def isForbidden (c : Char) : Bool :=
  ['\x00', '\x09', '\x0a', '\x0d', ' ', '#', '/', ':', '<', '>', '?', '@', '[', '\\', ']', '^',
    '|'].elem c

/-- Reads a host that begins with a bracket. -/
def readBracketed (t : Text) : Except UrlError Host :=
  if t.getLast? ≠ some ']' then .error .v6
  else
    match Address.readV6? (t.drop 1).dropLast with
    | some (.v6 bits) => .ok (.v6 bits)
    | _ => .error .v6

/-- Reads a host of a special scheme. -/
def readSpecial (t : Text) : Except UrlError Host :=
  if t.head? = some '[' then readBracketed t
  else
    match (Text.ofBytes? (Percent.decode t)).bind (Idna.toAscii? isDenied) with
    | none => .error .domain
    | some [] => .error .emptyHost
    | some name =>
      if endsInNumber name then
        match readV4? name with
        | some bits => .ok (.v4 bits)
        | none => .error .v4
      else .ok (.name name)

/-- Reads a host of any other scheme. -/
def readOther (t : Text) : Except UrlError Host :=
  if t.head? = some '[' then readBracketed t
  else if t.any isForbidden then .error .hostCharacter
  else .ok (.name (Percent.encode [] t))

end DomainScope.HostText
