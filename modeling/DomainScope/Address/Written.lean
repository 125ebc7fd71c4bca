/-
  DomainScope.Address.Written
  ───────────────────────────
  **THE WRITTEN FORMS OF IP ADDRESSES.**

  IPv4 addresses are four decimal numbers without leading zeros.  IPv6
  addresses are eight groups of hexadecimal digits; the longest run of two or
  more zero groups (the first of them on ties) is written `::`, and addresses
  that map an IPv4 address end in its dotted form.

  The reader takes every form that the writer gives, and also groups with
  leading zeros, `::` for a single group, and a dotted end on any address.
-/
import DomainScope.Address.Basic

namespace DomainScope.Address

open Text

/-! ## §1. Octets and groups. -/

/-- The digits of a number in a base, from the highest, `count` of them. -/
def digitsOf (base : Nat) : Nat → Nat → List Nat
  | 0, _ => []
  | count + 1, n => digitsOf base count (n / base) ++ [n % base]

/-- The number with the given digits in a base, from the highest. -/
def ofDigits (base : Nat) (digits : List Nat) : Nat :=
  digits.foldl (fun n d => n * base + d) 0

/-- The four octets of an IPv4 address. -/
def octets (bits : BitVec 32) : List Nat := digitsOf 0x100 4 bits.toNat

/-- The eight groups of an IPv6 address. -/
def groups (bits : BitVec 128) : List Nat := digitsOf 0x10000 8 bits.toNat

/-! ## §2. Writing. -/

/-- The dotted form of four octets. -/
def dotted (os : List Nat) : Text := ['.'].intercalate (os.map decimal)

/-- The length of the run of zeros that a list begins with. -/
def zeroRun (gs : List Nat) : Nat := (gs.takeWhile (· = 0)).length

/-- The place and the length of the longest run of zeros, the first on ties,
among the groups from place `at_` on. -/
def longestRun (at_ : Nat) : List Nat → Nat × Nat
  | [] => (at_, 0)
  | g :: gs =>
    let here := zeroRun (g :: gs)
    let later := longestRun (at_ + 1) gs
    if later.2 > here then later else (at_, here)

/-- Groups in hexadecimal with colons between them. -/
def colonForm (gs : List Nat) : Text := [':'].intercalate (gs.map hexadecimal)

/-- The groups with the longest run of two or more zeros left out. -/
def compressed (gs : List Nat) : Text :=
  let (place, length) := longestRun 0 gs
  if length < 2 then colonForm gs
  else colonForm (gs.take place) ++ [':', ':'] ++ colonForm (gs.drop (place + length))

/-- The value under which IPv6 maps the IPv4 addresses. -/
def mappedBase : Nat := 0xFFFF <<< 32

/-- The IPv4 address that an IPv6 address maps, if it maps one. -/
def mapped? (bits : BitVec 128) : Option (BitVec 32) :=
  if bits.toNat >>> 32 <<< 32 = mappedBase then some (BitVec.ofNat 32 bits.toNat) else none

/-- The written form of an address. -/
def write : Address → Text
  | .v4 bits => dotted (octets bits)
  | .v6 bits =>
    match mapped? bits with
    | some inner => "::ffff:".toList ++ dotted (octets inner)
    | none => compressed (groups bits)

/-! ## §3. Reading. -/

/-- Reads an octet: one to three digits without leading zero, 255 at most. -/
def readOctet? (t : Text) : Option Nat :=
  if t.length > 3 || (t.length > 1 && t.head? = some '0') then none
  else boundedNumeral? 255 t

/-- Reads four octets with dots between them. -/
def readDotted? (t : Text) : Option (List Nat) :=
  let pieces := t.splitOn '.'
  if pieces.length = 4 then pieces.mapM readOctet? else none

/-- Reads a group: one to four hexadecimal digits. -/
def readGroup? (t : Text) : Option Nat :=
  if t.length > 4 then none else numeral? 16 t

/-- Reads groups, the last of which may be two groups in dotted form. -/
def readPieces? : List Text → Option (List Nat)
  | [] => some []
  | [last] =>
    if '.' ∈ last then
      (readDotted? last).map fun os => digitsOf 0x10000 2 (ofDigits 0x100 os)
    else (readGroup? last).map ([·])
  | piece :: rest => do
    let g ← readGroup? piece
    let gs ← readPieces? rest
    return g :: gs

/-- Reads groups with colons between them; no text is no group. -/
def readColonForm? (t : Text) : Option (List Nat) :=
  if t.isEmpty then some [] else readPieces? (t.splitOn ':')

/-- What stands before the first `::` and what follows it, if there is one. -/
def splitGap? : Text → Option (Text × Text)
  | ':' :: ':' :: rest => some ([], rest)
  | c :: rest => (splitGap? rest).map fun (before, after) => (c :: before, after)
  | [] => none

/-- Reads the eight groups of an IPv6 address. -/
def readGroups? (t : Text) : Option (List Nat) :=
  match splitGap? t with
  | none => (readColonForm? t).filter (·.length = 8)
  | some (before, after) => do
    -- The dotted form can only close the whole address.
    if '.' ∈ before then none
    let front ← readColonForm? before
    let back ← readColonForm? after
    let missing := 8 - (front.length + back.length)
    -- The gap stands for one group at least.
    if missing = 0 then none
    return front ++ List.replicate missing 0 ++ back

/-- Reads an IPv4 address. -/
def readV4? (t : Text) : Option Address :=
  (readDotted? t).map fun os => ofValue .v4 (ofDigits 0x100 os)

/-- Reads an IPv6 address. -/
def readV6? (t : Text) : Option Address :=
  (readGroups? t).map fun gs => ofValue .v6 (ofDigits 0x10000 gs)

/-- Reads an address of either family. -/
def read? (t : Text) : Option Address := (readV4? t).or (readV6? t)

end DomainScope.Address
