/-
  DomainScope.Address.Word
  ────────────────────────
  **NETWORKS IN MACHINE WORDS.**

  The same networks on words of fixed size: addresses of both families are
  computed on words of 128 bits, the numbers of bits are words of 8 and 32
  bits, and the bits left for hosts are cut off with a mask.  A sum or a
  difference that does not fit its word has no value, and neither has a shift
  by the size of the word or more; a computation that runs into one has no
  result.

  Main definitions
    `Address.following`   the address that follows
    `WordRange.call`      one call for the next usable address
    `WordNetwork.of`      the network around an address
-/
import DomainScope.Address.Network
import Mathlib.Algebra.Group.Nat.Defs

namespace DomainScope

/-! ## §1. Words. -/

/-- The words that addresses are computed on. -/
abbrev Word := BitVec 128

/-- The words that hold a number of leading bits. -/
abbrev Byte := BitVec 8

/-- The result of a computation on words, if every step of it has one. -/
abbrev Checked := Option

section Steps

variable {w : Nat}

/-- The sum of two words. -/
def addWord (a b : BitVec w) : Checked (BitVec w) :=
  if a.toNat + b.toNat < 2 ^ w then some (a + b) else none

/-- The difference of two words. -/
def subWord (a b : BitVec w) : Checked (BitVec w) :=
  if b.toNat ≤ a.toNat then some (a - b) else none

/-- A word moved to the right. -/
def shiftWord (a : BitVec w) (count : BitVec 32) : Checked (BitVec w) :=
  if count.toNat < w then some (a >>> count.toNat) else none

end Steps

/-! ## §2. Addresses. -/

/-- The number of bits of an address. -/
def Family.byte : Family → Byte
  | .v4 => 32
  | .v6 => 128

namespace Address

/-- The value of an address as a word. -/
def word : Address → Word
  | .v4 bits => bits.setWidth 128
  | .v6 bits => bits

/-- The address of `width` bits with a value, whose higher bits are cut off. -/
def ofWord (width : Byte) (value : Word) : Address :=
  if width = 32 then .v4 (value.setWidth 32) else .v6 value

/-- The greatest value of an address of `width` bits. -/
def greatestWord (width : Byte) : Checked Word := do
  let spare ← subWord 128 (width.setWidth 32)
  shiftWord (BitVec.allOnes 128) spare

/-- The address that follows, if any does. -/
def following (a : Address) : Checked (Option Address) := do
  let width := a.family.byte
  let greatest ← greatestWord width
  if a.word = greatest then some none
  else (addWord a.word 1).map fun next => some (ofWord width next)

end Address

/-! ## §3. Usable addresses. -/

/-- The addresses of `width` bits from one value up to another, which is left
out. -/
structure WordRange where
  next : Word
  stop : Word
  width : Byte
  deriving DecidableEq, Repr

namespace WordRange

/-- The number of addresses left. -/
def remaining (r : WordRange) : Checked Word := subWord r.stop r.next

/-- A call for the next address: the address, if one is left, and the range
after the call. -/
def call (r : WordRange) : Checked (Option Address × WordRange) :=
  if r.stop ≤ r.next then some (none, r)
  else (addWord r.next 1).map fun next => (some (.ofWord r.width r.next), { r with next })

/-- The answers to a number of calls, and the range after them. -/
def calls : Nat → WordRange → Checked (List (Option Address) × WordRange)
  | 0, r => some ([], r)
  | count + 1, r => do
    let (answer, rest) ← r.call
    let (answers, last) ← calls count rest
    some (answer :: answers, last)

/-- The bounds on the number of addresses left in a word of 64 bits. -/
def sizeHint (r : WordRange) : Checked (BitVec 64 × Option (BitVec 64)) :=
  r.remaining.map fun left =>
    if left.toNat < 2 ^ 64 then (left.setWidth 64, some (left.setWidth 64))
    else (BitVec.allOnes 64, none)

end WordRange

/-! ## §4. Networks. -/

/-- A network: its first address, its last one unless it has only one, and its
usable addresses if it has more than two. -/
structure WordNetwork where
  first : Address
  last : Option Address
  usable : Option WordRange
  deriving DecidableEq, Repr

namespace WordNetwork

/-- The bits left for hosts, all set. -/
def hostMask (hostBits : BitVec 32) : Checked Word := do
  let spare ← subWord 128 hostBits
  -- With no bit left for hosts, all of them move out of the word.
  some ((shiftWord (BitVec.allOnes 128) spare).getD 0)

/-- The network around an address that shares its first `bits` bits. -/
def of (a : Address) (bits : Byte) : Checked (Except NetworkError WordNetwork) :=
  let width := a.family.byte
  if width < bits then some (.error (.tooLong bits.toNat width.toNat))
  else do
    let hostBits := (← subWord width bits).setWidth 32
    let mask ← hostMask hostBits
    let first := a.word &&& ~~~mask
    let last := first ||| mask
    let at_ := Address.ofWord width
    if hostBits = 0 then some (.ok ⟨at_ first, none, none⟩)
    else if hostBits = 1 then some (.ok ⟨at_ first, some (at_ last), none⟩)
    else (addWord first 1).map fun next =>
      .ok ⟨at_ first, some (at_ last), some ⟨next, last, width⟩⟩

end WordNetwork

end DomainScope
