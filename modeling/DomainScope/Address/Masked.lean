/-
  DomainScope.Address.Masked
  ──────────────────────────
  **RANGES IN MACHINE WORDS.**

  The same test for a range of addresses on words of the size of an address: a
  word of ones is moved to the left until the bits that tell the range apart are
  left of it, and what two addresses have there is compared.  As for networks,
  a difference that does not fit its word has no value, and neither has a shift
  by the size of the word or more.
-/
import DomainScope.Address.Reserved
import DomainScope.Address.Word

namespace DomainScope

/-! ## §1. Masks. -/

section Steps

variable {w : Nat}

/-- A word moved to the left. -/
def raiseWord (a : BitVec w) (count : BitVec 32) : Checked (BitVec w) :=
  if count.toNat < w then some (a <<< count.toNat) else none

end Steps

/-- The leading `bits` bits of a word of `w` bits, all set. -/
def leadingWord (w : Nat) (bits : Byte) : Checked (BitVec w) := do
  let spare ← subWord (BitVec.ofNat 32 w) (bits.setWidth 32)
  -- With no bit to tell a range apart, all of them move out of the word.
  some ((raiseWord (BitVec.allOnes w) spare).getD 0)

/-! ## §2. Ranges. -/

/-- Whether an address shares the first `bits` bits of another one; the families
never mix. -/
def Address.sharesLeading (network : Address) (bits : Byte) (a : Address) : Checked Bool :=
  match network, a with
  | .v4 net, .v4 host => do
    let mask ← leadingWord 32 bits
    some (net &&& mask = host &&& mask)
  | .v6 net, .v6 host => do
    let mask ← leadingWord 128 bits
    some (net &&& mask = host &&& mask)
  | _, _ => some false

/-- The same test as for a range of the registries. -/
def ReservedRange.holdsWord (range : ReservedRange) (a : Address) : Checked Bool :=
  range.network.sharesLeading (BitVec.ofNat 8 range.bits) a

end DomainScope
