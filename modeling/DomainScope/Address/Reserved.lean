/-
  DomainScope.Address.Reserved
  ────────────────────────────
  **RESERVED RANGES.**

  The special-purpose ranges of both families, in the order of the registries.
  An address is reported with the first range of its family that holds it.
-/
import DomainScope.Address.Basic

namespace DomainScope

/-! ## §1. Ranges. -/

/-- The addresses that share their first `bits` bits with `network`. -/
structure ReservedRange where
  network : Address
  bits : Nat
  description : String
  deriving DecidableEq, Repr

/-- The bits that tell the range apart: the leading `bits` of `width` ones.
None are left for zero, and none for more bits than an address has. -/
def leadingMask (width bits : Nat) : BitVec width :=
  if bits = 0 ∨ width < bits then 0 else BitVec.allOnes width <<< (width - bits)

/-- Whether an address is in the range; the families never mix. -/
def ReservedRange.holds (range : ReservedRange) (a : Address) : Bool :=
  match range.network, a with
  | .v4 net, .v4 bits =>
    net &&& leadingMask 32 range.bits = bits &&& leadingMask 32 range.bits
  | .v6 net, .v6 bits =>
    net &&& leadingMask 128 range.bits = bits &&& leadingMask 128 range.bits
  | _, _ => false

namespace Reserved

/-- A range of IPv4 addresses, given by the four octets of the network. -/
def range4 (a b c d : Nat) (bits : Nat) (description : String) : ReservedRange :=
  ⟨.v4 (BitVec.ofNat 32 (((a * 0x100 + b) * 0x100 + c) * 0x100 + d)), bits, description⟩

/-- A range of IPv6 addresses, given by the eight groups of the network. -/
def range6 (groups : List Nat) (bits : Nat) (description : String) : ReservedRange :=
  ⟨.v6 (BitVec.ofNat 128 (groups.foldl (fun n g => n * 0x10000 + g) 0)), bits, description⟩

/-! ## §2. The registries. -/

/-- The reserved ranges of IPv4. -/
def table4 : List ReservedRange :=
  [range4 0 0 0 0 8 "\"This\" network",
    range4 10 0 0 0 8 "Private-Use",
    range4 100 64 0 0 10 "Shared Address Space",
    range4 127 0 0 0 8 "Loopback",
    range4 169 254 0 0 16 "Link Local",
    range4 172 16 0 0 12 "Private-Use",
    range4 192 0 0 0 24 "IETF Protocol Assignments",
    range4 192 0 2 0 24 "Documentation (TEST-NET-1)",
    range4 192 88 99 0 24 "Deprecated (6to4 Relay Anycast)",
    range4 192 168 0 0 16 "Private-Use",
    range4 198 18 0 0 15 "Benchmarking",
    range4 198 51 100 0 24 "Documentation (TEST-NET-2)",
    range4 203 0 113 0 24 "Documentation (TEST-NET-3)",
    range4 224 0 0 0 4 "Multicast",
    range4 233 252 0 0 24 "Documentation (MCAST-TEST-NET)",
    range4 240 0 0 0 4 "Reserved",
    range4 255 255 255 255 32 "Limited Broadcast"]

/-- The reserved ranges of IPv6. -/
def table6 : List ReservedRange :=
  [range6 [0, 0, 0, 0, 0, 0, 0, 0] 128 "Unspecified Address",
    range6 [0, 0, 0, 0, 0, 0, 0, 1] 128 "Loopback Address",
    range6 [0, 0, 0, 0, 0, 0xFFFF, 0, 0] 96 "IPv4-mapped Address",
    range6 [0, 0, 0, 0, 0xFFFF, 0, 0, 0] 96 "IPv4-translated Address",
    range6 [0x64, 0xFF9B, 0, 0, 0, 0, 0, 0] 96 "IPv4-IPv6 Translation",
    range6 [0x64, 0xFF9B, 1, 0, 0, 0, 0, 0] 48 "IPv4-IPv6 Translation",
    range6 [0x100, 0, 0, 0, 0, 0, 0, 0] 64 "Discard-Only Address Block",
    range6 [0x2001, 0, 0, 0, 0, 0, 0, 0] 32 "IETF Protocol Assignments",
    range6 [0x2001, 0x20, 0, 0, 0, 0, 0, 0] 28 "ORCHIDv2",
    range6 [0x2001, 0xDB8, 0, 0, 0, 0, 0, 0] 32 "Documentation",
    range6 [0x2002, 0, 0, 0, 0, 0, 0, 0] 16 "6to4",
    range6 [0xFC00, 0, 0, 0, 0, 0, 0, 0] 7 "Unique-Local",
    range6 [0xFE80, 0, 0, 0, 0, 0, 0, 0] 10 "Link-Local Unicast",
    range6 [0xFF00, 0, 0, 0, 0, 0, 0, 0] 8 "Multicast"]

/-- The reserved ranges of a family. -/
def table : Family → List ReservedRange
  | .v4 => table4
  | .v6 => table6

/-- The first reserved range that holds an address. -/
def range? (a : Address) : Option ReservedRange :=
  (table a.family).find? (·.holds a)

/-- Whether an address is in a reserved range of its family. -/
def isReserved (a : Address) : Bool := (range? a).isSome

end Reserved

end DomainScope
