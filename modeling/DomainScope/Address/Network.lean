/-
  DomainScope.Address.Network
  ───────────────────────────
  **NETWORKS.**

  A network is given by an address and the number of leading bits that its
  addresses share.  With `h` bits left for hosts it runs from its first
  address, whose low `h` bits are zero, over `2 ^ h` addresses.  Its usable
  addresses are those strictly between the first and the last; they are
  counted and enumerated on demand, and never all listed.
-/
import DomainScope.Address.Written

namespace DomainScope

/-! ## §1. Errors. -/

/-- What can be wrong with a network. -/
inductive NetworkError where
  /-- The text is not an address, a slash and a number of at most 255. -/
  | notCidr (text : Text)
  /-- More shared bits than the address has. -/
  | tooLong (bits greatest : Nat)
  deriving DecidableEq, Repr

/-- The report on a network. -/
def NetworkError.message : NetworkError → Text
  | .notCidr text =>
    "invalid network '".toList ++ text ++ "': expected address/prefix".toList
  | .tooLong bits greatest =>
    "invalid prefix /".toList ++ Text.decimal bits ++ ": must be at most ".toList
      ++ Text.decimal greatest

/-! ## §2. Usable addresses. -/

/-- The addresses of a family from one value up to another, which is left out. -/
structure HostRange where
  family : Family
  next : Nat
  stop : Nat
  next_le_stop : next ≤ stop
  deriving DecidableEq, Repr

namespace HostRange

/-- The number of addresses left. -/
def remaining (r : HostRange) : Nat := r.stop - r.next

/-- The next address and what is left after it. -/
def pop? (r : HostRange) : Option (Address × HostRange) :=
  if h : r.next < r.stop then
    some (.ofValue r.family r.next, { r with next := r.next + 1, next_le_stop := h })
  else none

/-- The first `count` addresses and what is left after them. -/
def take : Nat → HostRange → List Address × HostRange
  | 0, r => ([], r)
  | count + 1, r =>
    match r.pop? with
    | none => ([], r)
    | some (a, rest) =>
      let (more, last) := take count rest
      (a :: more, last)

/-- The bounds on the number of addresses left that a word of 64 bits can
hold: the number itself, or the greatest word and no upper bound. -/
def sizeBounds (r : HostRange) : Nat × Option Nat :=
  if r.remaining < 1 <<< 64 then (r.remaining, some r.remaining) else (1 <<< 64 - 1, none)

end HostRange

/-! ## §3. Networks. -/

/-- A network: its first address, its last one unless it has only one, and its
usable addresses if it has more than two. -/
structure Network where
  first : Address
  last : Option Address
  usable : Option HostRange
  deriving DecidableEq, Repr

namespace Network

/-- The first value of the network of `2 ^ hostBits` values around a value. -/
def firstValue (value hostBits : Nat) : Nat := value - value % (1 <<< hostBits)

/-- The last value of that network. -/
def lastValue (value hostBits : Nat) : Nat := firstValue value hostBits + (1 <<< hostBits - 1)

/-- The network around an address that shares its first `bits` bits. -/
def of (a : Address) (bits : Nat) : Except NetworkError Network :=
  let width := a.family.width
  if bits > width then .error (.tooLong bits width)
  else
    let hostBits := width - bits
    let first := firstValue a.value hostBits
    let last := lastValue a.value hostBits
    let at_ := Address.ofValue a.family
    -- One address has no last one, and of two none is left for hosts.
    if h0 : hostBits = 0 then .ok ⟨at_ first, none, none⟩
    else if hostBits = 1 then .ok ⟨at_ first, some (at_ last), none⟩
    else
      have hle : first + 1 ≤ last := by
        have hpos : 2 ≤ 1 <<< hostBits := by
          rw [Nat.one_shiftLeft]
          exact Nat.le_self_pow h0 2
        simp only [last, first, lastValue]
        omega
      .ok ⟨at_ first, some (at_ last), some ⟨a.family, first + 1, last, hle⟩⟩

/-! ## §4. Networks as text. -/

/-- Reads an address, a slash and the number of shared bits. -/
def readCidr (text : Text) : Except NetworkError (Address × Nat) :=
  match Text.splitFirst '/' text with
  | none => .error (.notCidr text)
  | some (front, back) =>
    match Address.read? front, Text.boundedCount? 255 back with
    | some a, some bits =>
      if bits > a.family.width then .error (.tooLong bits a.family.width) else .ok (a, bits)
    | _, _ => .error (.notCidr text)

/-- The network that a text describes. -/
def ofCidr (text : Text) : Except NetworkError Network := do
  let (a, bits) ← readCidr text
  of a bits

end Network

end DomainScope
