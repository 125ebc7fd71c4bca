/-
  DomainScope.Address.Basic
  ─────────────────────────
  **IP ADDRESSES.**

  An address is a word of 32 or 128 bits.  Arithmetic on addresses is done on
  their values as natural numbers, within one family.
-/
import DomainScope.Text.Numeral

namespace DomainScope

/-! ## §1. Families. -/

/-- The versions of the Internet Protocol. -/
inductive Family where
  | v4
  | v6
  deriving DecidableEq, Repr

/-- The number of bits of an address. -/
def Family.width : Family → Nat
  | .v4 => 32
  | .v6 => 128

/-- The name of the version. -/
def Family.name : Family → String
  | .v4 => "IPv4"
  | .v6 => "IPv6"

/-! ## §2. Addresses. -/

/-- An address of either family. -/
inductive Address where
  | v4 (bits : BitVec 32)
  | v6 (bits : BitVec 128)
  deriving DecidableEq, Repr

namespace Address

/-- The family of an address. -/
def family : Address → Family
  | .v4 _ => .v4
  | .v6 _ => .v6

/-- The value of an address. -/
def value : Address → Nat
  | .v4 bits => bits.toNat
  | .v6 bits => bits.toNat

/-- The address with a value; higher bits are cut off. -/
def ofValue : Family → Nat → Address
  | .v4, n => .v4 (BitVec.ofNat 32 n)
  | .v6, n => .v6 (BitVec.ofNat 128 n)

/-- The greatest value of a family. -/
def greatest (f : Family) : Nat := 1 <<< f.width - 1

/-- The address that follows, if any does. -/
def next? (a : Address) : Option Address :=
  if a.value = greatest a.family then none else some (ofValue a.family (a.value + 1))

/-! ## §3. Values and addresses determine each other. -/

@[simp] theorem ofValue_value (a : Address) : ofValue a.family a.value = a := by
  cases a <;> simp [ofValue, family, value]

@[simp] theorem family_ofValue (f : Family) (n : Nat) : (ofValue f n).family = f := by
  cases f <;> rfl

theorem value_le (a : Address) : a.value ≤ greatest a.family := by
  cases a with
  | v4 bits =>
    have h := bits.isLt
    show bits.toNat ≤ 1 <<< 32 - 1
    omega
  | v6 bits =>
    have h := bits.isLt
    show bits.toNat ≤ 1 <<< 128 - 1
    omega

theorem value_ofValue {f : Family} {n : Nat} (h : n ≤ greatest f) : (ofValue f n).value = n := by
  cases f with
  | v4 =>
    have h' : n ≤ 1 <<< 32 - 1 := h
    exact Nat.mod_eq_of_lt (by omega)
  | v6 =>
    have h' : n ≤ 1 <<< 128 - 1 := h
    exact Nat.mod_eq_of_lt (by omega)

end Address

end DomainScope
