/-
  DomainScope.Text.Numeral
  ────────────────────────
  **NUMERALS.**

  Decimal and hexadecimal numerals, written without leading zeros and read
  with or without them.  A reader that knows a greatest value refuses larger
  numerals, however many digits they have.
-/
import DomainScope.Text.Basic

namespace DomainScope.Text

/-! ## §1. Digits. -/

/-- The value of a digit in a base of at most 36, letters in either case. -/
def digitValue? (base : Nat) (c : Char) : Option Nat :=
  let value :=
    if c.isDigit then c.toNat - '0'.toNat
    else if c.isAlpha then c.toLower.toNat - 'a'.toNat + 10
    else base
  if value < base then some value else none

/-- The number that a row of digits stands for, continuing from `start`. -/
def digitsFrom? (base : Nat) : Nat → Text → Option Nat
  | start, [] => some start
  | start, c :: cs => (digitValue? base c).bind fun d => digitsFrom? base (start * base + d) cs

/-- The number that one or more digits stand for. -/
def numeral? (base : Nat) (t : Text) : Option Nat :=
  if t.isEmpty then none else digitsFrom? base 0 t

/-! ## §2. Numbers with a greatest value. -/

/-- A decimal numeral of at most `greatest`; leading zeros are allowed. -/
def boundedNumeral? (greatest : Nat) (t : Text) : Option Nat :=
  (numeral? 10 t).filter (· ≤ greatest)

/-- A decimal numeral of at most `greatest`, possibly after one plus sign. -/
def boundedCount? (greatest : Nat) (t : Text) : Option Nat :=
  boundedNumeral? greatest ((['+'].isPrefixOf? t).getD t)

/-! ## §3. Writing. -/

/-- The decimal numeral of a number. -/
def decimal (n : Nat) : Text := Nat.toDigits 10 n

/-- The decimal numeral of an integer, after a minus sign if it is negative. -/
def signedDecimal (n : Int) : Text :=
  if n < 0 then '-' :: decimal n.natAbs else decimal n.natAbs

/-- The hexadecimal numeral of a number, with small letters. -/
def hexadecimal (n : Nat) : Text := Nat.toDigits 16 n

end DomainScope.Text
