/-
  DomainScope.Name.Bytes
  ──────────────────────
  **CHECKING A NAME BYTE BY BYTE.**

  The check of a name on the bytes of its UTF-8: one pass over all the bytes,
  which remembers the byte before, the length of the label so far and whether a
  byte has named, then what concerns the name as a whole.  Every character that
  a name may hold is one byte, and the first byte of any other character already
  ends the pass.

  Main definitions
    `Name.Bytes.walk`      the pass, up to the first fault
    `Name.Bytes.fault?`    the first rule that a row of bytes breaks
-/
import DomainScope.Name.Validate

namespace DomainScope.Name.Bytes

/-! ## §1. Bytes with a meaning. -/

/-- The byte of `.`, which stands between labels. -/
def dot : UInt8 := 0x2E

/-- The byte of `-`, with which no label begins or ends. -/
def hyphen : UInt8 := 0x2D

/-- The byte of `_`, which counts as a letter. -/
def underscore : UInt8 := 0x5F

/-- A byte that makes a name more than a number: of `a` to `z`, `A` to `Z`, or `_`. -/
def isNaming (b : UInt8) : Bool :=
  (0x61 ≤ b && b ≤ 0x7A) || (0x41 ≤ b && b ≤ 0x5A) || b == underscore

/-- The byte of a digit. -/
def isDigit (b : UInt8) : Bool := 0x30 ≤ b && b ≤ 0x39

/-! ## §2. The pass. -/

/-- Closes a label: the byte read last, and the length of the label. -/
def closeLabel (last : UInt8) (length : Nat) : Option Fault :=
  if last = hyphen then some .hyphen
  else if length > maxLabelLength then some .labelLength
  else none

/-- Passes over the bytes: `last` is the byte before (a dot at the start), `length`
the length of the label so far, `named` whether a byte that names has been met.
Gives the fault at which it stops, or `named` at the end. -/
def walk (last : UInt8) (length : Nat) (named : Bool) : List UInt8 → Except Fault Bool
  | [] =>
    match closeLabel last length with
    | some fault => .error fault
    | none => .ok named
  | b :: bs =>
    if isNaming b then walk b (length + 1) true bs
    else if isDigit b then walk b (length + 1) named bs
    else if b = hyphen then
      if last = dot then .error .hyphen else walk b (length + 1) named bs
    else if b = dot then
      if last = dot then .error .emptyLabel
      else
        match closeLabel last length with
        | some fault => .error fault
        | none => walk b 0 named bs
    else .error .character

/-! ## §3. The whole check. -/

/-- Whether a row of bytes has a length that no name has. -/
def badLength (bytes : List UInt8) : Bool :=
  bytes.length = 0 || bytes.length > maxLength + 1
    || (bytes.length = maxLength + 1 && bytes.getLast? ≠ some dot)

/-- The bytes without the one dot that may close them. -/
def dropFinalDot (bytes : List UInt8) : List UInt8 :=
  if bytes.getLast? = some dot then bytes.dropLast else bytes

/-- The first rule that a row of bytes breaks. -/
def fault? (policy : Policy) (bytes : List UInt8) : Option Fault :=
  if badLength bytes then some .length
  else if bytes = [dot] then
    if policy.acceptsRootAndBareTld then none else some .root
  else if bytes.head? = some dot then some .leadingDot
  else
    match walk dot 0 false bytes with
    | .error fault => some fault
    | .ok named =>
      if policy.acceptsRootAndBareTld = false ∧ dot ∉ dropFinalDot bytes then some .bareTld
      else if named = false then some .numeric
      else none

end DomainScope.Name.Bytes
