/-
  DomainScope.Idna.Punycode
  ─────────────────────────
  **LABELS IN ASCII.**

  A label with characters beyond ASCII is written in ASCII by Punycode: its
  ASCII characters, a hyphen if there are any, and then the other characters in
  ascending order, each by the distance to the one before.  Distances are
  written in digits `a` to `z` and `0` to `9`, the lowest first; the threshold
  that marks the last digit adapts to the distances seen.

  Main definitions
    `Punycode.decode?`   the label that some digits stand for
    `Punycode.encode`    the digits of a label
-/
import DomainScope.Text.Basic

namespace DomainScope.Punycode

/-! ## §1. Digits and thresholds. -/

/-- The value of a digit. -/
def digit? (c : Char) : Option Nat :=
  if 'a' ≤ c ∧ c ≤ 'z' then some (c.toNat - 'a'.toNat)
  else if 'A' ≤ c ∧ c ≤ 'Z' then some (c.toNat - 'A'.toNat)
  else if '0' ≤ c ∧ c ≤ '9' then some (c.toNat - '0'.toNat + 26)
  else none

/-- The digit of a value below 36. -/
def digit (n : Nat) : Char :=
  if n < 26 then Char.ofNat ('a'.toNat + n) else Char.ofNat ('0'.toNat + (n - 26))

/-- The threshold at the digit of weight `k`. -/
def threshold (k bias : Nat) : Nat :=
  if k ≤ bias then 1 else if k ≥ bias + 26 then 26 else k - bias

/-- Divides a distance down and counts the steps by 36. -/
def settle (delta k : Nat) : Nat :=
  if delta > 455 then settle (delta / 35) (k + 36) else k + 36 * delta / (delta + 38)
termination_by delta
decreasing_by omega

/-- The bias after a distance; `count` characters are then known. -/
def adapt (delta count : Nat) (isFirst : Bool) : Nat :=
  let scaled := if isFirst then delta / 700 else delta / 2
  settle (scaled + scaled / count) 0

/-! ## §2. Reading. -/

/-- Numbers from here on do not fit the words of the format. -/
def wordLimit : Nat := 1 <<< 32

/-- Reads a distance that continues `sum`, and what follows it. -/
def readDistance? (bias k weight sum : Nat) : Text → Option (Nat × Text)
  | [] => none
  | c :: cs =>
    match digit? c with
    | none => none
    | some d =>
      let total := sum + d * weight
      let t := threshold k bias
      if total ≥ wordLimit then none
      else if d < t then some (total, cs)
      else if weight * (36 - t) ≥ wordLimit then none
      else readDistance? bias (k + 36) (weight * (36 - t)) total cs

/-- Whether a number is that of a character. -/
def isCharacter (n : Nat) : Bool := n < 0xD800 || (0xDFFF < n && n < 0x110000)

/-- Reads the distances and puts each character in its place.  Each distance
takes a digit, so `fuel` is the number of digits. -/
def insertAll? (n place bias : Nat) (isFirst : Bool) (label : Text) : Nat → Text → Option Text
  | _, [] => some label
  | 0, _ :: _ => none
  | fuel + 1, c :: cs =>
    match readDistance? bias 36 1 place (c :: cs) with
    | none => none
    | some (sum, rest) =>
      let count := label.length + 1
      -- Distances run through the places of the label round by round; each
      -- round stands for the next character.
      let m := n + sum / count
      let at_ := sum % count
      if !isCharacter m then none
      else
        insertAll? m (at_ + 1) (adapt (sum - place) count isFirst) false
          (label.take at_ ++ Char.ofNat m :: label.drop at_) fuel rest

/-- The label that a text in Punycode stands for. -/
def decode? (written : Text) : Option Text :=
  match Text.splitLast '-' written with
  | none => insertAll? 128 0 72 true [] written.length written
  | some ([], _) => none
  | some (basic, digits) => insertAll? 128 0 72 true basic digits.length digits

/-! ## §3. Writing. -/

/-- The digits of a number; each step divides it by nine at least. -/
def writeDistance (bias k q : Nat) : Text :=
  let t := threshold k bias
  if q < t then [digit q]
  else digit (t + (q - t) % (36 - t)) :: writeDistance bias (k + 36) ((q - t) / (36 - t))
termination_by q
decreasing_by
  have ht : 1 ≤ threshold k bias ∧ threshold k bias ≤ 26 := by
    unfold threshold
    split
    · omega
    · split <;> omega
  have hle : (q - threshold k bias) / (36 - threshold k bias) ≤ q - threshold k bias :=
    Nat.div_le_self _ _
  omega

/-- What is known while the characters are written. -/
structure Progress where
  delta : Nat
  bias : Nat
  written : Nat
  isFirst : Bool
  digits : Text

/-- Passes a character of the label while `m` is being written. -/
def Progress.pass (m : Nat) (p : Progress) (c : Char) : Progress :=
  if c.toNat < m then { p with delta := p.delta + 1 }
  else if c.toNat = m then
    { delta := 0, bias := adapt p.delta (p.written + 1) p.isFirst, written := p.written + 1,
      isFirst := false, digits := p.digits ++ writeDistance p.bias 36 p.delta }
  else p

/-- Writes the characters from number `n` on, in ascending order.  Each round
writes a character at least, so `fuel` is the length of the label. -/
def writeAll (label : Text) : Nat → Nat → Progress → Text
  | 0, _, p => p.digits
  | fuel + 1, n, p =>
    match ((label.map Char.toNat).filter (n ≤ ·)).min? with
    | none => p.digits
    | some m =>
      -- The rounds of the characters between `n` and `m` pass every place.
      let start := { p with delta := p.delta + (m - n) * (p.written + 1) }
      let done := label.foldl (Progress.pass m) start
      writeAll label fuel (m + 1) { done with delta := done.delta + 1 }

/-- A label in Punycode. -/
def encode (label : Text) : Text :=
  let basic := label.filter Text.isAscii
  let front := if basic.isEmpty then [] else basic ++ ['-']
  front ++ writeAll label label.length 128 ⟨0, 72, basic.length, true, []⟩

end DomainScope.Punycode
