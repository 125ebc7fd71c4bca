/-
  DomainScope.Idna.Composed
  ─────────────────────────
  **THE COMPOSED FORM OF A TEXT.**

  Two spellings of the same text, such as `é` as one character or as `e` and an
  accent, have the same composed form.  A text is taken apart into base
  characters and marks, the marks after each base are put in the order of their
  combining classes, and then each base takes in the marks that compose with
  it.  Hangul syllables are taken apart and put together by arithmetic, all
  other characters by the table of pairs.
-/
import DomainScope.Idna.Tables

namespace DomainScope.Idna

/-! ## §1. Hangul syllables. -/

/-- The parts of a Hangul syllable. -/
def hangulParts? (c : Char) : Option Text :=
  let n := c.toNat
  if 0xAC00 ≤ n ∧ n < 0xAC00 + 11172 then
    let s := n - 0xAC00
    let front := [Char.ofNat (0x1100 + s / 588), Char.ofNat (0x1161 + s % 588 / 28)]
    if s % 28 = 0 then some front else some (front ++ [Char.ofNat (0x11A7 + s % 28)])
  else none

/-- The Hangul syllable of two parts. -/
def hangulPair? (a b : Char) : Option Char :=
  let m := a.toNat
  let n := b.toNat
  if 0x1100 ≤ m ∧ m < 0x1113 ∧ 0x1161 ≤ n ∧ n < 0x1176 then
    some (Char.ofNat (0xAC00 + ((m - 0x1100) * 21 + (n - 0x1161)) * 28))
  else if 0xAC00 ≤ m ∧ m < 0xAC00 + 11172 ∧ (m - 0xAC00) % 28 = 0 ∧ 0x11A7 < n ∧ n < 0x11C3 then
    some (Char.ofNat (m + (n - 0x11A7)))
  else none

/-! ## §2. Taking apart. -/

/-- The two parts of a composite. -/
def parts? (c : Char) : Option (Char × Char) :=
  (pairs.find? fun (_, _, whole) => whole = c.toNat).map fun (a, b, _) =>
    (Char.ofNat a, Char.ofNat b)

/-- The parts of a character, taken apart at most `depth` times; only first
parts have parts of their own. -/
def takenApart : Nat → Char → Text
  | 0, c => [c]
  | depth + 1, c =>
    match hangulParts? c with
    | some ps => ps
    | none =>
      match parts? c with
      | some (a, b) => takenApart depth a ++ [b]
      | none => [c]

/-- No character of the table is taken apart more often than this. -/
def greatestDepth : Nat := 8

/-- Puts a character in front of a text whose marks are in order. -/
def insertOrdered (c : Char) : Text → Text
  | [] => [c]
  | d :: rest =>
    if combiningClass d ≠ 0 ∧ combiningClass d < combiningClass c then
      d :: insertOrdered c rest
    else c :: d :: rest

/-- The parts of a text, with the marks after each base in order. -/
def decomposed (t : Text) : Text :=
  (t.flatMap (takenApart greatestDepth)).foldr insertOrdered []

/-! ## §3. Putting together. -/

/-- The composite of two characters. -/
def pair? (a b : Char) : Option Char :=
  match hangulPair? a b with
  | some c => some c
  | none =>
    (pairs.find? fun (first, second, _) => first = a.toNat ∧ second = b.toNat).map fun
      (_, _, whole) => Char.ofNat whole

/-- Puts a text together: `base` is the last base character, `held` are the
marks after it that did not compose, the last one first. -/
def composeFrom (base : Char) (held : Text) : Text → Text
  | [] => base :: held.reverse
  | c :: rest =>
    -- A mark of the same class, or of a higher one, keeps `c` from the base.
    let free :=
      match held with
      | [] => true
      | mark :: _ => combiningClass mark < combiningClass c
    match if free then pair? base c else none with
    | some whole => composeFrom whole held rest
    | none =>
      if combiningClass c = 0 then base :: held.reverse ++ composeFrom c [] rest
      else composeFrom base (c :: held) rest

/-- The composed form of a text. -/
def composed (t : Text) : Text :=
  let ds := decomposed t
  let front := ds.takeWhile (combiningClass · ≠ 0)
  match ds.dropWhile (combiningClass · ≠ 0) with
  | [] => front
  | base :: rest => front ++ composeFrom base [] rest

end DomainScope.Idna
