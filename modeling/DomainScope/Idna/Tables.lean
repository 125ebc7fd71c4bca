/-
  DomainScope.Idna.Tables
  ───────────────────────
  **READING THE CHARACTER TABLES.**

  The tables are texts of rows of hexadecimal numbers.  This module reads them
  and answers the questions that the rest asks of a character: whether names
  may hold it and what it becomes there, what it composes with, its combining
  class, and the properties on which well-formed labels depend.
-/
import DomainScope.Idna.MappingData
import DomainScope.Idna.CompositionData
import DomainScope.Idna.PropertyData
import DomainScope.Text.Numeral

namespace DomainScope.Idna

/-! ## §1. Rows and spans. -/

/-- The rows of a table. -/
def rows (table : String) : List (List Nat) :=
  let words := List.splitOn ' ' (table.toList.map fun c => if Text.isBlank c then ' ' else c)
  (words.filter (!·.isEmpty)).map fun word =>
    (word.splitOn '.').map fun digits => (Text.numeral? 16 digits).getD 0

/-- A range of characters, by their numbers. -/
structure Span where
  first : Nat
  last : Nat
  deriving DecidableEq, Repr

/-- Whether a number is in the range. -/
def Span.holds (s : Span) (n : Nat) : Bool := s.first ≤ n && n ≤ s.last

/-- The ranges that a table lists. -/
def spans (table : String) : List Span :=
  (rows table).filterMap fun
    | [only] => some ⟨only, only⟩
    | [first, last] => some ⟨first, last⟩
    | _ => none

/-- Whether a character is in one of the ranges. -/
def isIn (ranges : List Span) (c : Char) : Bool := ranges.any (·.holds c.toNat)

/-! ## §2. The mapping. -/

/-- A run of characters that become others at the same distance. -/
structure Shift where
  first : Nat
  target : Nat
  count : Nat
  step : Nat
  deriving DecidableEq, Repr

/-- What a character of the run becomes. -/
def Shift.image? (s : Shift) (n : Nat) : Option Nat :=
  if s.first ≤ n ∧ n < s.first + s.count * s.step ∧ (n - s.first) % s.step = 0 then
    some (s.target + (n - s.first))
  else none

/-- The characters that names may hold before mapping. -/
def assigned : List Span := spans MappingData.assigned

/-- The characters that names lose. -/
def ignored : List Span := spans MappingData.ignored

/-- The characters that become one other. -/
def shifts : List Shift :=
  (rows MappingData.shifted).filterMap fun
    | [first, target] => some ⟨first, target, 1, 1⟩
    | [first, target, count] => some ⟨first, target, count, 1⟩
    | [first, target, count, step] => some ⟨first, target, count, step⟩
    | _ => none

/-- The characters that become several. -/
def spellings : List (Nat × Text) :=
  (rows MappingData.spelled).filterMap fun
    | c :: becomes => some (c, becomes.map Char.ofNat)
    | [] => none

/-- What a character becomes in a name, or nothing if names may not hold it. -/
def mapped? (c : Char) : Option Text :=
  let n := c.toNat
  -- The tables begin beyond ASCII.
  if n < 128 then some [c.toLower]
  else if !isIn assigned c then none
  else if isIn ignored c then some []
  else
    match shifts.findSome? (·.image? n) with
    | some target => some [Char.ofNat target]
    | none =>
      match spellings.find? fun (from_, _) => from_ = n with
      | some (_, becomes) => some becomes
      | none => some [c]

/-- Whether a character stays as it is in names. -/
def isValidChar (c : Char) : Bool := mapped? c = some [c]

/-! ## §3. Composition. -/

/-- The pairs that compose to one character. -/
def pairs : List (Nat × Nat × Nat) :=
  (rows CompositionData.pairs).filterMap fun
    | [first, second, whole] => some (first, second, whole)
    | _ => none

/-- The ranges of characters with a combining class other than zero. -/
def classes : List (Span × Nat) :=
  (rows CompositionData.classes).filterMap fun
    | [first, last, k] => some (⟨first, last⟩, k)
    | _ => none

/-- The combining class of a character. -/
def combiningClass (c : Char) : Nat :=
  ((classes.find? fun (s, _) => s.holds c.toNat).map (·.2)).getD 0

/-! ## §4. Marks and joining. -/

/-- The characters of the category Mark. -/
def marks : List Span := spans PropertyData.marks

/-- The characters that join to what follows them. -/
def joinsForward : List Span :=
  spans PropertyData.leftJoining ++ spans PropertyData.dualJoining

/-- The characters that join to what stands before them. -/
def joinsBackward : List Span :=
  spans PropertyData.rightJoining ++ spans PropertyData.dualJoining

/-- The characters that joining passes through. -/
def transparent : List Span := spans PropertyData.transparent

/-! ## §5. Directions. -/

/-- The bidirectional classes that the rules on labels tell apart. -/
inductive BidiClass where
  | left
  | right
  | arabicNumber
  | europeanNumber
  | neutral
  | nonspacing
  | excluded
  deriving DecidableEq, Repr

/-- The classes other than left-to-right, with their characters. -/
def bidiRanges : List (BidiClass × List Span) :=
  [(.right, spans PropertyData.rightToLeft ++ spans PropertyData.arabicLetter),
    (.arabicNumber, spans PropertyData.arabicNumber),
    (.europeanNumber, spans PropertyData.europeanNumber),
    (.neutral, spans PropertyData.numberPunctuation ++ spans PropertyData.neutral),
    (.nonspacing, spans PropertyData.nonspacing),
    (.excluded, spans PropertyData.excluded)]

/-- The bidirectional class of a character. -/
def bidiClass (c : Char) : BidiClass :=
  ((bidiRanges.find? fun (_, ranges) => isIn ranges c).map (·.1)).getD .left

end DomainScope.Idna
