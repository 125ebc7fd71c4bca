/-
  DomainScope.Wildcard.Plan
  ─────────────────────────
  **WHICH NAMES ARE PROBED.**

  A zone is taken for a wildcard zone when made-up names in it exist.  The
  made-up names differ from the name asked about in their first label, which
  fills the room left in a name of greatest length.  If there is room for one
  character only, all 36 such labels are tried; otherwise a few labels come
  from a label source.

  Main definitions
    `Plan.of`           the plan for a name, if it has a subdomain
    `Plan.candidates`   the names that a plan probes
-/
import DomainScope.Name.Decompose
import DomainScope.Wildcard.RandomLabel

namespace DomainScope

/-! ## §1. Room and number of labels. -/

/-- The room for the first label of a name. -/
def partSize (nameLength firstLabelLength : Nat) : Nat :=
  (Name.maxLength - nameLength) + firstLabelLength

/-- The number of labels to try; short labels meet real names more often. -/
def sampleCount (partSize : Nat) : Nat :=
  if partSize > 31 then 3
  else if partSize > 15 then 5
  else if partSize > 8 then 10
  else 15

/-! ## §2. Plans. -/

/-- How the names to probe are made; `rest` is what follows the first label. -/
inductive Plan where
  /-- Every label of one character. -/
  | everyCharacter (rest : Text)
  /-- Labels from a source: how many, and of which length. -/
  | samples (count length : Nat) (rest : Text)
  deriving DecidableEq, Repr

namespace Plan

/-- The plan for a name in normal form. -/
def ofCleaned (cleaned : Text) : Plan :=
  let (first, rest) := (Text.splitFirst '.' cleaned).getD (cleaned, [])
  -- Names are in ASCII, so their characters are their bytes.
  let size := partSize cleaned.length first.length
  if size = 1 then .everyCharacter rest
  else
    -- What is left of the room beyond one label stays empty.
    let length := min size Name.maxLabelLength
    .samples (sampleCount length) length rest

/-- The plan for a name; names without subdomain have none, since only names
below a registrable domain can be covered by a wildcard. -/
def of (d : Decomposer) (name : Text) : Except InvalidName (Option Plan) := do
  let parts ← d.decompose name
  if parts.hasSub then return some (ofCleaned (Name.clean name)) else return none

/-- The lengths that a plan asks the label source for, call by call. -/
def requested : Plan → List Nat
  | .everyCharacter _ => []
  | .samples count length _ => List.replicate count length

/-- The names to probe, in order. -/
def candidates (labels : LabelSource) : Plan → List Text
  | .everyCharacter rest => probeChars.map fun c => c :: '.' :: rest
  | .samples count length rest =>
    (List.range count).map fun call => labels call length ++ '.' :: rest

end Plan

end DomainScope
