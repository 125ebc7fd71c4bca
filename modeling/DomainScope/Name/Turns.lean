/-
  DomainScope.Name.Turns
  ──────────────────────
  **THE WALK TO A SUFFIX, TURN BY TURN.**

  The walk as a machine.  While it seeks, a turn asks the list for the suffix of
  a candidate; the answer ends the walk, or what stands behind its first dot is
  the next candidate.  Nothing in the machine bounds the number of turns; they
  are counted from outside, and every look-up made on the way is kept.
-/
import DomainScope.Name.Slice

namespace DomainScope

/-! ## §1. States. -/

/-- Where a walk stands. -/
inductive WalkState where
  | seeking (candidate : Text)
  /-- The list manages the suffix, in a way that counts. -/
  | foundBoundary (tld : Text)
  /-- One label is left. -/
  | foundUnmanaged (tld : Text)
  deriving DecidableEq, Repr

/-- The suffix that a walk has found. -/
def WalkState.found? : WalkState → Option Text
  | .seeking _ => none
  | .foundBoundary tld => some tld
  | .foundUnmanaged tld => some tld

/-- A look-up: the text that a list is asked for, and its answer. -/
structure LookUp where
  candidate : Text
  suffix : Text
  kind : SuffixKind
  deriving DecidableEq, Repr

/-! ## §2. Turns. -/

namespace SlicedList

/-- Where a walk stands after an answer. -/
def afterAnswer (policy : Policy) (suffix : Text) (kind : SuffixKind) : WalkState :=
  if SuffixKind.isBoundary policy kind then .foundBoundary suffix
  else
    match Text.splitFirst '.' suffix with
    | some (_, rest) => .seeking rest
    | none => .foundUnmanaged suffix

/-- A number of turns: the look-ups made, in order, and where the walk stands
then.  A walk that has found a suffix makes no look-up any more. -/
def turns (policy : Policy) (list : SlicedList) :
    Nat → WalkState → Option (List LookUp × WalkState)
  | 0, state => some ([], state)
  | count + 1, .seeking candidate => do
    let (suffix, kind) ← list candidate
    let (lookUps, last) ← turns policy list count (afterAnswer policy suffix kind)
    some (⟨candidate, suffix, kind⟩ :: lookUps, last)
  | _ + 1, state => some ([], state)

end SlicedList

end DomainScope
