/-
  DomainScope.Resolver.Backoff
  ────────────────────────────
  **DELAYS BETWEEN ATTEMPTS.**

  The delays grow by the powers of a base: the `i`-th one, from zero, is
  `base ^ (i + 1) * factor` milliseconds, cut to the greatest word and to a
  greatest delay.  There is one delay less than there are attempts.
-/

namespace DomainScope

/-- What the delays are made from. -/
structure Backoff where
  /-- The base of the powers, in milliseconds. -/
  base : Nat
  /-- What each power is multiplied by. -/
  factor : Nat
  /-- The greatest delay, in seconds. -/
  greatestSeconds : Nat
  /-- The number of attempts. -/
  attempts : Nat
  deriving DecidableEq, Repr

namespace Backoff

/-- The delays of the resolver. -/
def standard : Backoff := ⟨200, 2, 5, 3⟩

/-- The greatest number of milliseconds that a delay can have. -/
def greatestWord : Nat := 1 <<< 64 - 1

/-- A delay in milliseconds. -/
def delay (b : Backoff) (i : Nat) : Nat :=
  min (min (Nat.pow b.base (i + 1) * b.factor) greatestWord) (1000 * b.greatestSeconds)

/-- The delays between attempts, in milliseconds. -/
def delays (b : Backoff) : List Nat := (List.range (b.attempts - 1)).map b.delay

end Backoff

end DomainScope
