/-
  DomainScope.Resolver.DelaySource
  ────────────────────────────────
  **WHERE DELAYS COME FROM.**

  The delays between attempts are taken one by one from a source that makes
  growing delays.  It is started on machine words, with a base, a factor and a
  greatest delay, and one delay less is taken than there are attempts.

  Main definitions
    `RetrySettings.delays`       the delays between attempts
    `DelaySource.RaisesBase`     what a source of powers gives
    `DelaySource.powers`         such a source, that multiplies words
-/
import DomainScope.Resolver.Backoff
import Mathlib.Algebra.Group.Nat.Defs

namespace DomainScope

/-! ## §1. Sources. -/

/-- Something that makes delays, in milliseconds. -/
structure DelaySource where
  /-- What is kept from one delay to the next. -/
  State : Type
  /-- The state in front of the first delay, for a base and a factor, and a
  greatest delay in milliseconds. -/
  start : BitVec 64 → BitVec 64 → Nat → State
  /-- The next delay, if there is one. -/
  next : State → Option (Nat × State)

namespace DelaySource

/-- The next delays, `count` of them if there are so many. -/
def take (source : DelaySource) : Nat → source.State → List Nat
  | 0, _ => []
  | count + 1, state =>
    match source.next state with
    | none => []
    | some (delay, later) => delay :: source.take count later

/-- A power of a base times a factor, from the first power on, cut to the greatest
word and to a greatest delay. -/
def cutPower (base factor : BitVec 64) (greatest i : Nat) : Nat :=
  min (min (base.toNat ^ (i + 1) * factor.toNat) Backoff.greatestWord) greatest

/-- The delays are the powers of the base times the factor. -/
def RaisesBase (source : DelaySource) : Prop :=
  ∀ base factor greatest count, source.take count (source.start base factor greatest)
    = (List.range count).map (cutPower base factor greatest)

end DelaySource

/-! ## §2. Delays between attempts. -/

/-- What the attempts of a query are governed by. -/
structure RetrySettings where
  /-- The delay in front of the second attempt, in milliseconds. -/
  initialMillis : BitVec 64
  /-- What each further delay is multiplied by. -/
  factor : BitVec 64
  /-- The greatest delay, in seconds. -/
  greatestSeconds : BitVec 64
  /-- The number of attempts, the first one included. -/
  attempts : BitVec 64
  deriving DecidableEq, Repr

namespace RetrySettings

/-- The settings of the resolver. -/
def standard : RetrySettings := ⟨200, 2, 5, 3⟩

/-- The greatest delay, in milliseconds. -/
def greatestMillis (settings : RetrySettings) : Nat := 1000 * settings.greatestSeconds.toNat

/-- The delays between attempts, in milliseconds. -/
def delays (settings : RetrySettings) (source : DelaySource) : List Nat :=
  source.take (settings.attempts.toNat - 1)
    (source.start settings.initialMillis settings.factor settings.greatestMillis)

/-- What a source that raises its base makes of the settings. -/
def toBackoff (settings : RetrySettings) : Backoff :=
  ⟨settings.initialMillis.toNat, settings.factor.toNat, settings.greatestSeconds.toNat,
    settings.attempts.toNat⟩

end RetrySettings

/-! ## §3. A source on words. -/

/-- The product of two words, or the greatest word where it does not fit. -/
def saturatingMul (a b : BitVec 64) : BitVec 64 :=
  if a.toNat * b.toNat < 2 ^ 64 then a * b else BitVec.allOnes 64

/-- A power of a base, and what the delays are made with. -/
structure PowerState where
  current : BitVec 64
  base : BitVec 64
  factor : BitVec 64
  greatest : Nat

/-- The delay made from the current power, and the state behind it.  Once the
greatest delay is passed the power is left as it is. -/
def PowerState.next (s : PowerState) : Nat × PowerState :=
  let delay := (saturatingMul s.current s.factor).toNat
  if s.greatest < delay then (s.greatest, s)
  else (delay, { s with current := saturatingMul s.current s.base })

/-- A source that multiplies by its base from one delay to the next. -/
def DelaySource.powers : DelaySource where
  State := PowerState
  start base factor greatest := ⟨base, base, factor, greatest⟩
  next s := some s.next

end DomainScope
