/-
  DomainScope.Address.Random
  ──────────────────────────
  **ADDRESSES AT RANDOM.**

  A public address is drawn by drawing addresses until one is outside every
  reserved range.  Most addresses are, so a bound on the number of draws is
  never met in practice; the bound makes the drawing total.
-/
import DomainScope.Address.Reserved

namespace DomainScope.Address

/-- Draws an address of a family, reserved or not. -/
def draw (f : Family) (gen : StdGen) : Address × StdGen :=
  let (n, next) := randNat gen 0 (greatest f)
  (ofValue f n, next)

/-- Draws one of the two families. -/
def drawFamily (gen : StdGen) : Family × StdGen :=
  let (n, next) := randNat gen 0 1
  (if n = 0 then .v4 else .v6, next)

/-- Draws an address of either family, reserved or not. -/
def drawAny (gen : StdGen) : Address × StdGen :=
  let (f, next) := drawFamily gen
  draw f next

/-- Draws up to `tries` addresses of a family, until one is not reserved. -/
def drawPublic? (f : Family) : Nat → StdGen → Option Address × StdGen
  | 0, gen => (none, gen)
  | tries + 1, gen =>
    let (a, next) := draw f gen
    if Reserved.isReserved a then drawPublic? f tries next else (some a, next)

/-- An address drawn as public is in no reserved range. -/
theorem not_isReserved_of_drawPublic? {f : Family} {tries : Nat} {gen : StdGen} {a : Address}
    (h : (drawPublic? f tries gen).1 = some a) : Reserved.isReserved a = false := by
  induction tries generalizing gen with
  | zero => simp [drawPublic?] at h
  | succ n ih =>
    rw [drawPublic?] at h
    by_cases hr : Reserved.isReserved (draw f gen).1 = true
    · simp only [hr, if_true] at h
      exact ih h
    · simp only [hr, Bool.false_eq_true, if_false, Option.some.injEq] at h
      rw [← h]
      simpa using hr

/-- Draws a public address of either family. -/
def drawPublicAny? (tries : Nat) (gen : StdGen) : Option Address × StdGen :=
  let (f, next) := drawFamily gen
  drawPublic? f tries next

end DomainScope.Address
