/-
  DomainScope.Wildcard.Race
  ─────────────────────────
  **PROBES IN FLIGHT TOGETHER.**

  Probes that are issued at once end one after the other.  The first one that
  is not positive decides, and calls the others off: what ends after that ends
  without an answer.  A probe that was called off changes nothing, and neither
  does a positive answer.  If nothing decides, every probe was positive
  (`verdict_run`).

  Main definitions
    `Race.step`      takes the end of one probe
    `Race.run`       takes the ends of all, in order
    `Race.verdict`   what the race says
-/

namespace DomainScope

/-! ## §1. The first answer that decides. -/

/-- The verdict of some answers: the first that is not positive, or a positive
one if there is none. -/
def settle {ε : Type} : List (Except ε Bool) → Except ε Bool
  | [] => .ok true
  | .ok true :: rest => settle rest
  | .ok false :: _ => .ok false
  | .error e :: _ => .error e

/-! ## §2. How probes end. -/

/-- How a probe ends. -/
inductive ProbeEnd (ε : Type) where
  /-- With an answer. -/
  | answered (answer : Except ε Bool)
  /-- Without one, since the race had been decided. -/
  | calledOff

/-- A race: whether the probes have been called off, and what decided, if
anything did. -/
structure Race (ε : Type) where
  isCalledOff : Bool := false
  decision : Option (Except ε Bool) := none

namespace Race

variable {ε : Type}

/-- How a probe ends that would have given `answer`. -/
def probeEnd (race : Race ε) (answer : Except ε Bool) : ProbeEnd ε :=
  if race.isCalledOff then .calledOff else .answered answer

/-- Takes the end of a probe. -/
def take (race : Race ε) : ProbeEnd ε → Race ε
  | .calledOff => race
  | .answered (.ok true) => race
  | .answered (.ok false) => ⟨true, some (.ok false)⟩
  | .answered (.error e) => ⟨true, some (.error e)⟩

/-- A probe that would have given `answer` ends. -/
def step (race : Race ε) (answer : Except ε Bool) : Race ε := race.take (race.probeEnd answer)

/-- Probes end in order, each with the answer that it would have given. -/
def run (race : Race ε) (answers : List (Except ε Bool)) : Race ε := answers.foldl step race

/-- What decided; the race is positive if nothing did. -/
def verdict (race : Race ε) : Except ε Bool := race.decision.getD (.ok true)

/-! ## §3. The race gives the first answer that decides. -/

theorem run_of_isCalledOff {race : Race ε} (h : race.isCalledOff = true)
    (answers : List (Except ε Bool)) : race.run answers = race := by
  induction answers with
  | nil => rfl
  | cons answer rest ih =>
    have hstep : race.step answer = race := by simp [step, probeEnd, take, h]
    rw [run, List.foldl_cons, hstep]
    exact ih

/-- A race from the start says what the first answer that decides says. -/
theorem verdict_run (answers : List (Except ε Bool)) :
    (({} : Race ε).run answers).verdict = settle answers := by
  induction answers with
  | nil => rfl
  | cons answer rest ih =>
    rw [run, List.foldl_cons]
    match answer with
    | .ok true => exact ih
    | .ok false => exact congrArg verdict (run_of_isCalledOff rfl rest)
    | .error e => exact congrArg verdict (run_of_isCalledOff rfl rest)

end Race

end DomainScope
