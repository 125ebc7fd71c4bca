/-
  DomainScope.Wildcard.Verdict
  ────────────────────────────
  **WHAT THE PROBES SAY.**

  A probe answers that a name exists, that it does not, or fails.  The zone is
  a wildcard zone if every probe says that its name exists; the first other
  answer decides.  In sequence, "first" means in the order of the names, and
  nothing is asked after it.  At once, it means in the order in which the
  answers come in.

  Main definitions
    `probeInSequence`      names asked, and verdict
    `probeAtOnce`          verdict of answers that take time
-/
import DomainScope.Wildcard.Plan
import DomainScope.Wildcard.Race

namespace DomainScope

/-! ## §1. In sequence. -/

/-- A run of probes: the names asked, in order, and the verdict. -/
structure ProbeRun (ε : Type) where
  asked : List Text
  verdict : Except ε Bool

/-- Asks one name after the other, up to the first answer that decides.
`answer` is given the number of the call and the name. -/
def probeFrom {ε : Type} (answer : Nat → Text → Except ε Bool) (call : Nat) :
    List Text → ProbeRun ε
  | [] => ⟨[], .ok true⟩
  | name :: rest =>
    match answer call name with
    | .ok true =>
      let later := probeFrom answer (call + 1) rest
      ⟨name :: later.asked, later.verdict⟩
    | .ok false => ⟨[name], .ok false⟩
    | .error e => ⟨[name], .error e⟩

/-- Asks the names in sequence. -/
def probeInSequence {ε : Type} (answer : Nat → Text → Except ε Bool) (names : List Text) :
    ProbeRun ε :=
  probeFrom answer 0 names

/-! ## §2. At once. -/

/-- An answer and the time at which it comes in. -/
structure TimedAnswer (ε : Type) where
  time : Nat
  answer : Except ε Bool

/-- Answers in the order in which they come in; those that come in together
keep the order in which they were asked for. -/
def inOrderOfArrival {ε : Type} (answers : List (TimedAnswer ε)) : List (Except ε Bool) :=
  (answers.mergeSort fun a b => a.time ≤ b.time).map (·.answer)

/-- The answers to all names, each asked at the start and taking `delay` time. -/
def timedAnswers {ε : Type} (answer : Nat → Text → Except ε Bool) (delay : Nat → Nat)
    (names : List Text) : List (TimedAnswer ε) :=
  names.zipIdx.map fun (name, call) => ⟨delay call, answer call name⟩

/-- Asks all names at once. -/
def probeAtOnce {ε : Type} (answer : Nat → Text → Except ε Bool) (delay : Nat → Nat)
    (names : List Text) : Except ε Bool :=
  (({} : Race ε).run (inOrderOfArrival (timedAnswers answer delay names))).verdict

/-! ## §3. Whole checks. -/

/-- Why there is no verdict. -/
inductive ProbeError (ε : Type) where
  /-- The name is not valid. -/
  | invalidName (e : InvalidName)
  /-- A probe failed. -/
  | probe (e : ε)
  deriving DecidableEq, Repr

/-- A whole check in sequence: the lengths asked of the label source, the names
asked, and the verdict. -/
structure WildcardRun (ε : Type) where
  requested : List Nat
  asked : List Text
  verdict : Except (ProbeError ε) Bool

/-- Checks in sequence whether a name is covered by a wildcard. -/
def wildcardInSequence {ε : Type} (d : Decomposer) (labels : LabelSource)
    (answer : Nat → Text → Except ε Bool) (name : Text) : WildcardRun ε :=
  match Plan.of d name with
  | .error e => ⟨[], [], .error (.invalidName e)⟩
  | .ok none => ⟨[], [], .ok false⟩
  | .ok (some plan) =>
    let run := probeInSequence answer (plan.candidates labels)
    ⟨plan.requested, run.asked, run.verdict.mapError .probe⟩

/-- Checks with all probes at once whether a name is covered by a wildcard. -/
def wildcardAtOnce {ε : Type} (d : Decomposer) (labels : LabelSource)
    (answer : Nat → Text → Except ε Bool) (delay : Nat → Nat) (name : Text) : WildcardRun ε :=
  match Plan.of d name with
  | .error e => ⟨[], [], .error (.invalidName e)⟩
  | .ok none => ⟨[], [], .ok false⟩
  | .ok (some plan) =>
    let names := plan.candidates labels
    ⟨plan.requested, names, (probeAtOnce answer delay names).mapError .probe⟩

end DomainScope
