/-
  DomainScope.Proofs.Wildcard.InSequence
  ──────────────────────────────────────
  **WHAT A CHECK IN SEQUENCE ASKS AND SAYS.**

  A check in sequence asks for one name after the other, and stops behind the
  first answer that is not positive.  That answer is its verdict; without one,
  every name has been asked for and the verdict is positive.  A name that is not
  valid, or has no subdomain, ends the check before anything is asked.

  Main results
    `endsAsking_probeInSequence`   how asking in sequence ends
    `wildcardInSequence_congr`     it hangs on the answers to what it asks only
    `inSequence_asks`              what a whole check asks and says
-/
import DomainScope.Proofs.Wildcard.AtOnce

namespace DomainScope

variable {ε : Type} {answer : Nat → Text → Except ε Bool} {names : List Text}

/-! ## §1. How asking ends. -/

/-- How asking some probes in sequence ends. -/
inductive EndsAsking (probes : List (Probe ε)) : ProbeRun ε → Prop where
  /-- Every answer was positive. -/
  | positive (h : ∀ probe ∈ probes, probe.answer = .ok true) :
      EndsAsking probes ⟨probes.map Probe.name, .ok true⟩
  /-- The first answer that was not positive is the verdict, and nothing is
  asked behind it. -/
  | refused {before after : List (Probe ε)} {probe : Probe ε}
      (hsplit : probes = before ++ probe :: after) (h : ∀ p ∈ before, p.answer = .ok true)
      (hne : probe.answer ≠ .ok true) :
      EndsAsking probes ⟨(before ++ [probe]).map Probe.name, probe.answer⟩

namespace EndsAsking

variable {probes : List (Probe ε)} {run : ProbeRun ε} {probe : Probe ε}

/-- The first answer is not positive. -/
theorem first (hne : probe.answer ≠ .ok true) (rest : List (Probe ε)) :
    EndsAsking (probe :: rest) ⟨[probe.name], probe.answer⟩ :=
  .refused (List.nil_append _).symm (fun _ hp => absurd hp List.not_mem_nil) hne

/-- One positive answer in front. -/
theorem cons (h : EndsAsking probes run) (hpositive : probe.answer = .ok true) :
    EndsAsking (probe :: probes) ⟨probe.name :: run.asked, run.verdict⟩ := by
  cases h with
  | positive h => exact .positive (List.forall_mem_cons.mpr ⟨hpositive, h⟩)
  | @refused before after last hsplit h hne =>
    have hsplit' : probe :: probes = (probe :: before) ++ last :: after := by
      rw [hsplit]
      rfl
    exact .refused hsplit' (List.forall_mem_cons.mpr ⟨hpositive, h⟩) hne

/-- The verdict is positive if every answer is, and only then. -/
theorem verdict_eq_true_iff (h : EndsAsking probes run) :
    run.verdict = .ok true ↔ ∀ probe ∈ probes, probe.answer = .ok true := by
  cases h with
  | positive h => exact iff_of_true rfl h
  | @refused before after last hsplit h hne =>
    refine iff_of_false hne ?_
    intro hall
    exact hne (hall last (by simp [hsplit]))

end EndsAsking

theorem endsAsking_probeFrom (call : Nat) :
    EndsAsking ((names.zipIdx call).map fun (name, call) => ⟨call, name, answer call name⟩)
      (probeFrom answer call names) := by
  induction names generalizing call with
  | nil => exact .positive (by simp)
  | cons name rest ih =>
    rw [List.zipIdx_cons, List.map_cons]
    show EndsAsking (⟨call, name, answer call name⟩ :: _) _
    unfold probeFrom
    cases hanswer : answer call name with
    | error e => exact .first (by simp) _
    | ok isThere =>
      cases isThere with
      | false => exact .first (by simp) _
      | true => exact (ih (call + 1)).cons rfl

/-- **Asking in sequence ends with the first answer that is not positive.** -/
theorem endsAsking_probeInSequence :
    EndsAsking (issued answer names) (probeInSequence answer names) :=
  endsAsking_probeFrom 0

/-! ## §2. What asking hangs on. -/

/-- Answers that are the same for what is asked make the same run. -/
theorem probeFrom_congr {reply reply' : Text → Except ε Bool} {call : Nat}
    (h : ∀ name ∈ (probeFrom (fun _ => reply) call names).asked, reply name = reply' name) :
    probeFrom (fun _ => reply') call names = probeFrom (fun _ => reply) call names := by
  -- Induction on the names: the first is always asked for, and the others are
  -- only behind a positive answer, where the hypothesis speaks of them too.
  induction names generalizing call with
  | nil => rfl
  | cons name rest ih =>
    have hname : reply name = reply' name := by
      apply h
      unfold probeFrom
      cases reply name with
      | error e => exact List.mem_cons_self
      | ok isThere => cases isThere <;> exact List.mem_cons_self
    unfold probeFrom at h ⊢
    rw [← hname]
    cases hreply : reply name with
    | error e => rfl
    | ok isThere =>
      cases isThere with
      | false => rfl
      | true =>
        rw [hreply] at h
        have hrest := ih fun other hother => h other (List.mem_cons_of_mem _ hother)
        simp only [hrest]

/-- **A whole check hangs on the answers for the names that it asks for, and on
nothing else of what could be answered.** -/
theorem wildcardInSequence_congr {d : Decomposer} {labels : LabelSource} {name : Text}
    {reply reply' : Text → Except ε Bool}
    (h : ∀ other ∈ (wildcardInSequence d labels (fun _ => reply) name).asked,
      reply other = reply' other) :
    wildcardInSequence d labels (fun _ => reply') name
      = wildcardInSequence d labels (fun _ => reply) name := by
  unfold wildcardInSequence at h ⊢
  cases hplan : Plan.of d name with
  | error e => rfl
  | ok found =>
    cases found with
    | none => rfl
    | some plan =>
      rw [hplan] at h
      unfold probeInSequence at h ⊢
      simp only [probeFrom_congr h]

/-! ## §3. Whole checks. -/

section Checks

variable {d : Decomposer} {labels : LabelSource} {name : Text}

theorem plan_of_invalid {e : InvalidName} (h : Name.validate d.policy name = .error e) :
    Plan.of d name = .error e := by
  unfold Plan.of
  rw [Decomposer.decompose_of_invalid h]
  rfl

theorem plan_of_not_hasSub {parts : Parts} (hparts : d.decompose name = .ok parts)
    (hsub : parts.hasSub = false) : Plan.of d name = .ok none := by
  unfold Plan.of
  rw [hparts]
  simp [bind, Except.bind, hsub, pure, Except.pure]

theorem exists_parts (h : Name.validate d.policy name = .ok ()) :
    ∃ parts, d.decompose name = .ok parts := by
  by_cases hroot : name = ['.']
  · subst hroot
    exact ⟨_, Decomposer.decompose_root h⟩
  · exact ⟨_, Decomposer.decompose_of_valid hroot h⟩

/-- **What a check in sequence asks, and what it says.**  A name that is not
valid is refused for the rule it breaks, and one without subdomain is covered by
no wildcard, both before anything is asked.  For all other names, the names of
the plan are asked for in turn, up to the first answer that is not positive. -/
theorem inSequence_asks (d : Decomposer) (labels : LabelSource)
    (answer : Nat → Text → Except ε Bool) (name : Text) :
    (∀ e, Name.validate d.policy name = .error e →
      wildcardInSequence d labels answer name = ⟨[], [], .error (.invalidName e)⟩) ∧
    (Name.validate d.policy name = .ok () → ∃ parts, d.decompose name = .ok parts ∧
      (parts.hasSub = false →
        wildcardInSequence d labels answer name = ⟨[], [], .ok false⟩) ∧
      (parts.hasSub = true → ∃ plan run, Plan.of d name = .ok (some plan) ∧
        EndsAsking (issued answer (plan.candidates labels)) run ∧
        wildcardInSequence d labels answer name
          = ⟨plan.requested, run.asked, run.verdict.mapError .probe⟩ ∧
        ((wildcardInSequence d labels answer name).verdict = .ok true ↔
          ∀ probe ∈ issued answer (plan.candidates labels), probe.answer = .ok true))) := by
  constructor
  · intro e hinvalid
    unfold wildcardInSequence
    rw [plan_of_invalid hinvalid]
  · intro hvalid
    -- A valid name has parts, and only a name with a subdomain has a plan.
    obtain ⟨parts, hparts⟩ := exists_parts hvalid
    refine ⟨parts, hparts, ?_, ?_⟩
    · intro hsub
      unfold wildcardInSequence
      rw [plan_of_not_hasSub hparts hsub]
    · intro hsub
      have hplan := plan_of_hasSub hparts hsub
      have hends := @endsAsking_probeInSequence ε answer
        ((Plan.ofCleaned (Name.clean name)).candidates labels)
      have hrun := @wildcardInSequence_of_plan ε answer d labels name _ hplan
      refine ⟨_, _, hplan, hends, hrun, ?_⟩
      rw [hrun, ← hends.verdict_eq_true_iff]
      exact @mapError_probe_inj ε _ (.ok true)

/-- Nothing is asked about `.example.com`; for `www.example.com`, whatever is
asked for exists. -/
theorem inSequence_asks_example :
    let d : Decomposer := ⟨Fallback.list, {}⟩
    let labels : LabelSource := fun call length =>
      List.replicate length (probeChars.getD call 'a')
    let answer : Nat → Text → Except QueryError Bool := fun _ _ => .ok true
    wildcardInSequence d labels answer ".example.com".toList
        = ⟨[], [], .error (.invalidName ⟨".example.com".toList, .leadingDot⟩)⟩ ∧
      (wildcardInSequence d labels answer "www.example.com".toList).verdict = .ok true := by
  intro d labels answer
  refine ⟨(inSequence_asks d labels answer _).1 _ (by decide), ?_⟩
  obtain ⟨parts, hparts, -, hcheck⟩ :=
    (inSequence_asks d labels answer "www.example.com".toList).2 (by decide)
  rw [decompose_www_example_com] at hparts
  cases hparts
  obtain ⟨plan, run, -, -, -, hpositive⟩ := hcheck rfl
  rw [hpositive]
  intro probe hmem
  obtain ⟨-, -, rfl⟩ := List.mem_map.mp hmem
  rfl

end Checks

end DomainScope
