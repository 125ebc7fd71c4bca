/-
  DomainScope.Proofs.Wildcard.AtOnce
  ──────────────────────────────────
  **CHECKS AT ONCE AND CHECKS IN SEQUENCE.**

  In a check at once the answer that comes in first decides, in a check in
  sequence the answer to the first name.  What a check at once says is what
  some flight of its probes says, and any flight is such a check, with delays
  to suit.  The two checks agree whatever the delays are if and only if no two
  names have different answers that are not positive.

  Main results
    `exists_arrivals_eq`            delays bring about any order of arrival
    `probeAtOnce_of_earliest`       what the answer decides that comes in first
    `atOnce_settles`                what a check at once says
    `atOnce_eq_inSequence_iff`      when it says what a check in sequence says
-/
import DomainScope.Proofs.Name.Parts
import DomainScope.Proofs.Wildcard.Flight
import DomainScope.Resolver.QueryError
import DomainScope.Suffix.Fallback
import DomainScope.Wildcard.Verdict
import Mathlib.Data.List.Nodup

namespace DomainScope

variable {ε : Type} {answer : Nat → Text → Except ε Bool} {delay : Nat → Nat} {names : List Text}

/-! ## §1. Orders of arrival. -/

/-- Whether the answer to a probe comes in before another one, or together with it. -/
def comesIn (delay : Nat → Nat) (p q : Probe ε) : Bool := delay p.call ≤ delay q.call

/-- Probes in the order in which their answers come in. -/
def arrivals (delay : Nat → Nat) (probes : List (Probe ε)) : List (Probe ε) :=
  probes.mergeSort (comesIn delay)

/-- Every probe comes in, and comes in once. -/
theorem arrivals_perm (delay : Nat → Nat) (probes : List (Probe ε)) :
    (arrivals delay probes).Perm probes :=
  List.mergeSort_perm probes _

/-- None comes in before one that takes less time. -/
theorem arrivals_pairwise (delay : Nat → Nat) (probes : List (Probe ε)) :
    (arrivals delay probes).Pairwise fun p q => comesIn delay p q = true := by
  refine List.pairwise_mergeSort ?_ ?_ probes
  · intro p q r hpq hqr
    simp only [comesIn, decide_eq_true_eq] at *
    omega
  · intro p q
    simp only [comesIn, Bool.or_eq_true, decide_eq_true_eq]
    omega

/-- No two probes are the same call. -/
theorem nodup_call_issued (answer : Nat → Text → Except ε Bool) (names : List Text) :
    ((issued answer names).map Probe.call).Nodup := by
  have hcalls : (issued answer names).map Probe.call = names.zipIdx.map Prod.snd := by
    unfold issued
    rw [List.map_map]
    rfl
  rw [hcalls, List.zipIdx_map_snd]
  exact List.nodup_range'

/-- **Delays bring about any order of arrival.** -/
theorem exists_arrivals_eq {order : List (Probe ε)} (hperm : order.Perm (issued answer names)) :
    ∃ delay, arrivals delay (issued answer names) = order := by
  -- Each answer is delayed by its place in the order.
  let delay := fun call => (order.map Probe.call).idxOf call
  have hnodup : (order.map Probe.call).Nodup :=
    (hperm.map Probe.call).nodup_iff.mpr (nodup_call_issued answer names)
  have hplace : ∀ i (hi : i < order.length), delay order[i].call = i := by
    intro i hi
    have hidx := hnodup.idxOf_getElem i (by simpa using hi)
    rwa [List.getElem_map] at hidx
  refine ⟨delay, List.Perm.eq_of_pairwise ?_ (arrivals_pairwise delay _) ?_
    ((arrivals_perm delay _).trans hperm.symm)⟩
  -- Both are sorted by place, and probes in one place are one probe.
  · intro p q hp hq hpq hqp
    have hp' := hperm.mem_iff.mpr ((arrivals_perm delay _).mem_iff.mp hp)
    obtain ⟨i, hi, rfl⟩ := List.getElem_of_mem hp'
    obtain ⟨j, hj, rfl⟩ := List.getElem_of_mem hq
    simp only [comesIn, hplace, decide_eq_true_eq] at hpq hqp
    obtain rfl : i = j := by omega
    rfl
  · rw [List.pairwise_iff_getElem]
    intro i j hi hj hij
    simp only [comesIn, hplace, decide_eq_true_eq]
    omega

/-! ## §2. Both verdicts as settled answers. -/

theorem inOrderOfArrival_timedAnswers :
    inOrderOfArrival (timedAnswers answer delay names)
      = (arrivals delay (issued answer names)).map Probe.answer := by
  have htimed : timedAnswers answer delay names
      = (issued answer names).map fun p => ⟨delay p.call, p.answer⟩ := by
    unfold timedAnswers issued
    rw [List.map_map]
    rfl
  have hsort := @List.map_mergeSort (Probe ε) (TimedAnswer ε) (comesIn delay)
    (fun a b => a.time ≤ b.time) (fun p => ⟨delay p.call, p.answer⟩) (issued answer names)
    (fun p _ q _ => rfl)
  unfold inOrderOfArrival arrivals
  rw [htimed, ← hsort, List.map_map]
  rfl

/-- At once, the answers settle the verdict in the order in which they come in. -/
theorem probeAtOnce_eq_settle :
    probeAtOnce answer delay names
      = settle ((arrivals delay (issued answer names)).map Probe.answer) := by
  unfold probeAtOnce
  rw [Race.verdict_run, inOrderOfArrival_timedAnswers]

/-- An answer that comes in before all others decides, unless it is positive. -/
theorem probeAtOnce_of_earliest {probe : Probe ε} (hmem : probe ∈ issued answer names)
    (hne : probe.answer ≠ .ok true)
    (hearliest : ∀ call, call ≠ probe.call → delay probe.call < delay call) :
    probeAtOnce answer delay names = probe.answer := by
  have hperm := arrivals_perm delay (issued answer names)
  have hnodup := (hperm.map Probe.call).nodup_iff.mpr (nodup_call_issued answer names)
  have hsorted := arrivals_pairwise delay (issued answer names)
  obtain ⟨before, after, hsplit⟩ := List.append_of_mem (hperm.mem_iff.mpr hmem)
  rw [hsplit, List.map_append] at hnodup
  rw [hsplit, List.pairwise_append] at hsorted
  -- The arrivals are sorted, so what stands in front of the probe has no longer delay.
  have hnil : before = [] := by
    refine List.eq_nil_iff_forall_not_mem.mpr ?_
    intro other hother
    have hcall : other.call ≠ probe.call := by
      intro heq
      exact List.disjoint_of_nodup_append hnodup (List.mem_map_of_mem hother) (by simp [heq])
    have hle := hsorted.2.2 other hother probe List.mem_cons_self
    have hlt := hearliest other.call hcall
    simp only [comesIn, decide_eq_true_eq] at hle
    omega
  rw [probeAtOnce_eq_settle, hsplit, hnil, List.nil_append, List.map_cons, settle_cons_of_ne hne]

theorem verdict_probeFrom (call : Nat) : (probeFrom answer call names).verdict
    = settle ((names.zipIdx call).map fun (name, call) => answer call name) := by
  induction names generalizing call with
  | nil => rfl
  | cons name rest ih =>
    rw [List.zipIdx_cons, List.map_cons]
    show _ = settle (answer call name :: _)
    unfold probeFrom
    cases answer call name with
    | error e => rfl
    | ok isThere =>
      cases isThere with
      | false => rfl
      | true => exact ih (call + 1)

/-- In sequence, they settle it in the order of the names. -/
theorem verdict_probeInSequence :
    (probeInSequence answer names).verdict = settle ((issued answer names).map Probe.answer) := by
  unfold probeInSequence issued
  rw [verdict_probeFrom, List.map_map]
  rfl

/-! ## §3. Checks at once are flights. -/

/-- A check at once says what a flight says in which the probes end in the order
of arrival. -/
theorem exists_flight (answer : Nat → Text → Except ε Bool) (delay : Nat → Nat)
    (names : List Text) :
    ∃ f, Flight.Reaches (issued answer names) f ∧ f.IsOver ∧
      f.landed.map Prod.fst <+: arrivals delay (issued answer names) ∧
        probeAtOnce answer delay names = f.race.verdict := by
  have hperm := arrivals_perm delay (issued answer names)
  obtain ⟨f, hf, hover, hfirst⟩ := Flight.exists_reaches hperm
  refine ⟨f, hf, hover, hfirst, ?_⟩
  rw [probeAtOnce_eq_settle, (Flight.soundness hf).verdict_eq_settle hover hperm hfirst]

/-- Any flight that is over says what a check at once says, with delays to suit. -/
theorem exists_delay {f : Flight ε} (hf : Flight.Reaches (issued answer names) f)
    (hover : f.IsOver) : ∃ delay, probeAtOnce answer delay names = f.race.verdict := by
  have hsound := Flight.soundness hf
  obtain ⟨delay, hdelay⟩ := exists_arrivals_eq hsound.perm
  refine ⟨delay, ?_⟩
  rw [probeAtOnce_eq_settle, hdelay,
    hsound.verdict_eq_settle hover hsound.perm (List.prefix_append _ _)]

/-! ## §4. Whole checks. -/

section Checks

variable {d : Decomposer} {labels : LabelSource} {name : Text} {plan : Plan}

/-- A name with a subdomain has the plan for its normal form. -/
theorem plan_of_hasSub {parts : Parts} (hparts : d.decompose name = .ok parts)
    (hsub : parts.hasSub = true) :
    Plan.of d name = .ok (some (.ofCleaned (Name.clean name))) := by
  unfold Plan.of
  rw [hparts]
  simp [bind, Except.bind, hsub, pure, Except.pure]

theorem wildcardInSequence_of_plan (hplan : Plan.of d name = .ok (some plan)) :
    wildcardInSequence d labels answer name
      = ⟨plan.requested, (probeInSequence answer (plan.candidates labels)).asked,
          (probeInSequence answer (plan.candidates labels)).verdict.mapError .probe⟩ := by
  unfold wildcardInSequence
  rw [hplan]

theorem verdict_inSequence_of_plan (hplan : Plan.of d name = .ok (some plan)) :
    (wildcardInSequence d labels answer name).verdict
      = (settle ((issued answer (plan.candidates labels)).map Probe.answer)).mapError .probe := by
  rw [wildcardInSequence_of_plan hplan, ← verdict_probeInSequence]

theorem verdict_atOnce_of_plan (hplan : Plan.of d name = .ok (some plan)) :
    (wildcardAtOnce d labels answer delay name).verdict
      = (probeAtOnce answer delay (plan.candidates labels)).mapError .probe := by
  unfold wildcardAtOnce
  rw [hplan]

/-- To take failures for those of a probe keeps verdicts apart. -/
theorem mapError_probe_inj {x y : Except ε Bool} :
    x.mapError ProbeError.probe = y.mapError .probe ↔ x = y := by
  cases x <;> cases y <;> simp [Except.mapError]

/-- **A check at once says what a check in sequence says, whatever the delays,
if and only if no two names have different answers that are not positive.** -/
theorem atOnce_eq_inSequence_iff (d : Decomposer) (labels : LabelSource)
    (answer : Nat → Text → Except ε Bool) (name : Text) :
    (∀ delay, (wildcardAtOnce d labels answer delay name).verdict
        = (wildcardInSequence d labels answer name).verdict) ↔
      ∀ plan, Plan.of d name = .ok (some plan) →
        Unanimous ((issued answer (plan.candidates labels)).map Probe.answer) := by
  cases hplan : Plan.of d name with
  | error e => exact iff_of_true (by simp [wildcardAtOnce, wildcardInSequence, hplan]) nofun
  | ok found =>
    cases found with
    | none => exact iff_of_true (by simp [wildcardAtOnce, wildcardInSequence, hplan]) nofun
    | some plan =>
      simp only [verdict_inSequence_of_plan hplan, verdict_atOnce_of_plan hplan,
        mapError_probe_inj, Except.ok.injEq, Option.some.injEq, forall_eq']
      constructor
      · intro hall
        -- An answer that is not positive decides the check in which it comes in first.
        have hfirst : ∀ a ∈ (issued answer (plan.candidates labels)).map Probe.answer,
            a ≠ .ok true →
              a = settle ((issued answer (plan.candidates labels)).map Probe.answer) := by
          intro a ha hne
          obtain ⟨probe, hmem, rfl⟩ := List.mem_map.mp ha
          rw [← hall fun call => if call = probe.call then 0 else 1,
            probeAtOnce_of_earliest hmem hne (by simp +contextual)]
        intro a ha b hb hane hbne
        rw [hfirst a ha hane, hfirst b hb hbne]
      · intro hunanimous delay
        rw [probeAtOnce_eq_settle]
        exact hunanimous.settle_eq_of_perm ((arrivals_perm delay _).map Probe.answer)

/-- Without a list, the suffix of `www.example.com` is `com`. -/
theorem decompose_www_example_com :
    Decomposer.decompose ⟨Fallback.list, {}⟩ "www.example.com".toList
      = .ok ⟨"com".toList, "example".toList, "www".toList⟩ := by
  have hls : Name.labels (Name.clean "www.example.com".toList)
      = ["www".toList, "example".toList, "com".toList] := by decide
  rw [Decomposer.decompose_of_valid (by decide) (by decide), hls,
    Decomposer.suffixLabels_of_not_isAnswered (by decide)]
  decide

/-- The first of three names does not exist, but before that is known the
second probe has timed out. -/
theorem atOnce_ne_inSequence_www :
    let d : Decomposer := ⟨Fallback.list, {}⟩
    let labels : LabelSource := fun call length =>
      List.replicate length (probeChars.getD call 'a')
    let answer : Nat → Text → Except QueryError Bool := fun _ name =>
      match name.head? with
      | some 'a' => .ok false
      | some 'b' => .error ⟨name, .a, .timeout⟩
      | _ => .ok true
    let delay : Nat → Nat := fun call => if call = 1 then 0 else 1
    let second := List.replicate 63 'b' ++ ".example.com".toList
    (wildcardInSequence d labels answer "www.example.com".toList).verdict = .ok false ∧
      (wildcardAtOnce d labels answer delay "www.example.com".toList).verdict
        = .error (.probe ⟨second, .a, .timeout⟩) := by
  intro d labels answer delay second
  have hplan := plan_of_hasSub decompose_www_example_com rfl
  rw [verdict_inSequence_of_plan hplan, verdict_atOnce_of_plan hplan]
  refine ⟨by decide, ?_⟩
  have hmem : ⟨1, second, .error ⟨second, .a, .timeout⟩⟩
      ∈ issued answer ((Plan.ofCleaned (Name.clean "www.example.com".toList)).candidates labels) :=
    List.mem_of_getElem? (i := 1) rfl
  rw [probeAtOnce_of_earliest hmem (by simp) (by simp +contextual [delay])]
  rfl

/-- Answers of which none is an error are unanimous. -/
theorem unanimous_of_no_error {probes : List (Probe ε)}
    (h : ∀ probe ∈ probes, ∃ isThere, probe.answer = .ok isThere) :
    Unanimous (probes.map Probe.answer) := by
  have hfalse : ∀ a ∈ probes.map Probe.answer, a ≠ .ok true → a = .ok false := by
    intro a ha hne
    obtain ⟨probe, hmem, rfl⟩ := List.mem_map.mp ha
    obtain ⟨isThere, heq⟩ := h probe hmem
    cases isThere with
    | false => exact heq
    | true => exact absurd heq hne
  intro a ha b hb hane hbne
  rw [hfalse a ha hane, hfalse b hb hbne]

/-- **A check at once is positive if every probe is, and otherwise says what the
first probe says that ends without being positive.**  The flights of its probes
are the orders in which they can end: each is a check with some delays, and a
check with any delays is one in which they end in the order of arrival. -/
theorem atOnce_settles {parts : Parts} (hparts : d.decompose name = .ok parts)
    (hsub : parts.hasSub = true) (labels : LabelSource) (answer : Nat → Text → Except ε Bool) :
    let probes := issued answer ((Plan.ofCleaned (Name.clean name)).candidates labels)
    (∀ f, Flight.Reaches probes f → f.IsOver →
      Flight.Settles probes f ∧
      ((∀ probe ∈ probes, ∃ isThere, probe.answer = .ok isThere) →
        f.race.verdict.mapError .probe = (wildcardInSequence d labels answer name).verdict) ∧
      ∃ delay, (wildcardAtOnce d labels answer delay name).verdict
        = f.race.verdict.mapError .probe) ∧
    ∀ delay, ∃ f, Flight.Reaches probes f ∧ f.IsOver ∧
      f.landed.map Prod.fst <+: arrivals delay probes ∧
        (wildcardAtOnce d labels answer delay name).verdict = f.race.verdict.mapError .probe := by
  intro probes
  have hplan := plan_of_hasSub hparts hsub
  constructor
  · intro f hf hover
    -- What is promised of the flight holds after each of its steps.
    have hsound := Flight.soundness hf
    refine ⟨hsound.settles hover, ?_, ?_⟩
    · intro hno
      rw [verdict_inSequence_of_plan hplan, mapError_probe_inj,
        hsound.verdict_eq_settle hover hsound.perm (List.prefix_append _ _)]
      exact (unanimous_of_no_error hno).settle_eq_of_perm (hsound.perm.map Probe.answer)
    · -- Any order in which probes can come in is that of some times taken.
      obtain ⟨delay, hdelay⟩ := exists_delay hf hover
      exact ⟨delay, by rw [verdict_atOnce_of_plan hplan, hdelay]⟩
  · intro delay
    obtain ⟨f, hf, hover, hfirst, hverdict⟩ := exists_flight answer delay
      ((Plan.ofCleaned (Name.clean name)).candidates labels)
    exact ⟨f, hf, hover, hfirst, by rw [verdict_atOnce_of_plan hplan, hverdict]⟩

/-- The second of three names does not exist: no delays make the check positive. -/
theorem atOnce_settles_www :
    let d : Decomposer := ⟨Fallback.list, {}⟩
    let parts : Parts := ⟨"com".toList, "example".toList, "www".toList⟩
    let labels : LabelSource := fun call length =>
      List.replicate length (probeChars.getD call 'a')
    let answer : Nat → Text → Except QueryError Bool := fun _ name => .ok (name.head? ≠ some 'b')
    d.decompose "www.example.com".toList = .ok parts ∧ parts.hasSub = true ∧
      ∀ delay, (wildcardAtOnce d labels answer delay "www.example.com".toList).verdict
        = .ok false := by
  intro d parts labels answer
  refine ⟨decompose_www_example_com, rfl, ?_⟩
  intro delay
  have h := atOnce_settles decompose_www_example_com rfl labels answer
  obtain ⟨f, hf, hover, -, hverdict⟩ := h.2 delay
  have hno : ∀ probe ∈ issued answer
      ((Plan.ofCleaned (Name.clean "www.example.com".toList)).candidates labels),
        ∃ isThere, probe.answer = .ok isThere := by
    intro probe hmem
    obtain ⟨-, -, rfl⟩ := List.mem_map.mp hmem
    exact ⟨_, rfl⟩
  rw [hverdict, (h.1 f hf hover).2.1 hno,
    verdict_inSequence_of_plan (plan_of_hasSub decompose_www_example_com rfl)]
  decide

end Checks

end DomainScope
