/-
  DomainScope.Proofs.Resolver.Retry
  ─────────────────────────────────
  **WHEN A QUERY IS TRIED AGAIN, AND WHAT COMES OF IT.**

  A retrier is given a row of delays.  It makes an attempt; if that fails and
  asking again may help, and a delay is left, it waits and makes another one
  (`Retries`).  So an attempt is made exactly if all before it failed in
  passing and delays were left, and the run ends with the outcome of the last
  attempt.  There is one delay less than there are attempts allowed, and what
  fails in passing is told from what was refused by the reply alone.

  Main results
    `retries_retryFrom`        the attempts of a query are such a run
    `Retries.lt_attempts_iff`  which attempts a run makes
    `Retries.result_eq`        its result is the last outcome
    `attempt_settles`          the attempts of a query and its result, by the replies
-/
import DomainScope.Proofs.Resolver.Existence

namespace DomainScope

/-! ## §1. Runs of a retrier. -/

/-- A failure that another attempt may mend. -/
def FailsInPassing {α : Type} (outcome : Except QueryError α) : Prop :=
  ∃ e, outcome = .error e ∧ e.isTransient = true

/-- The runs of a retrier from attempt number `i` on, with the delays left to
it. -/
inductive Retries {α : Type} (outcome : Nat → Except QueryError α) :
    Nat → List Nat → Attempted α → Prop where
  /-- The attempt succeeds, or fails for good. -/
  | settled {i : Nat} {delays : List Nat} (h : ¬ FailsInPassing (outcome i)) :
      Retries outcome i delays ⟨i + 1, outcome i⟩
  /-- No delay is left. -/
  | exhausted {i : Nat} : Retries outcome i [] ⟨i + 1, outcome i⟩
  /-- The attempt fails in passing, and after a delay there is another one. -/
  | again {i delay : Nat} {delays : List Nat} {run : Attempted α}
      (h : FailsInPassing (outcome i)) (later : Retries outcome (i + 1) delays run) :
      Retries outcome i (delay :: delays) run

variable {α : Type} {outcome : Nat → Except QueryError α}

/-- After a failure in passing the next attempt is made, if one is left. -/
theorem retryFrom_of_passing {i : Nat} (h : FailsInPassing (outcome i)) (more : Nat) :
    retryFrom outcome i (more + 1) = retryFrom outcome (i + 1) more := by
  obtain ⟨e, he, htransient⟩ := h
  rw [retryFrom, he]
  exact if_pos htransient

/-- Any other outcome ends the run. -/
theorem retryFrom_of_not_passing {i : Nat} (h : ¬ FailsInPassing (outcome i)) (more : Nat) :
    retryFrom outcome i more = ⟨i + 1, outcome i⟩ := by
  cases more with
  | zero => rfl
  | succ more =>
    rw [retryFrom]
    cases houtcome : outcome i with
    | ok a => rfl
    | error e => exact if_neg fun htransient => h ⟨e, houtcome, htransient⟩

/-- **The attempts of a query are a run**, with as many delays as further
attempts. -/
theorem retries_retryFrom (outcome : Nat → Except QueryError α) (i : Nat) (delays : List Nat) :
    Retries outcome i delays (retryFrom outcome i delays.length) := by
  induction delays generalizing i with
  | nil => exact .exhausted
  | cons delay delays ih =>
    rw [List.length_cons]
    by_cases h : FailsInPassing (outcome i)
    · rw [retryFrom_of_passing h]
      exact .again h (ih (i + 1))
    · rw [retryFrom_of_not_passing h]
      exact .settled h

namespace Retries

variable {i : Nat} {delays : List Nat} {run : Attempted α}

/-- A run makes its first attempt. -/
theorem lt_attempts (h : Retries outcome i delays run) : i < run.attempts := by
  induction h with
  | settled => exact Nat.lt_succ_self _
  | exhausted => exact Nat.lt_succ_self _
  | again _ _ ih => omega

/-- **A run makes an attempt exactly if all before it failed in passing** and a
delay was left for each. -/
theorem lt_attempts_iff (h : Retries outcome i delays run) {k : Nat} (hik : i ≤ k) :
    k < run.attempts ↔
      (∀ j, i ≤ j → j < k → FailsInPassing (outcome j)) ∧ k ≤ i + delays.length := by
  -- A run that settles makes no further attempt; one that goes on shifts all by one.
  induction h with
  | @settled i delays hsettled =>
    show k < i + 1 ↔ _
    constructor
    · intro hlt
      exact ⟨fun j hij hjk => by omega, by omega⟩
    · intro hyp
      obtain ⟨hpassing, -⟩ := hyp
      by_contra hge
      exact hsettled (hpassing i (Nat.le_refl i) (by omega))
  | @exhausted i =>
    show k < i + 1 ↔ _ ∧ k ≤ i
    constructor
    · intro hlt
      exact ⟨fun j hij hjk => by omega, by omega⟩
    · intro hyp
      omega
  | @again i delay delays run hpassing hlater ih =>
    rw [List.length_cons]
    by_cases hk : k = i
    · subst hk
      have hlt := hlater.lt_attempts
      exact iff_of_true (by omega) ⟨fun j hij hjk => by omega, by omega⟩
    · rw [ih (by omega)]
      constructor
      · intro hyp
        obtain ⟨hfrom, hle⟩ := hyp
        refine ⟨fun j hij hjk => ?_, by omega⟩
        by_cases hj : j = i
        · rw [hj]
          exact hpassing
        · exact hfrom j (by omega) hjk
      · intro hyp
        obtain ⟨hfrom, hle⟩ := hyp
        exact ⟨fun j hij hjk => hfrom j (by omega) hjk, by omega⟩

/-- **The result of a run is the outcome of its last attempt.** -/
theorem result_eq (h : Retries outcome i delays run) :
    run.result = outcome (run.attempts - 1) := by
  induction h with
  | settled => rfl
  | exhausted => rfl
  | again _ _ ih => exact ih

end Retries

/-! ## §2. Replies. -/

namespace Reply

/-- A reply that another attempt may mend: nothing in time, or a failure that
is no answer of a server. -/
inductive Passing : Reply → Prop where
  | timeout : Passing .timeout
  | failure (cause : Text) : Passing (.failure cause)

/-- What fails in passing is told by the reply. -/
theorem failsInPassing_meaning_iff {name : Text} {kind : RecordKind} {reply : Reply} :
    FailsInPassing (reply.meaning name kind) ↔ reply.Passing := by
  unfold FailsInPassing
  cases reply with
  | answer records => exact iff_of_false (by simp [meaning]) nofun
  | noRecords code =>
    refine iff_of_false ?_ nofun
    intro hyp
    obtain ⟨e, he, htransient⟩ := hyp
    cases code with
    | noError => cases he
    | noSuchName => cases he
    | other words =>
      cases he
      cases htransient
  | timeout => exact iff_of_true ⟨_, rfl, rfl⟩ .timeout
  | failure cause => exact iff_of_true ⟨_, rfl, rfl⟩ (.failure cause)

end Reply

/-! ## §3. Queries. -/

namespace Client

variable {c : Client} {name : Text} {kind : RecordKind}

/-- There is one delay less than there are attempts. -/
theorem length_delays (b : Backoff) : b.delays.length = b.attempts - 1 := by
  unfold Backoff.delays
  rw [List.length_map, List.length_range]

theorem retries_attempt (c : Client) (name : Text) (kind : RecordKind) :
    Retries (fun i => (c.source name kind i).meaning name kind) 0 c.backoff.delays
      (c.attempt name kind) :=
  retries_retryFrom _ 0 c.backoff.delays

/-- A query fails, and with it existence and look-up. -/
structure Fails (c : Client) (name : Text) (kind : RecordKind) (fault : QueryFault) : Prop where
  query : c.query name kind = .error ⟨name, kind, fault⟩
  isFound : c.isFound name kind = .error ⟨name, kind, fault⟩
  lookup : c.lookup name kind = .error (.query ⟨name, kind, fault⟩)

/-- The name has no records of a kind, and that is no failure. -/
structure FindsNothing (c : Client) (name : Text) (kind : RecordKind) : Prop where
  query : c.query name kind = .ok none
  isFound : c.isFound name kind = .ok false
  lookup : c.lookup name kind = .ok []

/-- A query ends in an error, or existence or a look-up does. -/
inductive EndsIn (c : Client) (name : Text) (kind : RecordKind) (e : QueryError) : Prop where
  | query (h : c.query name kind = .error e)
  | isFound (h : c.isFound name kind = .error e)
  | lookup (h : c.lookup name kind = .error (.query e))

/-- What a client reports after a reply. -/
def Reports (c : Client) (name : Text) (kind : RecordKind) : Reply → Prop
  | .answer records => c.query name kind = .ok (some records)
  | .noRecords .noError => c.FindsNothing name kind
  | .noRecords .noSuchName => c.FindsNothing name kind
  | .noRecords (.other words) => c.Fails name kind (.responseCode words)
  | .timeout => c.Fails name kind .timeout
  | .failure cause => c.Fails name kind (.lookup cause)

/-- Existence fails as the query does. -/
theorem isFound_eq_error_iff_query {e : QueryError} :
    c.isFound name kind = .error e ↔ c.query name kind = .error e := by
  unfold isFound
  cases c.query name kind with
  | error fault => simp
  | ok found => cases found <;> exact iff_of_false nofun nofun

theorem EndsIn.query_eq {e : QueryError} (h : c.EndsIn name kind e) :
    c.query name kind = .error e := by
  rcases h with h | h | h
  · exact h
  · exact isFound_eq_error_iff_query.mp h
  · exact isFound_eq_error_iff_query.mp (isFound_eq_error_iff.mpr h)

theorem fails_of_query {fault : QueryFault}
    (h : c.query name kind = .error ⟨name, kind, fault⟩) : c.Fails name kind fault := by
  have hfound := isFound_eq_error_iff_query.mpr h
  exact ⟨h, hfound, isFound_eq_error_iff.mp hfound⟩

theorem findsNothing_of_query (h : c.query name kind = .ok none) : c.FindsNothing name kind := by
  have hfound : c.isFound name kind = .ok false := by
    unfold isFound
    rw [h]
  exact ⟨h, hfound, lookup_of_isFound_eq_false hfound⟩

/-- A query means what its last reply means. -/
theorem query_eq_meaning (c : Client) (name : Text) (kind : RecordKind) :
    c.query name kind
      = (c.source name kind ((c.attempt name kind).attempts - 1)).meaning name kind :=
  (retries_attempt c name kind).result_eq

theorem reports_of_meaning {reply : Reply} (h : c.query name kind = reply.meaning name kind) :
    c.Reports name kind reply := by
  cases reply with
  | answer records => exact h
  | noRecords code =>
    cases code with
    | noError => exact findsNothing_of_query h
    | noSuchName => exact findsNothing_of_query h
    | other words => exact fails_of_query h
  | timeout => exact fails_of_query h
  | failure cause => exact fails_of_query h

/-- The attempts that a query makes, by the replies before them. -/
theorem lt_attempts_iff_passing (hpos : 0 < c.backoff.attempts) (i : Nat) :
    i < (c.attempt name kind).attempts ↔
      (∀ j < i, (c.source name kind j).Passing) ∧ i < c.backoff.attempts := by
  rw [(retries_attempt c name kind).lt_attempts_iff (Nat.zero_le i), length_delays]
  simp only [Reply.failsInPassing_meaning_iff, Nat.zero_le, true_imp_iff]
  exact and_congr_right fun _ => by omega

/-- **When a query is tried again, and what comes of it.**  Attempt `i`, from
zero, is made exactly if all before it failed in passing and it is one of those
allowed.  The client reports what its last reply means, and a failure in passing
only if all the attempts allowed failed so. -/
theorem attempt_settles (c : Client) (hpos : 0 < c.backoff.attempts) (name : Text)
    (kind : RecordKind) :
    (∀ i, i < (c.attempt name kind).attempts ↔
        (∀ j < i, (c.source name kind j).Passing) ∧ i < c.backoff.attempts) ∧
      c.Reports name kind (c.source name kind ((c.attempt name kind).attempts - 1)) ∧
      ∀ e, c.EndsIn name kind e → (e.fault = .timeout ∨ ∃ cause, e.fault = .lookup cause) →
        (c.attempt name kind).attempts = c.backoff.attempts ∧
          ∀ j < c.backoff.attempts, (c.source name kind j).Passing := by
  have hmade := fun i => @lt_attempts_iff_passing c name kind hpos i
  have hquery := query_eq_meaning c name kind
  refine ⟨hmade, reports_of_meaning hquery, ?_⟩
  intro e hends hfault
  have hfirst := (hmade 0).mpr ⟨fun j hj => absurd hj (Nat.not_lt_zero j), hpos⟩
  -- The last attempt failed in passing, so only the number of attempts ended the run.
  have hlast : (c.source name kind ((c.attempt name kind).attempts - 1)).Passing := by
    rw [← @Reply.failsInPassing_meaning_iff name kind, ← hquery, hends.query_eq]
    refine ⟨e, rfl, ?_⟩
    unfold QueryError.isTransient
    rcases hfault with h | ⟨cause, h⟩ <;> rw [h]
  obtain ⟨hbefore, hle⟩ := (hmade ((c.attempt name kind).attempts - 1)).mp (by omega)
  have hall : ∀ j < (c.attempt name kind).attempts, (c.source name kind j).Passing := by
    intro j hj
    by_cases heq : j = (c.attempt name kind).attempts - 1
    · rw [heq]
      exact hlast
    · exact hbefore j (by omega)
  have hcount : (c.attempt name kind).attempts = c.backoff.attempts := by
    by_contra hne
    have hlt := (hmade (c.attempt name kind).attempts).mpr ⟨hall, by omega⟩
    exact Nat.lt_irrefl _ hlt
  rw [hcount] at hall
  exact ⟨hcount, hall⟩

/-- A server that lets the first query time out and refuses the next is asked
twice, though three attempts are allowed. -/
theorem attempt_settles_refused :
    let c : Client := { source := fun _ _ i =>
      if i = 0 then .timeout else .noRecords (.other "Query Refused".toList) }
    0 < c.backoff.attempts ∧ (c.attempt "example.com".toList .mx).attempts = 2 ∧
      c.Fails "example.com".toList .mx (.responseCode "Query Refused".toList) := by
  intro c
  have hpos : 0 < c.backoff.attempts := by decide
  obtain ⟨hmade, hreports, -⟩ := attempt_settles c hpos "example.com".toList .mx
  have hsecond := (hmade 1).mpr ⟨fun j hj => by
    rw [Nat.lt_one_iff.mp hj]
    exact .timeout, by decide⟩
  have hthird : ¬ 2 < (c.attempt "example.com".toList .mx).attempts := by
    intro hlt
    have hpassing := ((hmade 2).mp hlt).1 1 (by decide)
    cases hpassing
  have hcount : (c.attempt "example.com".toList .mx).attempts = 2 := by omega
  rw [hcount] at hreports
  exact ⟨hpos, hcount, hreports⟩

end Client

end DomainScope
