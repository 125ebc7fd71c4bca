/-
  DomainScope.Proofs.Resolver.Unprintable
  ───────────────────────────────────────
  **LOOK-UPS THAT ARE ABORTED.**

  A look-up turns all records of its answer into values, those of other kinds
  too, before it keeps the ones of the kind asked for.  One record without a
  printed form therefore aborts it, whatever was asked for, and a survey is
  aborted by the first look-up that is.

  Main results
    `lookup_aborts_iff`       one look-up
    `survey_aborts_iff`       a survey
    `aborts_iff_unprintable`  record data, look-ups and surveys
-/
import DomainScope.Proofs.Record.Value
import DomainScope.Resolver.Survey
import DomainScope.Suffix.Fallback

namespace DomainScope.Client

open Record

variable {c : Client} {d : Decomposer} {name : Text}

/-! ## §1. Look-ups. -/

/-- All records are turned into values before any is left out, so one is enough. -/
theorem valuesOfKind_eq_error_iff {kind : RecordKind} {records : List RecordData}
    {e : Unprintable} :
    valuesOfKind kind records = .error e ↔ ∃ data ∈ records, IsUnprintable data := by
  unfold valuesOfKind
  rw [bind_pure_eq_error_iff, ofAnswers_eq_error_iff]

/-- The query finds a record that has no printed form. -/
def FindsUnprintable (c : Client) (name : Text) (kind : RecordKind) : Prop :=
  ∃ records, c.query name kind = .ok (some records) ∧ ∃ data ∈ records, IsUnprintable data

/-- **A look-up is aborted if its answer holds a record without printed form**,
of whatever kind. -/
theorem lookup_aborts_iff {kind : RecordKind} {e : Unprintable} :
    c.lookup name kind = .error (.unprintable e) ↔ c.FindsUnprintable name kind := by
  unfold lookup FindsUnprintable
  cases hquery : c.query name kind with
  | error fault => exact iff_of_false nofun (by simp)
  | ok found =>
    cases found with
    | none => exact iff_of_false nofun (by simp)
    | some records =>
      simp only [Except.ok.injEq, Option.some.injEq, exists_eq_left']
      rw [← @valuesOfKind_eq_error_iff kind records e]
      cases valuesOfKind kind records with
      | ok values => exact iff_of_false nofun nofun
      | error e' => simp [Except.mapError]

/-! ## §2. Surveys. -/

theorem surveyKind_eq_error_iff {labels : LabelSource} {kind : RecordKind} {e : Unprintable} :
    c.surveyKind d labels name kind = .error e ↔ c.FindsUnprintable name kind := by
  rw [← @lookup_aborts_iff c name kind e]
  unfold surveyKind
  cases hlookup : c.lookup name kind with
  | error fault =>
    cases fault with
    | query fault => exact iff_of_false nofun nofun
    | unprintable e' => simp
  | ok values =>
    refine iff_of_false ?_ nofun
    -- A wildcard check has a verdict or fails as a query does, and both are kept.
    cases values with
    | nil => exact nofun
    | cons first rest =>
      simp only
      split <;> exact nofun

/-- A survey of some kinds is aborted if that of one of them is. -/
theorem surveyKinds_eq_error_iff {labels : RecordKind → LabelSource} {kinds : List RecordKind}
    {e : Unprintable} :
    c.surveyKinds d labels name kinds = .error e ↔
      ∃ kind ∈ kinds, c.FindsUnprintable name kind := by
  induction kinds with
  | nil => exact iff_of_false nofun (by simp)
  | cons kind rest ih =>
    show (c.surveyKind d (labels kind) name kind >>= fun here =>
      c.surveyKinds d labels name rest >>= fun later => pure (here.append later)) = _ ↔ _
    rw [bind_eq_error_iff (fun here => bind_pure_eq_error_iff), List.exists_mem_cons_iff, ← ih,
      surveyKind_eq_error_iff]

/-- **The survey of a valid name is aborted if any of its queries finds a record
without printed form.** -/
theorem survey_aborts_iff {labels : RecordKind → LabelSource} {e : Unprintable} :
    c.survey d labels name = .error e ↔
      Name.validate d.policy name = .ok () ∧ ∃ kind, c.FindsUnprintable name kind := by
  unfold survey
  cases hvalid : Name.validate d.policy name with
  | error fault => exact iff_of_false nofun (by simp)
  | ok u =>
    have hall : (∃ kind ∈ RecordKind.all, c.FindsUnprintable name kind) ↔
        ∃ kind, c.FindsUnprintable name kind := by
      simp [RecordKind.mem_all]
    rw [← hall]
    simp only [true_and]
    exact surveyKinds_eq_error_iff

/-! ## §3. What aborts. -/

/-- **Nothing but the raw value of a CAA property aborts anything**, and it does
so whenever it is not UTF-8: on its own, in the answer to a look-up of any kind,
and in a survey. -/
theorem aborts_iff_unprintable (c : Client) (d : Decomposer) (labels : RecordKind → LabelSource)
    (name : Text) :
    (∀ data e, ofData data = .error e ↔ IsUnprintable data) ∧
      (∀ kind e, c.lookup name kind = .error (.unprintable e) ↔
        ∃ records, c.query name kind = .ok (some records) ∧
          ∃ data ∈ records, IsUnprintable data) ∧
      (∀ e, c.survey d labels name = .error e ↔
        Name.validate d.policy name = .ok () ∧
          ∃ kind records, c.query name kind = .ok (some records) ∧
            ∃ data ∈ records, IsUnprintable data) :=
  ⟨fun _ _ => ofData_eq_error_iff, fun _ _ => lookup_aborts_iff, fun _ => survey_aborts_iff⟩

/-- A CAA property of an unknown tag whose value is the byte `FF` aborts its own
conversion, a look-up of addresses that has it in its answer, and a survey. -/
theorem aborts_unknown_caa :
    let data := RecordData.caa false "unknown".toList (.raw [0xFF])
    let c : Client := { source := fun _ _ _ => .answer [data] }
    ofData data = .error .caaValue ∧
      c.lookup "example.com".toList .a = .error (.unprintable .caaValue) ∧
      c.survey ⟨Fallback.list, {}⟩ (fun _ _ _ => []) "example.com".toList
        = .error .caaValue := by
  decide

end DomainScope.Client
