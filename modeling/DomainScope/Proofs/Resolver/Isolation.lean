/-
  DomainScope.Proofs.Resolver.Isolation
  ─────────────────────────────────────
  **SURVEYS KIND BY KIND.**

  A survey is put together from what each kind of record contributes, in the
  order of the kinds, and what a kind contributes hangs on the answers to
  queries for that kind only.  So a kind that fails, or is answered otherwise,
  changes its own contribution and no other.  The exception is a record without
  printed form: it stops the whole survey.

  Main results
    `surveyKinds_eq_join`     a survey as a row of contributions
    `surveyKind_congr`        a contribution hangs on the queries of its kind
    `survey_isolates_iff`     when failures stay with their kind
-/
import DomainScope.Proofs.Resolver.Existence
import DomainScope.Proofs.Resolver.Unprintable
import DomainScope.Proofs.Wildcard.InSequence

namespace DomainScope

/-- The contributions of some kinds, one after the other. -/
def Survey.join (kinds : List RecordKind) (part : RecordKind → Survey) : Survey :=
  ⟨kinds.flatMap fun kind => (part kind).records, kinds.flatMap fun kind => (part kind).errors⟩

namespace Client

variable {c c' : Client} {d : Decomposer} {labels : LabelSource} {name : Text} {kind : RecordKind}

/-! ## §1. What a kind contributes. -/

/-- What one kind contributes to a survey. -/
inductive Contributes (c : Client) (d : Decomposer) (labels : LabelSource) (name : Text)
    (kind : RecordKind) : Survey → Prop where
  /-- The look-up failed. -/
  | failed {e : QueryError} (h : c.lookup name kind = .error (.query e)) :
      Contributes c d labels name kind ⟨[], [.probe e]⟩
  /-- There are no values. -/
  | absent (h : c.lookup name kind = .ok []) : Contributes c d labels name kind ⟨[], []⟩
  /-- The values come from a wildcard. -/
  | covered {first : Record} {rest : List Record} (h : c.lookup name kind = .ok (first :: rest))
      (hcheck : c.isWildcard d labels (some kind) name = .ok true) :
      Contributes c d labels name kind ⟨[], []⟩
  /-- The values are those of the name itself. -/
  | kept {first : Record} {rest : List Record} (h : c.lookup name kind = .ok (first :: rest))
      (hcheck : c.isWildcard d labels (some kind) name = .ok false) :
      Contributes c d labels name kind ⟨first :: rest, []⟩
  /-- It cannot be told where the values come from. -/
  | uncertain {first : Record} {rest : List Record} {e : ProbeError QueryError}
      (h : c.lookup name kind = .ok (first :: rest))
      (hcheck : c.isWildcard d labels (some kind) name = .error e) :
      Contributes c d labels name kind ⟨first :: rest, [e]⟩

namespace Contributes

variable {s : Survey}

/-- No kind contributes more than one error. -/
theorem length_errors_le (h : c.Contributes d labels name kind s) : s.errors.length ≤ 1 := by
  cases h with
  | failed h => exact Nat.le_refl 1
  | absent h => exact Nat.zero_le 1
  | covered h hcheck => exact Nat.zero_le 1
  | kept h hcheck => exact Nat.zero_le 1
  | uncertain h hcheck => exact Nat.le_refl 1

/-- What a kind contributes was found by looking it up. -/
theorem exists_lookup (h : c.Contributes d labels name kind s) {record : Record}
    (hmem : record ∈ s.records) :
    ∃ values, c.lookup name kind = .ok values ∧ record ∈ values := by
  cases h with
  | failed h => exact absurd hmem List.not_mem_nil
  | absent h => exact absurd hmem List.not_mem_nil
  | covered h hcheck => exact absurd hmem List.not_mem_nil
  | kept h hcheck => exact ⟨_, h, hmem⟩
  | uncertain h hcheck => exact ⟨_, h, hmem⟩

/-- A survey takes over what a kind contributes. -/
theorem surveyKind_eq (h : c.Contributes d labels name kind s) :
    c.surveyKind d labels name kind = .ok s := by
  unfold surveyKind
  cases h with
  | failed h => rw [h]
  | absent h => rw [h]
  | covered h hcheck => simp only [h, hcheck]
  | kept h hcheck => simp only [h, hcheck]
  | uncertain h hcheck => simp only [h, hcheck]

end Contributes

theorem not_findsUnprintable_of_surveyKind {s : Survey}
    (h : c.surveyKind d labels name kind = .ok s) : ¬ c.FindsUnprintable name kind := by
  intro hunprintable
  rw [(@surveyKind_eq_error_iff c d name labels kind .caaValue).mpr hunprintable] at h
  cases h

/-- **A kind contributes something exactly if its look-up finds no record without
printed form.** -/
theorem exists_contributes_iff :
    (∃ s, c.Contributes d labels name kind s) ↔ ¬ c.FindsUnprintable name kind := by
  constructor
  · intro hexists
    obtain ⟨s, hs⟩ := hexists
    exact not_findsUnprintable_of_surveyKind hs.surveyKind_eq
  · intro hprintable
    cases hlookup : c.lookup name kind with
    | error e =>
      cases e with
      | query e => exact ⟨_, .failed hlookup⟩
      | unprintable e => exact absurd (lookup_aborts_iff.mp hlookup) hprintable
    | ok values =>
      cases values with
      | nil => exact ⟨_, .absent hlookup⟩
      | cons first rest =>
        cases hcheck : c.isWildcard d labels (some kind) name with
        | error e => exact ⟨_, .uncertain hlookup hcheck⟩
        | ok isCovered =>
          cases isCovered with
          | true => exact ⟨_, .covered hlookup hcheck⟩
          | false => exact ⟨_, .kept hlookup hcheck⟩

/-- Every kind contributes one thing, which a survey takes over. -/
theorem contributes_iff {s : Survey} :
    c.Contributes d labels name kind s ↔ c.surveyKind d labels name kind = .ok s := by
  constructor
  · intro h
    exact h.surveyKind_eq
  · intro h
    obtain ⟨s', hs'⟩ := exists_contributes_iff.mpr (not_findsUnprintable_of_surveyKind h)
    rw [hs'.surveyKind_eq] at h
    cases h
    exact hs'

/-- **A survey is the row of the contributions**, in the order of the kinds. -/
theorem surveyKinds_eq_join {labels : RecordKind → LabelSource} {kinds : List RecordKind}
    {part : RecordKind → Survey}
    (h : ∀ kind ∈ kinds, c.Contributes d (labels kind) name kind (part kind)) :
    c.surveyKinds d labels name kinds = .ok (Survey.join kinds part) := by
  induction kinds with
  | nil => rfl
  | cons kind rest ih =>
    have hhere := (h kind List.mem_cons_self).surveyKind_eq
    have hlater := ih fun other hother => h other (List.mem_cons_of_mem _ hother)
    unfold surveyKinds
    rw [hhere, hlater]
    rfl

/-! ## §2. What a survey asks. -/

/-- The queries that a survey makes for one kind: for the name itself, and if it
has values, for each name that the check for a wildcard asks for. -/
def kindQueries (c : Client) (d : Decomposer) (labels : LabelSource) (name : Text)
    (kind : RecordKind) : List (Text × RecordKind) :=
  (name, kind) ::
    match c.lookup name kind with
    | .ok (_ :: _) =>
      (wildcardInSequence d labels (fun _ => c.probe (some kind)) name).asked.map fun other =>
        (other, kind)
    | _ => []

/-- The queries that a survey makes for some kinds, up to one that stops it. -/
def kindsQueries (c : Client) (d : Decomposer) (labels : RecordKind → LabelSource) (name : Text) :
    List RecordKind → List (Text × RecordKind)
  | [] => []
  | kind :: rest =>
    c.kindQueries d (labels kind) name kind ++
      match c.surveyKind d (labels kind) name kind with
      | .ok _ => c.kindsQueries d labels name rest
      | .error _ => []

/-- The queries that a survey makes. -/
def surveyQueries (c : Client) (d : Decomposer) (labels : RecordKind → LabelSource)
    (name : Text) : List (Text × RecordKind) :=
  match Name.validate d.policy name with
  | .error _ => []
  | .ok () => c.kindsQueries d labels name RecordKind.all

theorem snd_of_mem_kindQueries {query : Text × RecordKind}
    (h : query ∈ c.kindQueries d labels name kind) : query.2 = kind := by
  unfold kindQueries at h
  rcases List.mem_cons.mp h with rfl | h
  · rfl
  · split at h
    · obtain ⟨other, -, rfl⟩ := List.mem_map.mp h
      rfl
    · exact absurd h List.not_mem_nil

theorem lookup_congr (h : c.query name kind = c'.query name kind) :
    c.lookup name kind = c'.lookup name kind := by
  unfold lookup
  rw [h]

theorem isFound_congr (h : c.query name kind = c'.query name kind) :
    c.isFound name kind = c'.isFound name kind := by
  unfold isFound
  rw [h]

/-- **What a kind contributes hangs on the answers to its own queries**, and on
nothing else that a server would say. -/
theorem surveyKind_congr
    (h : ∀ query ∈ c.kindQueries d labels name kind,
      c.query query.1 query.2 = c'.query query.1 query.2) :
    c'.surveyKind d labels name kind = c.surveyKind d labels name kind := by
  have hlookup : c.lookup name kind = c'.lookup name kind :=
    lookup_congr (h _ List.mem_cons_self)
  unfold surveyKind
  rw [← hlookup]
  cases hvalues : c.lookup name kind with
  | error e =>
    cases e with
    | query e => rfl
    | unprintable e => rfl
  | ok values =>
    cases values with
    | nil => rfl
    | cons first rest =>
      -- The check for a wildcard asks for this kind only, so its run is the same.
      have hcheck := @wildcardInSequence_congr QueryError d labels name
        (c.probe (some kind)) (c'.probe (some kind)) ?_
      · unfold isWildcard
        rw [hcheck]
      · intro other hother
        have hmem : (other, kind) ∈ c.kindQueries d labels name kind := by
          unfold kindQueries
          rw [hvalues]
          exact List.mem_cons_of_mem _ (List.mem_map_of_mem hother)
        exact isFound_congr (h _ hmem)

/-- **A survey hangs on the answers to its queries only.** -/
theorem surveyKinds_congr {labels : RecordKind → LabelSource} {kinds : List RecordKind}
    (h : ∀ query ∈ c.kindsQueries d labels name kinds,
      c.query query.1 query.2 = c'.query query.1 query.2) :
    c'.surveyKinds d labels name kinds = c.surveyKinds d labels name kinds := by
  -- Induction on the kinds: what is asked for the later ones is in the log only
  -- if this one does not stop the survey, and only then the later ones matter.
  induction kinds with
  | nil => rfl
  | cons kind rest ih =>
    unfold kindsQueries at h
    have hhere : c'.surveyKind d (labels kind) name kind
        = c.surveyKind d (labels kind) name kind :=
      surveyKind_congr fun query hquery => h query (List.mem_append_left _ hquery)
    unfold surveyKinds
    rw [hhere]
    cases hpart : c.surveyKind d (labels kind) name kind with
    | error e => rfl
    | ok part =>
      rw [hpart] at h
      rw [ih fun query hquery => h query (List.mem_append_right _ hquery)]

/-! ## §3. Surveys of a name. -/

section Surveys

variable {labels : RecordKind → LabelSource}

theorem survey_of_valid (h : Name.validate d.policy name = .ok ()) :
    c.survey d labels name = c.surveyKinds d labels name RecordKind.all := by
  unfold survey
  rw [h]

theorem survey_congr
    (h : ∀ query ∈ c.surveyQueries d labels name,
      c.query query.1 query.2 = c'.query query.1 query.2) :
    c'.survey d labels name = c.survey d labels name := by
  unfold surveyQueries at h
  unfold survey
  cases hvalid : Name.validate d.policy name with
  | error e => rfl
  | ok u =>
    rw [hvalid] at h
    exact surveyKinds_congr h

/-- Every kind contributes to the survey of a name what `part` says, and nothing
that a server says of another kind changes it. -/
structure Isolates (c : Client) (d : Decomposer) (labels : RecordKind → LabelSource)
    (name : Text) (part : RecordKind → Survey) : Prop where
  contributes : ∀ kind, c.Contributes d (labels kind) name kind (part kind)
  /-- The survey is the row of the contributions. -/
  survey_eq : c.survey d labels name = .ok (Survey.join RecordKind.all part)
  length_errors_le : ∀ kind, (part kind).errors.length ≤ 1
  /-- Every record was found by looking up its own kind. -/
  exists_lookup : ∀ kind, ∀ record ∈ (part kind).records, record.kind = kind ∧
    ∃ values, c.lookup name kind = .ok values ∧ record ∈ values
  /-- A client to which one kind is answered otherwise, with records that can
  all be printed, makes a survey that differs in the contribution of that kind. -/
  survey_update : ∀ (c' : Client) (changed : RecordKind),
    (∀ other kind, kind ≠ changed → c.query other kind = c'.query other kind) →
    ¬ c'.FindsUnprintable name changed →
    ∃ there, c'.Contributes d (labels changed) name changed there ∧
      c'.survey d labels name
        = .ok (Survey.join RecordKind.all (Function.update part changed there))

/-- Contributions of one client to a valid name isolate their kinds. -/
theorem isolates_of_contributes {part : RecordKind → Survey}
    (hvalid : Name.validate d.policy name = .ok ())
    (hpart : ∀ kind, c.Contributes d (labels kind) name kind (part kind)) :
    c.Isolates d labels name part := by
  refine ⟨hpart, ?_, fun kind => (hpart kind).length_errors_le, ?_, ?_⟩
  · rw [survey_of_valid hvalid]
    exact surveyKinds_eq_join fun kind _ => hpart kind
  · intro kind record hmem
    obtain ⟨values, hlookup, hrecord⟩ := (hpart kind).exists_lookup hmem
    exact ⟨kind_of_mem_lookup hlookup hrecord, values, hlookup, hrecord⟩
  · intro c' changed hsame hprintable
    obtain ⟨there, hthere⟩ :=
      (@exists_contributes_iff c' d (labels changed) name changed).mpr hprintable
    refine ⟨there, hthere, ?_⟩
    rw [survey_of_valid hvalid]
    apply surveyKinds_eq_join
    intro kind _
    by_cases hkind : kind = changed
    · subst hkind
      rwa [Function.update_self]
    · rw [Function.update_of_ne hkind, contributes_iff, ← contributes_iff.mp (hpart kind)]
      -- All queries for another kind are answered as before.
      apply surveyKind_congr
      intro query hquery
      rw [snd_of_mem_kindQueries hquery]
      exact hsame query.1 kind hkind

/-- **Failures stay with their kind, exactly if no query for the name finds a
record without printed form.**  A name that is not valid is refused before
anything is asked, and a survey hangs on the answers to its queries only. -/
theorem survey_isolates_iff (c : Client) (d : Decomposer) (labels : RecordKind → LabelSource)
    (name : Text) :
    (∀ e, Name.validate d.policy name = .error e →
      c.survey d labels name = .ok ⟨[], [.invalidName e]⟩ ∧
        c.surveyQueries d labels name = []) ∧
      (∀ c' : Client, (∀ query ∈ c.surveyQueries d labels name,
          c.query query.1 query.2 = c'.query query.1 query.2) →
        c'.survey d labels name = c.survey d labels name) ∧
      (Name.validate d.policy name = .ok () →
        ((∃ part, c.Isolates d labels name part) ↔
          ∀ kind, ¬ c.FindsUnprintable name kind)) := by
  refine ⟨?_, fun _ => survey_congr, ?_⟩
  · intro e hinvalid
    unfold survey surveyQueries
    rw [hinvalid]
    exact ⟨rfl, rfl⟩
  · intro hvalid
    constructor
    · intro hisolates kind
      obtain ⟨part, hpart⟩ := hisolates
      exact exists_contributes_iff.mp ⟨_, hpart.contributes kind⟩
    · intro hprintable
      -- Every kind contributes something, and together that is the survey.
      have hall : ∀ kind, ∃ s, c.Contributes d (labels kind) name kind s := by
        intro kind
        exact exists_contributes_iff.mpr (hprintable kind)
      choose part hpart using hall
      exact ⟨part, isolates_of_contributes hvalid hpart⟩

end Surveys

/-- A server for `example.com`: it has an address, its mail exchangers cannot be
asked for, and what is said of its certification authorities is left open. -/
def exampleServer (caa : Reply) : Client :=
  { source := fun name kind _ =>
      if name = "example.com".toList then
        match kind with
        | .a => .answer [.a 0xC0000201]
        | .mx => .timeout
        | .caa => caa
        | _ => .noRecords .noError
      else .noRecords .noSuchName }

/-- Nothing is asked about `-bad-.example.com`; without certification
authorities, the survey of `example.com` isolates its kinds. -/
theorem survey_isolates_example :
    let c := exampleServer (.noRecords .noError)
    let d : Decomposer := ⟨Fallback.list, {}⟩
    let labels : RecordKind → LabelSource := fun _ _ length => List.replicate length 'a'
    c.surveyQueries d labels "-bad-.example.com".toList = [] ∧
      ∃ part, c.Isolates d labels "example.com".toList part := by
  intro c d labels
  have hall : ∀ kind ∈ RecordKind.all,
      c.lookup "example.com".toList kind ≠ .error (.unprintable .caaValue) := by
    decide
  have hprintable : ∀ kind, ¬ c.FindsUnprintable "example.com".toList kind := by
    intro kind hunprintable
    exact hall kind (RecordKind.mem_all kind) (lookup_aborts_iff.mpr hunprintable)
  constructor
  · exact ((survey_isolates_iff c d labels _).1 ⟨"-bad-.example.com".toList, .hyphen⟩
      (by decide)).2
  · exact ((survey_isolates_iff c d labels _).2.2 (by decide)).mpr hprintable

/-- Two servers that differ in nothing but what they say of certification
authorities: from one, a survey has the address of the name and one failure;
from the other, it has nothing at all. -/
theorem not_isolates_unknown_caa :
    let c := exampleServer (.noRecords .noError)
    let c' := exampleServer (.answer [.caa false "unknown".toList (.raw [0xFF])])
    let d : Decomposer := ⟨Fallback.list, {}⟩
    let labels : RecordKind → LabelSource := fun _ _ length => List.replicate length 'a'
    let name := "example.com".toList
    (∀ other kind, kind ≠ .caa → c.query other kind = c'.query other kind) ∧
      c.survey d labels name = .ok ⟨[.a 0xC0000201], [.probe ⟨name, .mx, .timeout⟩]⟩ ∧
      c'.survey d labels name = .error .caaValue ∧
      ¬ ∃ part, c'.Isolates d labels name part := by
  intro c c' d labels name
  have haborts : c'.survey d labels name = .error .caaValue := by decide +kernel
  refine ⟨?_, by decide +kernel, haborts, ?_⟩
  · intro other kind hkind
    have hsource : c.source other kind = c'.source other kind := by
      funext i
      cases kind with
      | caa => exact absurd rfl hkind
      | _ => rfl
    unfold query attempt
    rw [hsource]
    rfl
  · intro hisolates
    obtain ⟨part, hpart⟩ := hisolates
    have hsurvey := hpart.survey_eq
    rw [haborts] at hsurvey
    cases hsurvey

end Client

end DomainScope
