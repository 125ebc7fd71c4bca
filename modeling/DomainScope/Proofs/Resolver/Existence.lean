/-
  DomainScope.Proofs.Resolver.Existence
  ─────────────────────────────────────
  **EXISTENCE AND LOOK-UP.**

  Two questions are answered from the records of one query: which values of a
  kind a name has, and whether it has any.  A look-up passes over records that
  are of another kind or have no value, such as the aliases followed on the way,
  while for existence every record counts.  So the two agree on an answer
  without records, and on one in which a record of the kind asked for has a
  value and none is without printed form.

  Main results
    `map_kind_ofAnswers`      the kinds of the values are those of the data
    `lookup_eq_ok_iff`        what a look-up gives
    `agrees_iff_conclusive`   on which answers existence and look-up agree
-/
import DomainScope.Proofs.Record.Value
import DomainScope.Resolver.Client

namespace DomainScope

/-! ## §1. The kinds of values. -/

/-- The kind of the value that record data has.  Kinds that are not asked for
have no values, and neither has DNAME data that is no name. -/
def RecordData.kind? : RecordData → Option RecordKind
  | .a _ => some .a
  | .aaaa _ => some .aaaa
  | .mx _ _ => some .mx
  | .ns _ => some .ns
  | .txt _ => some .txt
  | .caa _ _ _ => some .caa
  | .srv _ _ _ _ => some .srv
  | .soa _ _ _ _ _ _ _ => some .soa
  | .cname _ => some .cname
  | .ptr _ => none
  | .unknown code bytes =>
    if code = RecordKind.dname.code then (WireName.ofWire? bytes).map fun _ => .dname else none

namespace Record

/-- Both parts of a chain that gives a result give one. -/
theorem exists_of_bind_eq_ok {α β : Type} {x : Except Unprintable α}
    {f : α → Except Unprintable β} {b : β} (h : (x >>= f) = .ok b) :
    ∃ a, x = .ok a ∧ f a = .ok b := by
  cases x with
  | error e => cases h
  | ok a => exact ⟨a, rfl, h⟩

theorem map_kind_ofData {data : RecordData} {value : Option Record} (h : ofData data = .ok value) :
    value.map Record.kind = data.kind? := by
  cases data with
  | caa isCritical tag caaValue =>
    obtain ⟨printed, -, hvalue⟩ := exists_of_bind_eq_ok h
    cases hvalue
    rfl
  | unknown code bytes =>
    simp only [ofData] at h
    simp only [RecordData.kind?]
    by_cases hcode : code = RecordKind.dname.code
    · rw [if_pos hcode] at h ⊢
      cases h
      exact Option.map_map _ _ _
    · rw [if_neg hcode] at h ⊢
      cases h
      rfl
  | _ =>
    cases h
    rfl

/-- Records that have values all have a printed form. -/
theorem not_isUnprintable_of_ofAnswers {records : List RecordData} {values : List Record}
    (h : ofAnswers records = .ok values) : ∀ data ∈ records, ¬ IsUnprintable data := by
  intro data hmem hdata
  have herror := (@ofAnswers_eq_error_iff .standard records .caaValue).mpr ⟨data, hmem, hdata⟩
  rw [h] at herror
  cases herror

/-- **The kinds of the values are those of the data that has a value**, in
order. -/
theorem map_kind_ofAnswers {records : List RecordData} {values : List Record}
    (h : ofAnswers records = .ok values) :
    values.map Record.kind = records.filterMap RecordData.kind? := by
  induction records generalizing values with
  | nil =>
    cases h
    rfl
  | cons data rest ih =>
    obtain ⟨value, hdata, hlater⟩ := exists_of_bind_eq_ok h
    obtain ⟨later, hrest, hvalues⟩ := exists_of_bind_eq_ok hlater
    cases hvalues
    rw [List.map_append, ih hrest, List.filterMap_cons, ← map_kind_ofData hdata]
    cases value <;> rfl

end Record

/-! ## §2. What a look-up gives. -/

namespace Client

open Record

variable {c : Client} {name : Text} {kind : RecordKind} {records : List RecordData}

/-- **What a look-up gives**: nothing where no record was found, and else the
values of the kind asked for. -/
theorem lookup_eq_ok_iff {values : List Record} :
    c.lookup name kind = .ok values ↔
      c.query name kind = .ok none ∧ values = [] ∨
      ∃ records all, c.query name kind = .ok (some records) ∧ ofAnswers records = .ok all ∧
        values = all.filter (·.kind = kind) := by
  unfold lookup
  cases c.query name kind with
  | error e => exact iff_of_false nofun (by simp)
  | ok found =>
    cases found with
    | none => simp [eq_comm]
    | some records =>
      show (valuesOfKind kind records).mapError LookupError.unprintable = _ ↔ _
      unfold valuesOfKind
      cases hall : ofAnswers records with
      | error e => exact iff_of_false nofun (by simp [hall])
      | ok all =>
        show Except.ok (all.filter (·.kind = kind)) = _ ↔ _
        simp [hall, eq_comm]

/-- A look-up of a kind has values of that kind only. -/
theorem kind_of_mem_lookup {values : List Record} {record : Record}
    (h : c.lookup name kind = .ok values) (hmem : record ∈ values) : record.kind = kind := by
  rcases lookup_eq_ok_iff.mp h with ⟨-, rfl⟩ | ⟨records, all, -, -, rfl⟩
  · exact absurd hmem List.not_mem_nil
  · exact of_decide_eq_true (List.mem_filter.mp hmem).2

/-- There is a value of a kind if there is data of it. -/
theorem filter_kind_ne_nil_iff {values : List Record} (h : ofAnswers records = .ok values) :
    values.filter (·.kind = kind) ≠ [] ↔ ∃ data ∈ records, data.kind? = some kind := by
  rw [← List.mem_filterMap, ← map_kind_ofAnswers h, List.mem_map, ne_eq, List.filter_eq_nil_iff]
  simp

/-! ## §3. Answers that say the same in both ways. -/

/-- The records of an answer say the same of existence and in a look-up: if
there are any, one of them has a value of the kind asked for, and none is
without printed form. -/
def IsConclusive (kind : RecordKind) (records : List RecordData) : Prop :=
  records ≠ [] →
    (∃ data ∈ records, data.kind? = some kind) ∧ ∀ data ∈ records, ¬ IsUnprintable data

/-- Existence and look-up agree: a name is found if it has values, it is not
found if it has none, and both fail with one error. -/
structure Agrees (c : Client) (name : Text) (kind : RecordKind) : Prop where
  found : c.isFound name kind = .ok true ↔
    ∃ values, c.lookup name kind = .ok values ∧ values ≠ []
  absent : c.isFound name kind = .ok false ↔ c.lookup name kind = .ok []
  failed : ∀ e, c.isFound name kind = .error e ↔ c.lookup name kind = .error (.query e)

/-! ## §4. One query, two readings. -/

/-- Existence and look-up fail together, with the failure of the query. -/
theorem isFound_eq_error_iff {e : QueryError} :
    c.isFound name kind = .error e ↔ c.lookup name kind = .error (.query e) := by
  unfold isFound lookup
  cases c.query name kind with
  | error fault => simp
  | ok found =>
    cases found with
    | none => exact iff_of_false nofun nofun
    | some records =>
      refine iff_of_false nofun ?_
      show ¬ (valuesOfKind kind records).mapError LookupError.unprintable = _
      cases valuesOfKind kind records with
      | ok values => exact nofun
      | error e' => simp [Except.mapError]

theorem isFound_eq_true_iff :
    c.isFound name kind = .ok true ↔
      ∃ records, c.query name kind = .ok (some records) ∧ records ≠ [] := by
  unfold isFound
  cases c.query name kind with
  | error fault => exact iff_of_false nofun (by simp)
  | ok found =>
    cases found with
    | none => exact iff_of_false nofun (by simp)
    | some records => simp

/-- What is not found has no values. -/
theorem lookup_of_isFound_eq_false (h : c.isFound name kind = .ok false) :
    c.lookup name kind = .ok [] := by
  unfold isFound at h
  unfold lookup
  cases hquery : c.query name kind with
  | error fault =>
    rw [hquery] at h
    cases h
  | ok found =>
    cases found with
    | none => rfl
    | some records =>
      simp only [hquery, Except.ok.injEq, Bool.not_eq_false', List.isEmpty_iff] at h
      subst h
      rfl

/-- An answer has values of the kind asked for if a record of that kind has one
and none is without printed form. -/
theorem lookup_of_answer (h : c.query name kind = .ok (some records)) :
    (∃ values, c.lookup name kind = .ok values ∧ values ≠ []) ↔
      (∃ data ∈ records, data.kind? = some kind) ∧ ∀ data ∈ records, ¬ IsUnprintable data := by
  constructor
  · intro hexists
    obtain ⟨values, hlookup, hne⟩ := hexists
    rcases lookup_eq_ok_iff.mp hlookup with ⟨-, rfl⟩ | ⟨found, all, hquery, hall, rfl⟩
    · exact absurd rfl hne
    · rw [h] at hquery
      cases hquery
      exact ⟨(filter_kind_ne_nil_iff hall).mp hne, not_isUnprintable_of_ofAnswers hall⟩
  · intro hrecords
    obtain ⟨hkind, hprintable⟩ := hrecords
    cases hall : ofAnswers records with
    | error e =>
      obtain ⟨data, hmem, hdata⟩ := ofAnswers_eq_error_iff.mp hall
      exact absurd hdata (hprintable data hmem)
    | ok all =>
      exact ⟨_, lookup_eq_ok_iff.mpr (.inr ⟨records, all, h, hall, rfl⟩),
        (filter_kind_ne_nil_iff hall).mpr hkind⟩

/-- **What has values is found**, as the answer with the values has records. -/
theorem isFound_of_lookup {values : List Record} (h : c.lookup name kind = .ok values)
    (hne : values ≠ []) : c.isFound name kind = .ok true := by
  cases hfound : c.isFound name kind with
  | error e =>
    rw [isFound_eq_error_iff.mp hfound] at h
    cases h
  | ok isThere =>
    cases isThere with
    | true => rfl
    | false =>
      rw [lookup_of_isFound_eq_false hfound] at h
      cases h
      exact absurd rfl hne

/-! ## §5. When they agree. -/

/-- Nothing can be disagreed on but what is found. -/
theorem agrees_iff_of_found :
    c.Agrees name kind ↔ (c.isFound name kind = .ok true →
      ∃ values, c.lookup name kind = .ok values ∧ values ≠ []) := by
  constructor
  · intro hagrees
    exact hagrees.found.mp
  · intro hfound
    refine ⟨⟨hfound, fun hvalues => ?_⟩, ⟨lookup_of_isFound_eq_false, fun hnone => ?_⟩,
      fun _ => isFound_eq_error_iff⟩
    · obtain ⟨values, hlookup, hne⟩ := hvalues
      exact isFound_of_lookup hlookup hne
    · cases his : c.isFound name kind with
      | error e =>
        rw [isFound_eq_error_iff.mp his] at hnone
        cases hnone
      | ok isThere =>
        cases isThere with
        | false => rfl
        | true =>
          obtain ⟨values, hlookup, hne⟩ := hfound his
          rw [hnone] at hlookup
          cases hlookup
          exact absurd rfl hne

theorem not_agrees (hfound : c.isFound name kind = .ok true)
    (hlookup : c.lookup name kind = .ok []) : ¬ c.Agrees name kind := by
  intro hagrees
  rw [hagrees.absent.mpr hlookup] at hfound
  cases hfound

/-- **Existence and look-up agree on a query exactly if its answer is
conclusive.**  Whatever the answer, they fail together, what has values is
found, and what is not found has no values. -/
theorem agrees_iff_conclusive (c : Client) (name : Text) (kind : RecordKind) :
    (∀ e, c.isFound name kind = .error e ↔ c.lookup name kind = .error (.query e)) ∧
      (∀ values, c.lookup name kind = .ok values → values ≠ [] →
        c.isFound name kind = .ok true) ∧
      (c.isFound name kind = .ok false → c.lookup name kind = .ok []) ∧
      (c.Agrees name kind ↔
        ∀ records, c.query name kind = .ok (some records) → IsConclusive kind records) := by
  refine ⟨fun _ => isFound_eq_error_iff, fun _ => isFound_of_lookup,
    lookup_of_isFound_eq_false, ?_⟩
  rw [agrees_iff_of_found]
  constructor
  · intro hfound records hquery hne
    exact (lookup_of_answer hquery).mp (hfound (isFound_eq_true_iff.mpr ⟨records, hquery, hne⟩))
  · intro hall hfound
    obtain ⟨records, hquery, hne⟩ := isFound_eq_true_iff.mp hfound
    exact (lookup_of_answer hquery).mpr (hall records hquery hne)

/-- An address behind an alias is found and looked up alike. -/
theorem agrees_aliased_address :
    let c : Client :=
      { source := fun _ _ _ => .answer [.cname (.ofText "host.example.com.".toList), .a 0xC0000201] }
    c.isFound "www.example.com".toList .a = .ok true ∧ c.Agrees "www.example.com".toList .a := by
  intro c
  have hquery : c.query "www.example.com".toList .a
      = .ok (some [.cname (.ofText "host.example.com.".toList), .a 0xC0000201]) := rfl
  have hlookup : c.lookup "www.example.com".toList .a = .ok [.a 0xC0000201] := by decide
  obtain ⟨-, hfound, -, hagrees⟩ := agrees_iff_conclusive c "www.example.com".toList .a
  refine ⟨hfound _ hlookup (List.cons_ne_nil _ _), hagrees.mpr ?_⟩
  intro records hrecords
  rw [hquery] at hrecords
  cases hrecords
  intro _
  refine ⟨⟨.a 0xC0000201, by simp, rfl⟩, ?_⟩
  intro data hmem hunprintable
  cases hunprintable with
  | caa h => simp at hmem

/-- DNAME data whose label is cut short, and an alias in front of no address,
are found, and have no values: existence and look-up do not agree on them. -/
theorem not_agrees_malformed_dname :
    let malformed : Client := { source := fun _ _ _ => .answer [.unknown 39 [7, 0x65, 0x78, 0x61]] }
    let aliased : Client :=
      { source := fun _ _ _ => .answer [.cname (.ofText "gone.example.com.".toList)] }
    (malformed.isFound "bad.example.com".toList .dname = .ok true ∧
      malformed.lookup "bad.example.com".toList .dname = .ok [] ∧
      ¬ malformed.Agrees "bad.example.com".toList .dname) ∧
    (aliased.isFound "www.example.com".toList .a = .ok true ∧
      aliased.lookup "www.example.com".toList .a = .ok [] ∧
      ¬ aliased.Agrees "www.example.com".toList .a) := by
  intro malformed aliased
  have hmalformed : malformed.lookup "bad.example.com".toList .dname = .ok [] := by decide
  have haliased : aliased.lookup "www.example.com".toList .a = .ok [] := by decide
  exact ⟨⟨rfl, hmalformed, not_agrees rfl hmalformed⟩, rfl, haliased, not_agrees rfl haliased⟩

end Client

end DomainScope
