/-
  DomainScope.Proofs.Resolver.Arranged
  ────────────────────────────────────
  **MAIL EXCHANGERS AND SERVICES IN ORDER.**

  The answer to a query may hold records of any kind, in any order and more than
  once.  A look-up of mail exchangers keeps those among them, in ascending
  preference, and a look-up of services keeps the services, in ascending
  priority and within one priority in descending weight.  None is lost or
  repeated, and those that the order does not tell apart stay as they stood.
  What is given is thereby determined (`Arranges.unique`).

  Main results
    `arranges_mergeSort`     sorting arranges
    `lookupMx_eq_ok_iff`     what a look-up of mail exchangers gives
    `lookupSrv_eq_ok_iff`    what a look-up of services gives
    `lookup_arranges_iff`    both, for every answer
-/
import DomainScope.Proofs.Resolver.Existence
import DomainScope.Proofs.Resolver.Unprintable
import DomainScope.Resolver.Typed

namespace DomainScope

/-! ## §1. Arranging. -/

/-- An order, and which values it does not tell apart. -/
structure Compares {α : Type} (precedes alike : α → α → Prop) : Prop where
  trans : ∀ x y z, precedes x y → precedes y z → precedes x z
  total : ∀ x y, precedes x y ∨ precedes y x
  alike_iff : ∀ x y, alike x y ↔ precedes x y ∧ precedes y x

/-- The same values in an order, where those that are alike keep their places
among each other. -/
structure Arranges {α : Type} (precedes alike : α → α → Prop) [DecidableRel alike]
    (values arranged : List α) : Prop where
  perm : arranged.Perm values
  ordered : arranged.Pairwise precedes
  stable : ∀ x, arranged.filter (alike x ·) = values.filter (alike x ·)

section Arranging

variable {α : Type} {precedes alike : α → α → Prop}

theorem Compares.refl (h : Compares precedes alike) (x : α) : precedes x x :=
  (h.total x x).elim id id

/-- The first value of a row in order precedes all of it. -/
theorem Compares.head_precedes (h : Compares precedes alike) {x y : α} {xs : List α}
    (hxs : (x :: xs).Pairwise precedes) (hmem : y ∈ x :: xs) : precedes x y := by
  rcases List.mem_cons.mp hmem with heq | hmem
  · rw [heq]
    exact h.refl x
  · exact List.rel_of_pairwise_cons hxs hmem

variable [DecidableRel alike]

/-- Two rows in order begin with one value, if they hold the same values and
those that are alike in one order. -/
theorem Compares.head_eq (h : Compares precedes alike) {x y : α} {xs ys : List α}
    (hperm : (x :: xs).Perm (y :: ys)) (hxs : (x :: xs).Pairwise precedes)
    (hys : (y :: ys).Pairwise precedes)
    (hstable : ∀ z, (x :: xs).filter (alike z ·) = (y :: ys).filter (alike z ·)) : x = y := by
  have hforth : precedes x y := h.head_precedes hxs (hperm.mem_iff.mpr List.mem_cons_self)
  have hback : precedes y x := h.head_precedes hys (hperm.mem_iff.mp List.mem_cons_self)
  have hself : alike x x := (h.alike_iff x x).mpr ⟨h.refl x, h.refl x⟩
  have hother : alike x y := (h.alike_iff x y).mpr ⟨hforth, hback⟩
  have hfilter := hstable x
  rw [List.filter_cons, List.filter_cons, decide_eq_true hself, decide_eq_true hother, if_pos rfl,
    if_pos rfl] at hfilter
  exact (List.cons.inj hfilter).1

/-- **The order leaves one arrangement only.**  The induction takes the first
value off both. -/
theorem Arranges.unique (h : Compares precedes alike) {values xs ys : List α}
    (hxs : Arranges precedes alike values xs) (hys : Arranges precedes alike values ys) :
    xs = ys := by
  induction xs generalizing values ys with
  | nil =>
    have hnil : values = [] := hxs.perm.symm.eq_nil
    rw [hnil] at hys
    exact hys.perm.eq_nil.symm
  | cons x xs ih =>
    have hperm := hxs.perm.trans hys.perm.symm
    have hstable := fun z => (hxs.stable z).trans (hys.stable z).symm
    cases ys with
    | nil => exact absurd hperm.eq_nil (List.cons_ne_nil x xs)
    | cons y ys =>
      have hhead : x = y := h.head_eq hperm hxs.ordered hys.ordered hstable
      subst hhead
      have htail : ∀ z, ys.filter (alike z ·) = xs.filter (alike z ·) := by
        intro z
        have hz := hstable z
        rw [List.filter_cons, List.filter_cons] at hz
        split at hz
        · exact (List.cons.inj hz).2.symm
        · exact hz.symm
      -- What is left of the first row is arranged as it stands.
      have hrest : xs = ys := ih ⟨.refl xs, hxs.ordered.tail, fun _ => rfl⟩
        ⟨hperm.cons_inv.symm, hys.ordered.tail, htail⟩
      rw [hrest]

/-- **Sorting arranges.** -/
theorem arranges_mergeSort (h : Compares precedes alike) {le : α → α → Bool}
    (hle : ∀ x y, le x y = true ↔ precedes x y) (values : List α) :
    Arranges precedes alike values (values.mergeSort le) := by
  have htrans : ∀ x y z, le x y = true → le y z = true → le x z = true := by
    intro x y z hxy hyz
    exact (hle x z).mpr (h.trans x y z ((hle x y).mp hxy) ((hle y z).mp hyz))
  have htotal : ∀ x y, (le x y || le y x) = true := by
    intro x y
    rw [Bool.or_eq_true, hle, hle]
    exact h.total x y
  have hperm := List.mergeSort_perm values le
  refine ⟨hperm, (List.pairwise_mergeSort htrans htotal values).imp (hle _ _).mp, ?_⟩
  intro x
  -- What is alike is in order as it stands, so sorting keeps it as a part.
  have hordered : (values.filter (alike x ·)).Pairwise (le · ·) := by
    refine List.pairwise_of_forall_mem_list ?_
    intro y hy z hz
    have hxy := (h.alike_iff x y).mp (of_decide_eq_true (List.mem_filter.mp hy).2)
    have hxz := (h.alike_iff x z).mp (of_decide_eq_true (List.mem_filter.mp hz).2)
    exact (hle y z).mpr (h.trans y x z hxy.2 hxz.1)
  have hpart := (List.sublist_mergeSort htrans htotal hordered List.filter_sublist).filter (alike x ·)
  rw [List.filter_filter] at hpart
  simp only [Bool.and_self] at hpart
  exact (hpart.eq_of_length (hperm.filter _).length_eq.symm).symm

end Arranging

/-! ## §2. The records of an answer. -/

/-- The mail exchanger in the data of an MX record. -/
def RecordData.mx? : RecordData → Option Mx
  | .mx preference exchange => some ⟨preference, exchange.print⟩
  | _ => none

/-- The service in the data of an SRV record. -/
def RecordData.srv? : RecordData → Option Srv
  | .srv priority weight port target => some ⟨priority, weight, port, target.print⟩
  | _ => none

namespace Record

/-- What is picked from the values is what is picked from the data, if this
holds for each. -/
theorem filterMap_ofAnswers {β : Type} {pick : Record → Option β} {pickData : RecordData → Option β}
    (hpick : ∀ data value, ofData data = .ok value → value.bind pick = pickData data)
    {records : List RecordData} {values : List Record} (h : ofAnswers records = .ok values) :
    values.filterMap pick = records.filterMap pickData := by
  induction records generalizing values with
  | nil =>
    cases h
    rfl
  | cons data rest ih =>
    obtain ⟨value, hdata, hlater⟩ := exists_of_bind_eq_ok h
    obtain ⟨later, hrest, hvalues⟩ := exists_of_bind_eq_ok hlater
    cases hvalues
    rw [List.filterMap_append, ih hrest, List.filterMap_cons, ← hpick data value hdata]
    cases value with
    | none => rfl
    | some record => cases hrecord : pick record <;> simp [hrecord]

/-- The mail exchanger and the service of a value are those of its data. -/
theorem picked_ofData {data : RecordData} {value : Option Record} (h : ofData data = .ok value) :
    value.bind mx? = data.mx? ∧ value.bind srv? = data.srv? := by
  cases data with
  | caa isCritical tag caaValue =>
    obtain ⟨printed, -, hvalue⟩ := exists_of_bind_eq_ok h
    cases hvalue
    exact ⟨rfl, rfl⟩
  | unknown code bytes =>
    simp only [ofData] at h
    split at h
    · cases h
      cases NameLibrary.standard.read? bytes <;> exact ⟨rfl, rfl⟩
    · cases h
      exact ⟨rfl, rfl⟩
  | _ =>
    cases h
    exact ⟨rfl, rfl⟩

theorem kind_of_mx? {record : Record} {value : Mx} (h : record.mx? = some value) :
    record.kind = .mx := by
  cases record <;> first | rfl | cases h

theorem kind_of_srv? {record : Record} {value : Srv} (h : record.srv? = some value) :
    record.kind = .srv := by
  cases record <;> first | rfl | cases h

/-- What is picked from values of one kind only needs no others taken out. -/
theorem filterMap_filter_kind {β : Type} {pick : Record → Option β} {kind : RecordKind}
    (hkind : ∀ record value, pick record = some value → record.kind = kind)
    (records : List Record) :
    (records.filter (·.kind = kind)).filterMap pick = records.filterMap pick := by
  rw [List.filterMap_filter]
  refine List.filterMap_congr ?_
  intro record _
  by_cases h : record.kind = kind
  · rw [if_pos (by simpa using h)]
  · rw [if_neg (by simpa using h)]
    cases hpick : pick record with
    | none => rfl
    | some value => exact absurd (hkind record value hpick) h

end Record

/-! ## §3. Look-ups. -/

namespace Client

open Record

variable {c : Client} {name : Text} {records : List RecordData}

/-- A look-up of one kind gives what is arranged of the data of this kind,
unless a record of its answer has no printed form. -/
theorem arranged_lookup_eq_ok_iff {β : Type} {kind : RecordKind} {pick : Record → Option β}
    {pickData : RecordData → Option β} {arrange : List β → List β} {values : List β}
    (hpick : ∀ data value, ofData data = .ok value → value.bind pick = pickData data)
    (hkind : ∀ record value, pick record = some value → record.kind = kind)
    (hquery : c.query name kind = .ok (some records)) :
    (c.lookup name kind >>= fun found => pure (arrange (found.filterMap pick))) = .ok values ↔
      (∀ data ∈ records, ¬ IsUnprintable data) ∧
        values = arrange (records.filterMap pickData) := by
  cases hall : ofAnswers records with
  | error e =>
    have hdata := ofAnswers_eq_error_iff.mp hall
    have hlookup : c.lookup name kind = .error (.unprintable e) :=
      lookup_aborts_iff.mpr ⟨records, hquery, hdata⟩
    rw [hlookup]
    refine iff_of_false nofun ?_
    intro hyp
    obtain ⟨data, hmem, hunprintable⟩ := hdata
    exact hyp.1 data hmem hunprintable
  | ok all =>
    have hlookup : c.lookup name kind = .ok (all.filter (·.kind = kind)) :=
      lookup_eq_ok_iff.mpr (.inr ⟨records, all, hquery, hall, rfl⟩)
    rw [hlookup, and_iff_right (not_isUnprintable_of_ofAnswers hall)]
    show Except.ok (arrange ((all.filter (·.kind = kind)).filterMap pick)) = Except.ok values ↔ _
    rw [filterMap_filter_kind hkind, filterMap_ofAnswers hpick hall, Except.ok.injEq, eq_comm]

end Client

/-! ## §4. The two orders. -/

namespace Mx

/-- Ascending preference. -/
def Precedes (x y : Mx) : Prop := x.preference ≤ y.preference

/-- Equal preference. -/
def Alike (x y : Mx) : Prop := x.preference = y.preference

instance : DecidableRel Alike := fun x y => inferInstanceAs (Decidable (x.preference = y.preference))

instance : DecidableRel Precedes := fun x y =>
  inferInstanceAs (Decidable (x.preference ≤ y.preference))

theorem compares : Compares Precedes Alike where
  trans _ _ _ := UInt16.le_trans
  total x y := UInt16.le_total x.preference y.preference
  alike_iff x y := by
    unfold Alike Precedes
    rw [← UInt16.toNat_inj, UInt16.le_iff_toNat_le, UInt16.le_iff_toNat_le]
    omega

end Mx

namespace Srv

/-- Ascending priority, and within one priority descending weight. -/
def Precedes (x y : Srv) : Prop :=
  x.priority < y.priority ∨ x.priority = y.priority ∧ y.weight ≤ x.weight

/-- Equal priority and equal weight. -/
def Alike (x y : Srv) : Prop := x.priority = y.priority ∧ x.weight = y.weight

instance : DecidableRel Alike := fun x y =>
  inferInstanceAs (Decidable (x.priority = y.priority ∧ x.weight = y.weight))

theorem precedes_iff_toNat {x y : Srv} :
    Precedes x y ↔ x.priority.toNat < y.priority.toNat ∨
      x.priority.toNat = y.priority.toNat ∧ y.weight.toNat ≤ x.weight.toNat := by
  unfold Precedes
  rw [UInt16.lt_iff_toNat_lt, UInt16.le_iff_toNat_le, UInt16.toNat_inj]

theorem compares : Compares Precedes Alike where
  trans x y z := by
    rw [precedes_iff_toNat, precedes_iff_toNat, precedes_iff_toNat]
    omega
  total x y := by
    rw [precedes_iff_toNat, precedes_iff_toNat]
    omega
  alike_iff x y := by
    unfold Alike
    rw [precedes_iff_toNat, precedes_iff_toNat, ← UInt16.toNat_inj, ← UInt16.toNat_inj]
    omega

theorem precedes_eq_true_iff (x y : Srv) : x.precedes y = true ↔ Precedes x y := by
  unfold precedes Precedes
  simp

end Srv

theorem arranges_sortedMx (values : List Mx) :
    Arranges Mx.Precedes Mx.Alike values (sortedMx values) :=
  arranges_mergeSort Mx.compares (fun _ _ => decide_eq_true_iff) values

theorem arranges_sortedSrv (values : List Srv) :
    Arranges Srv.Precedes Srv.Alike values (sortedSrv values) :=
  arranges_mergeSort Srv.compares Srv.precedes_eq_true_iff values

/-! ## §5. What is given. -/

namespace Client

open Record

variable {c : Client} {name : Text} {records : List RecordData}

/-- **What a look-up of mail exchangers gives**: those in the answer, arranged. -/
theorem lookupMx_eq_ok_iff {values : List Mx} (h : c.query name .mx = .ok (some records)) :
    c.lookupMx name = .ok values ↔
      (∀ data ∈ records, ¬ IsUnprintable data) ∧
        Arranges Mx.Precedes Mx.Alike (records.filterMap RecordData.mx?) values := by
  refine (arranged_lookup_eq_ok_iff (fun _ _ hdata => (picked_ofData hdata).1)
    (fun _ _ => kind_of_mx?) h).trans (and_congr_right fun _ => ?_)
  constructor
  · intro hvalues
    rw [hvalues]
    exact arranges_sortedMx _
  · intro harranges
    exact harranges.unique Mx.compares (arranges_sortedMx _)

/-- **What a look-up of services gives**: those in the answer, arranged. -/
theorem lookupSrv_eq_ok_iff {values : List Srv} (h : c.query name .srv = .ok (some records)) :
    c.lookupSrv name = .ok values ↔
      (∀ data ∈ records, ¬ IsUnprintable data) ∧
        Arranges Srv.Precedes Srv.Alike (records.filterMap RecordData.srv?) values := by
  refine (arranged_lookup_eq_ok_iff (fun _ _ hdata => (picked_ofData hdata).2)
    (fun _ _ => kind_of_srv?) h).trans (and_congr_right fun _ => ?_)
  constructor
  · intro hvalues
    rw [hvalues]
    exact arranges_sortedSrv _
  · intro harranges
    exact harranges.unique Srv.compares (arranges_sortedSrv _)

/-- **A look-up gives the mail exchangers and one the services of its answer,
arranged**, whatever records the answer holds, exactly if each of them has a
printed form; where no record was found, it gives none. -/
theorem lookup_arranges_iff (c : Client) (name : Text) (records : List RecordData) :
    (c.query name .mx = .ok (some records) →
      ((∃ values, c.lookupMx name = .ok values) ↔ ∀ data ∈ records, ¬ IsUnprintable data) ∧
      ∀ values, c.lookupMx name = .ok values →
        Arranges Mx.Precedes Mx.Alike (records.filterMap RecordData.mx?) values) ∧
    (c.query name .srv = .ok (some records) →
      ((∃ values, c.lookupSrv name = .ok values) ↔ ∀ data ∈ records, ¬ IsUnprintable data) ∧
      ∀ values, c.lookupSrv name = .ok values →
        Arranges Srv.Precedes Srv.Alike (records.filterMap RecordData.srv?) values) ∧
    (c.query name .mx = .ok none → c.lookupMx name = .ok []) ∧
    (c.query name .srv = .ok none → c.lookupSrv name = .ok []) := by
  refine ⟨fun hquery => ⟨?_, ?_⟩, fun hquery => ⟨?_, ?_⟩, fun hnone => ?_, fun hnone => ?_⟩
  · constructor
    · intro hvalues
      obtain ⟨values, hvalues⟩ := hvalues
      exact ((lookupMx_eq_ok_iff hquery).mp hvalues).1
    · intro hprint
      exact ⟨_, (lookupMx_eq_ok_iff hquery).mpr ⟨hprint, arranges_sortedMx _⟩⟩
  · intro values hvalues
    exact ((lookupMx_eq_ok_iff hquery).mp hvalues).2
  · constructor
    · intro hvalues
      obtain ⟨values, hvalues⟩ := hvalues
      exact ((lookupSrv_eq_ok_iff hquery).mp hvalues).1
    · intro hprint
      exact ⟨_, (lookupSrv_eq_ok_iff hquery).mpr ⟨hprint, arranges_sortedSrv _⟩⟩
  · intro values hvalues
    exact ((lookupSrv_eq_ok_iff hquery).mp hvalues).2
  · have hlookup : c.lookup name .mx = .ok [] := lookup_eq_ok_iff.mpr (.inl ⟨hnone, rfl⟩)
    unfold lookupMx
    rw [hlookup]
    exact congrArg Except.ok (arranges_sortedMx []).perm.eq_nil
  · have hlookup : c.lookup name .srv = .ok [] := lookup_eq_ok_iff.mpr (.inl ⟨hnone, rfl⟩)
    unfold lookupSrv
    rw [hlookup]
    exact congrArg Except.ok (arranges_sortedSrv []).perm.eq_nil

/-- Three services behind an alias, two of one priority, and one of them twice. -/
theorem lookup_arranges_sip :
    let target := WireName.ofText "sip.example.com.".toList
    let records : List RecordData :=
      [.cname target, .srv 20 5 5060 target, .srv 10 1 5060 target, .srv 10 60 5060 target,
        .srv 10 60 5061 target, .srv 10 60 5060 target]
    let c : Client := { source := fun _ _ _ => .answer records }
    let t := "sip.example.com.".toList
    c.query "_sip._tcp.example.com".toList .srv = .ok (some records) ∧
      c.lookupSrv "_sip._tcp.example.com".toList = .ok [⟨10, 60, 5060, t⟩, ⟨10, 60, 5061, t⟩,
        ⟨10, 60, 5060, t⟩, ⟨10, 1, 5060, t⟩, ⟨20, 5, 5060, t⟩] := by
  intro target records c t
  have hquery : c.query "_sip._tcp.example.com".toList .srv = .ok (some records) := rfl
  obtain ⟨hexists, harranges⟩ := (lookup_arranges_iff c _ records).2.1 hquery
  obtain ⟨values, hvalues⟩ := hexists.mpr (by
    intro data hmem hdata
    cases hdata
    simp [records] at hmem)
  have hunique := (harranges values hvalues).unique Srv.compares (arranges_sortedSrv _)
  have hpicked : records.filterMap RecordData.srv? = [⟨20, 5, 5060, t⟩, ⟨10, 1, 5060, t⟩,
      ⟨10, 60, 5060, t⟩, ⟨10, 60, 5061, t⟩, ⟨10, 60, 5060, t⟩] := by decide
  rw [hpicked] at hunique
  refine ⟨hquery, ?_⟩
  rw [hvalues, hunique]
  simp [sortedSrv, List.mergeSort, Srv.precedes]

/-- Behind a mail exchanger and a service, a CAA property of an unknown tag whose
value is the byte `FF`: the answer holds both, and neither look-up gives them. -/
theorem lookup_arranges_nothing_unknown_caa :
    let target := WireName.ofText "host.example.com.".toList
    let records : List RecordData :=
      [.mx 10 target, .srv 10 1 5060 target, .caa false "unknown".toList (.raw [0xFF])]
    let c : Client := { source := fun _ _ _ => .answer records }
    let name := "example.com".toList
    c.query name .mx = .ok (some records) ∧ c.query name .srv = .ok (some records) ∧
      c.lookupMx name = .error (.unprintable .caaValue) ∧
      c.lookupSrv name = .error (.unprintable .caaValue) ∧
      (¬ ∃ values, c.lookupMx name = .ok values ∧
        Arranges Mx.Precedes Mx.Alike (records.filterMap RecordData.mx?) values) ∧
      ¬ ∃ values, c.lookupSrv name = .ok values ∧
        Arranges Srv.Precedes Srv.Alike (records.filterMap RecordData.srv?) values := by
  intro target records c name
  have hmx : c.lookupMx name = .error (.unprintable .caaValue) := by decide
  have hsrv : c.lookupSrv name = .error (.unprintable .caaValue) := by decide
  refine ⟨rfl, rfl, hmx, hsrv, ?_, ?_⟩
  · rw [hmx]
    simp
  · rw [hsrv]
    simp

end Client

end DomainScope
