/-
  DomainScope.Proofs.Record.WireName
  ──────────────────────────────────
  **NAMES ON THE WIRE.**

  On the wire each label stands behind its length, and a zero closes the name.
  So a name shows where it ends: some bytes begin with one name at most, and
  the reader finds it.  The reader does not look at what follows the closing
  zero, and that it finds such a name is all that is assumed of the library
  that reads names.  DNAME data should be one name and nothing else; it has a
  value as soon as it begins with a name, so data with bytes behind the name is
  not passed over.

  Main results
    `readLabels?_wire_append`   the reader gives back the labels that were written
    `ofWire?_eq_some_iff`       it finds the name that some bytes begin with
    `IsWireForm.unique`         there is one such name at most
    `standard_readsNames`       so the reader does what is assumed of a library
    `dname_read_alone_iff`      which DNAME data is treated as one name or none
-/
import DomainScope.Record.Value
import Mathlib.Data.List.Basic

namespace DomainScope

namespace WireName

/-! ## §1. The form on the wire. -/

/-- A label behind its length. -/
def wireLabel (label : List UInt8) : List UInt8 := UInt8.ofNat label.length :: label

/-- The labels of a name, one behind the other, and the zero that closes it. -/
def wire (labels : List (List UInt8)) : List UInt8 := labels.flatMap wireLabel ++ [0]

/-- A label that can be written: 1 to 63 bytes. -/
def IsWireLabel (label : List UInt8) : Prop := 1 ≤ label.length ∧ label.length ≤ maxLabelLength

/-- Some bytes are, from the first to the last, the name with these labels. -/
structure IsWireForm (labels : List (List UInt8)) (bytes : List UInt8) : Prop where
  written : bytes = wire labels
  areLabels : ∀ label ∈ labels, IsWireLabel label
  length_le : bytes.length ≤ 255

@[simp] theorem wire_nil : wire [] = [0] := rfl

theorem wire_cons (label : List UInt8) (labels : List (List UInt8)) :
    wire (label :: labels) = UInt8.ofNat label.length :: (label ++ wire labels) := by
  simp [wire, wireLabel]

/-- The closing zero is the one byte more that is not counted for the labels. -/
theorem length_wire (labels : List (List UInt8)) : (wire labels).length = length labels + 1 := by
  induction labels with
  | nil => rfl
  | cons label labels ih =>
    rw [wire_cons, List.length_cons, List.length_append, ih]
    show label.length + (length labels + 1) + 1 = label.length + 1 + length labels + 1
    omega

/-! ## §2. Reading labels. -/

/-- The length in front of a label is read as it was written. -/
theorem IsWireLabel.toNat_length {label : List UInt8} (h : IsWireLabel label) :
    (UInt8.ofNat label.length).toNat = label.length := by
  have hle : label.length ≤ 63 := h.2
  rw [UInt8.toNat_ofNat', Nat.mod_eq_of_lt (by omega)]

/-- One step of the reader over a label. -/
theorem readLabels?_cons {label : List UInt8} (h : IsWireLabel label) (fuel : Nat)
    (rest : List UInt8) :
    readLabels? (fuel + 1) (UInt8.ofNat label.length :: (label ++ rest))
      = (readLabels? fuel rest).map (label :: ·) := by
  have hsize := h.toNat_length
  have hpos := h.1
  have hle := h.2
  -- A label is not empty, so its length is not taken for the closing zero.
  have hne : UInt8.ofNat label.length ≠ 0 := by
    intro hzero
    rw [hzero] at hsize
    change 0 = label.length at hsize
    omega
  rw [readLabels?, if_neg hne, hsize, if_neg, List.drop_left, List.take_left]
  rw [Bool.or_eq_true, decide_eq_true_eq, decide_eq_true_eq, List.length_append]
  omega

/-- **The reader gives back the labels that were written**, whatever follows
them.  Each label takes one unit of fuel, and the closing zero another one. -/
theorem readLabels?_wire_append {labels : List (List UInt8)}
    (h : ∀ label ∈ labels, IsWireLabel label) {fuel : Nat} (hfuel : labels.length < fuel)
    (rest : List UInt8) : readLabels? fuel (wire labels ++ rest) = some labels := by
  induction labels generalizing fuel with
  | nil =>
    obtain ⟨fuel, rfl⟩ := Nat.exists_eq_succ_of_ne_zero (Nat.ne_of_gt hfuel)
    rfl
  | cons label labels ih =>
    obtain ⟨fuel, rfl⟩ := Nat.exists_eq_succ_of_ne_zero (Nat.ne_of_gt (Nat.zero_lt_of_lt hfuel))
    obtain ⟨hlabel, hlabels⟩ := List.forall_mem_cons.mp h
    have hless : labels.length < fuel := Nat.lt_of_succ_lt_succ hfuel
    rw [wire_cons, List.cons_append, List.append_assoc, readLabels?_cons hlabel,
      ih hlabels hless]
    rfl

/-- **What the reader has read was written there**, in front of what it has not
looked at.  The induction is on the fuel: what is left behind a label begins
where its length says, at no place known beforehand. -/
theorem exists_eq_wire_append {fuel : Nat} {bytes : List UInt8} {labels : List (List UInt8)}
    (h : readLabels? fuel bytes = some labels) :
    (∀ label ∈ labels, IsWireLabel label) ∧ ∃ rest, bytes = wire labels ++ rest := by
  induction fuel generalizing bytes labels with
  | zero => simp [readLabels?] at h
  | succ fuel ih =>
    cases bytes with
    | nil => simp [readLabels?] at h
    | cons size bytes =>
      rw [readLabels?] at h
      split at h
      next hzero =>
        -- The closing zero: all that follows is left over.
        cases h
        exact ⟨by simp, bytes, by rw [hzero]; rfl⟩
      next hzero =>
        split at h
        next => cases h
        next hfits =>
          rw [Bool.or_eq_true, decide_eq_true_eq, decide_eq_true_eq, not_or] at hfits
          obtain ⟨later, hlater, hlabels⟩ := Option.map_eq_some_iff.mp h
          subst hlabels
          obtain ⟨hall, rest, hrest⟩ := ih hlater
          -- One label in front of those that were read behind it.
          have hpos : size.toNat ≠ 0 := fun heq => hzero (UInt8.toNat_inj.mp heq)
          have hlen : (bytes.take size.toNat).length = size.toNat := by
            rw [List.length_take]
            omega
          refine ⟨List.forall_mem_cons.mpr ⟨?_, hall⟩, rest, ?_⟩
          · unfold IsWireLabel
            omega
          · rw [wire_cons, List.cons_append, List.append_assoc, ← hrest, List.take_append_drop,
              hlen, UInt8.ofNat_toNat]

/-! ## §3. Reading names. -/

variable {bytes form rest : List UInt8} {labels : List (List UInt8)}

theorem IsWireForm.length_lt (h : IsWireForm labels form) : length labels < lengthLimit := by
  have hle := h.length_le
  rw [h.written, length_wire] at hle
  exact hle

/-- There are no more labels than bytes. -/
theorem length_le_length_labels (labels : List (List UInt8)) :
    labels.length ≤ length labels := by
  induction labels with
  | nil => exact Nat.le_refl 0
  | cons label labels ih =>
    show labels.length + 1 ≤ label.length + 1 + length labels
    omega

/-- A name is read off whatever follows it. -/
theorem IsWireForm.ofWire?_append (h : IsWireForm labels form) (rest : List UInt8) :
    ofWire? (form ++ rest) = some ⟨labels, true⟩ := by
  -- As much fuel as there are bytes is enough, since no label takes less than one.
  have hfuel : labels.length < (form ++ rest).length := by
    have hle := length_le_length_labels labels
    rw [List.length_append, h.written, length_wire]
    omega
  have hread : readLabels? (form ++ rest).length (form ++ rest) = some labels := by
    conv_lhs => rw [h.written]
    rw [h.written] at hfuel
    exact readLabels?_wire_append h.areLabels hfuel rest
  unfold ofWire?
  rw [hread]
  exact if_pos h.length_lt

/-- **The reader finds the name that some bytes begin with**, and nothing if
they begin with none. -/
theorem ofWire?_eq_some_iff {name : WireName} :
    ofWire? bytes = some name ↔
      ∃ labels form rest, IsWireForm labels form ∧ bytes = form ++ rest ∧
        name = ⟨labels, true⟩ := by
  constructor
  · intro h
    unfold ofWire? at h
    cases hread : readLabels? bytes.length bytes with
    | none =>
      rw [hread] at h
      cases h
    | some labels =>
      obtain ⟨hlabels, rest, hbytes⟩ := exists_eq_wire_append hread
      simp only [hread] at h
      split at h
      next hlt =>
        cases h
        refine ⟨labels, wire labels, rest, ⟨rfl, hlabels, ?_⟩, hbytes, rfl⟩
        rw [length_wire]
        exact hlt
      next => cases h
  · intro hyp
    obtain ⟨labels, form, rest, hform, rfl, rfl⟩ := hyp
    exact hform.ofWire?_append rest

/-- **Some bytes begin with one name at most**: labels and end are determined. -/
theorem IsWireForm.unique {labels' : List (List UInt8)} {form' rest' : List UInt8}
    (h : IsWireForm labels form) (h' : IsWireForm labels' form')
    (heq : form ++ rest = form' ++ rest') : labels = labels' ∧ form = form' ∧ rest = rest' := by
  have hread := h.ofWire?_append rest
  rw [heq, h'.ofWire?_append rest'] at hread
  cases hread
  have hforms : form = form' := h.written.trans h'.written.symm
  subst hforms
  exact ⟨rfl, rfl, List.append_cancel_left heq⟩

end WireName

/-! ## §4. Libraries. -/

namespace NameLibrary

open WireName

variable {library : NameLibrary} {bytes : List UInt8}

/-- What is assumed of the library that reads names: it reads the name that some
bytes begin with, whatever follows that name, and nothing if they begin with
none.  How it prints a name is left open. -/
def ReadsNames (library : NameLibrary) : Prop :=
  ∀ bytes name, library.read? bytes = some name ↔
    ∃ labels form rest, IsWireForm labels form ∧ bytes = form ++ rest ∧ name = ⟨labels, true⟩

/-- **The reader defined here does what is assumed of a library.** -/
theorem standard_readsNames : standard.ReadsNames := fun _ _ => ofWire?_eq_some_iff

/-- Where no name begins, none is read. -/
theorem ReadsNames.read?_eq_none_iff (h : library.ReadsNames) :
    library.read? bytes = none ↔
      ¬ ∃ labels form rest, IsWireForm labels form ∧ bytes = form ++ rest := by
  rw [Option.eq_none_iff_forall_ne_some]
  constructor
  · intro hnone hyp
    obtain ⟨labels, form, rest, hform, hbytes⟩ := hyp
    exact hnone _ ((h bytes _).mpr ⟨labels, form, rest, hform, hbytes, rfl⟩)
  · intro hnot name hname
    obtain ⟨labels, form, rest, hform, hbytes, -⟩ := (h bytes name).mp hname
    exact hnot ⟨labels, form, rest, hform, hbytes⟩

end NameLibrary

/-! ## §5. DNAME data. -/

namespace Record

open WireName

variable {library : NameLibrary} {bytes : List UInt8}

/-- DNAME data has the name that it begins with as its value. -/
theorem ofData_dname_eq_some_iff (h : library.ReadsNames) {value : Record} :
    ofData (.unknown RecordKind.dname.code bytes) library = .ok (some value) ↔
      ∃ labels form rest, IsWireForm labels form ∧ bytes = form ++ rest ∧
        value = .dname (library.print ⟨labels, true⟩) := by
  show Except.ok ((library.read? bytes).map fun target => dname (library.print target)) = _ ↔ _
  rw [Except.ok.injEq, Option.map_eq_some_iff]
  constructor
  · intro hyp
    obtain ⟨name, hname, rfl⟩ := hyp
    obtain ⟨labels, form, rest, hform, hbytes, rfl⟩ := (h bytes name).mp hname
    exact ⟨labels, form, rest, hform, hbytes, rfl⟩
  · intro hyp
    obtain ⟨labels, form, rest, hform, hbytes, rfl⟩ := hyp
    exact ⟨_, (h bytes _).mpr ⟨labels, form, rest, hform, hbytes, rfl⟩, rfl⟩

/-- DNAME data that begins with no name is passed over. -/
theorem ofData_dname_eq_none_iff (h : library.ReadsNames) :
    ofData (.unknown RecordKind.dname.code bytes) library = .ok none ↔
      ¬ ∃ labels form rest, IsWireForm labels form ∧ bytes = form ++ rest := by
  show Except.ok ((library.read? bytes).map fun target => dname (library.print target)) = _ ↔ _
  rw [Except.ok.injEq, Option.map_eq_none_iff]
  exact h.read?_eq_none_iff

/-- DNAME data is treated as what it should be: one name, from its first byte to
its last, or malformed and passed over. -/
structure ReadsAlone (library : NameLibrary) (bytes : List UInt8) : Prop where
  decoded : ∀ labels, IsWireForm labels bytes →
    ofData (.unknown RecordKind.dname.code bytes) library
      = .ok (some (.dname (library.print ⟨labels, true⟩)))
  ignored : (∀ labels, ¬ IsWireForm labels bytes) →
    ofData (.unknown RecordKind.dname.code bytes) library = .ok none

/-- DNAME data is treated as one name or none, unless bytes follow the name that
it begins with. -/
theorem readsAlone_iff (h : library.ReadsNames) :
    ReadsAlone library bytes ↔
      ¬ ∃ labels form rest, IsWireForm labels form ∧ rest ≠ [] ∧ bytes = form ++ rest := by
  constructor
  · intro halone hyp
    obtain ⟨labels, form, rest, hform, hne, rfl⟩ := hyp
    -- The whole is no name, since the name in front of it is another one.
    have hnot : ∀ labels', ¬ IsWireForm labels' (form ++ rest) := by
      intro labels' hwhole
      have heq : (form ++ rest) ++ [] = form ++ rest := List.append_nil _
      exact hne (hwhole.unique hform heq).2.2.symm
    exact (ofData_dname_eq_none_iff h).mp (halone.ignored hnot) ⟨labels, form, rest, hform, rfl⟩
  · intro hnone
    constructor
    · intro labels hform
      have heq : bytes = bytes ++ [] := (List.append_nil _).symm
      exact (ofData_dname_eq_some_iff h).mpr ⟨labels, bytes, [], hform, heq, rfl⟩
    · intro hnot
      apply (ofData_dname_eq_none_iff h).mpr
      intro hyp
      obtain ⟨labels, form, rest, hform, hbytes⟩ := hyp
      by_cases hrest : rest = []
      · rw [hrest, List.append_nil] at hbytes
        exact hnot labels (hbytes ▸ hform)
      · exact hnone ⟨labels, form, rest, hform, hrest, hbytes⟩

/-- **DNAME data has a value exactly if it begins with a name, and then that
name is the value**; so it is treated as one name or none, unless bytes follow
the name that it begins with.  This holds for every library that reads names. -/
theorem dname_read_alone_iff (bytes : List UInt8) :
    NameLibrary.standard.ReadsNames ∧ ∀ library : NameLibrary, library.ReadsNames →
      (∀ value, ofData (.unknown RecordKind.dname.code bytes) library = .ok (some value) ↔
        ∃ labels form rest, IsWireForm labels form ∧ bytes = form ++ rest ∧
          value = .dname (library.print ⟨labels, true⟩)) ∧
      (ofData (.unknown RecordKind.dname.code bytes) library = .ok none ↔
        ¬ ∃ labels form rest, IsWireForm labels form ∧ bytes = form ++ rest) ∧
      (ReadsAlone library bytes ↔
        ¬ ∃ labels form rest, IsWireForm labels form ∧ rest ≠ [] ∧ bytes = form ++ rest) := by
  refine ⟨NameLibrary.standard_readsNames, fun library hreads => ⟨fun value => ?_, ?_, ?_⟩⟩
  · exact ofData_dname_eq_some_iff hreads
  · exact ofData_dname_eq_none_iff hreads
  · exact readsAlone_iff hreads

/-- The name `aaa.` on the wire. -/
theorem isWireForm_aaa : IsWireForm [[0x61, 0x61, 0x61]] [3, 0x61, 0x61, 0x61, 0] :=
  ⟨rfl, by simp [IsWireLabel, maxLabelLength], by decide⟩

/-- The name `aaa.` and nothing behind it. -/
theorem dname_read_alone_aaa :
    NameLibrary.standard.ReadsNames ∧
      ofData (.unknown 39 [3, 0x61, 0x61, 0x61, 0]) = .ok (some (.dname "aaa.".toList)) ∧
      ReadsAlone .standard [3, 0x61, 0x61, 0x61, 0] := by
  obtain ⟨hreads, hall⟩ := dname_read_alone_iff [3, 0x61, 0x61, 0x61, 0]
  obtain ⟨hvalue, -, halone⟩ := hall .standard hreads
  have hname : WireName.print ⟨[[0x61, 0x61, 0x61]], true⟩ = "aaa.".toList := by decide
  refine ⟨hreads, (hvalue _).mpr ⟨_, _, [], isWireForm_aaa, rfl, congrArg _ hname.symm⟩,
    halone.mpr ?_⟩
  intro hyp
  obtain ⟨labels, form, rest, hform, hne, heq⟩ := hyp
  have hwhole : [3, 0x61, 0x61, 0x61, 0] ++ [] = form ++ rest := heq
  exact hne (isWireForm_aaa.unique hform hwhole).2.2.symm

/-- One byte behind the name `aaa.` changes nothing, although the data is no
name any more. -/
theorem dname_read_past_name :
    ofData (.unknown 39 [3, 0x61, 0x61, 0x61, 0]) = .ok (some (.dname "aaa.".toList)) ∧
      (∀ labels, ¬ IsWireForm labels [3, 0x61, 0x61, 0x61, 0, 0]) ∧
      ofData (.unknown 39 [3, 0x61, 0x61, 0x61, 0, 0]) = .ok (some (.dname "aaa.".toList)) ∧
      ¬ ReadsAlone .standard [3, 0x61, 0x61, 0x61, 0, 0] := by
  have hnot : ∀ labels, ¬ IsWireForm labels [3, 0x61, 0x61, 0x61, 0, 0] := by
    intro labels hwhole
    have heq : [3, 0x61, 0x61, 0x61, 0, 0] ++ [] = [3, 0x61, 0x61, 0x61, 0] ++ [(0 : UInt8)] := rfl
    exact absurd (hwhole.unique isWireForm_aaa heq).2.2 (by decide)
  have hread : ofData (.unknown 39 [3, 0x61, 0x61, 0x61, 0, 0])
      = .ok (some (.dname "aaa.".toList)) := by decide
  refine ⟨by decide, hnot, hread, ?_⟩
  intro halone
  have hnone : ofData (.unknown 39 [3, 0x61, 0x61, 0x61, 0, 0]) = .ok none := halone.ignored hnot
  rw [hread] at hnone
  cases hnone

end Record

end DomainScope
