/-
  DomainScope.Proofs.Record.Value
  ───────────────────────────────
  **RECORD VALUES AND THE BYTES BEHIND THEM.**

  Two kinds of record data hold bytes that are read as text.  The value of a
  CAA property that is not understood has to be UTF-8, and is the only data
  that cannot be turned into a value.  The strings of a TXT record may be any
  bytes; each is read for itself, so the text of the record is that of all its
  bytes unless a character is cut between two strings.

  Main results
    `ofData_eq_error_iff`         which data has no printed form
    `txt_reads_whole_iff`         the text of a TXT record
    `ofData_txt_toBytes`          strings that are texts
-/
import DomainScope.Proofs.Text.Lossy
import DomainScope.Record.Value

namespace DomainScope.Record

/-! ## §1. Data without a printed form. -/

/-- Data that cannot be printed: the raw value of a CAA property, if its bytes
are those of no text. -/
inductive IsUnprintable : RecordData → Prop where
  | caa {isCritical : Bool} {tag : Text} {bytes : List UInt8}
      (h : ∀ t, Text.toBytes t ≠ bytes) : IsUnprintable (.caa isCritical tag (.raw bytes))

/-- There is one cause only, so what comes first does not matter. -/
theorem bind_eq_error_iff {α β : Type} {x : Except Unprintable α} {f : α → Except Unprintable β}
    {e : Unprintable} {later : Prop} (h : ∀ a, f a = .error e ↔ later) :
    (x >>= f) = .error e ↔ x = .error e ∨ later := by
  cases x with
  | ok a => simp [bind, Except.bind, h]
  | error e' =>
    cases e
    cases e'
    exact iff_of_true rfl (.inl rfl)

theorem bind_pure_eq_error_iff {α β : Type} {x : Except Unprintable α} {f : α → β}
    {e : Unprintable} : (x >>= fun a => pure (f a)) = .error e ↔ x = .error e := by
  have hpure : ∀ a, (pure (f a) : Except Unprintable β) = .error e ↔ False := by
    intro a
    exact iff_of_false nofun not_false
  rw [bind_eq_error_iff hpure, or_false]

variable {library : NameLibrary}

theorem print_eq_error_iff {value : CaaValue} {e : Unprintable} :
    value.print library = .error e ↔ ∃ bytes, value = .raw bytes ∧ ∀ t, Text.toBytes t ≠ bytes := by
  unfold CaaValue.print
  rw [bind_pure_eq_error_iff]
  cases value with
  | raw bytes =>
    simp only [CaaValue.body, CaaValue.raw.injEq, exists_eq_left', ← Text.ofBytes?_eq_none_iff]
    cases Text.ofBytes? bytes with
    | some t => exact iff_of_false nofun nofun
    | none => exact iff_of_true (by cases e; rfl) rfl
  | url u => exact iff_of_false nofun nofun
  | issuer name parameters => exact iff_of_false nofun nofun

/-- **Only the raw value of a CAA property can lack a printed form**, and it
lacks one if it is not UTF-8, however names are printed. -/
theorem ofData_eq_error_iff {data : RecordData} {e : Unprintable} :
    ofData data library = .error e ↔ IsUnprintable data := by
  cases data with
  | caa isCritical tag value =>
    show (value.print library >>= fun printed => pure _) = Except.error e ↔ _
    rw [bind_pure_eq_error_iff, print_eq_error_iff]
    constructor
    · intro hyp
      obtain ⟨bytes, rfl, h⟩ := hyp
      exact .caa h
    · intro hyp
      cases hyp with
      | caa h => exact ⟨_, rfl, h⟩
  | unknown code bytes =>
    refine iff_of_false ?_ nofun
    show (if code = RecordKind.dname.code then _ else _) ≠ Except.error e
    split_ifs <;> exact nofun
  | _ => exact iff_of_false nofun nofun

/-- Some records have no values if one of them has no printed form. -/
theorem ofAnswers_eq_error_iff {records : List RecordData} {e : Unprintable} :
    ofAnswers records library = .error e ↔ ∃ data ∈ records, IsUnprintable data := by
  induction records with
  | nil => exact iff_of_false nofun (by simp)
  | cons data rest ih =>
    show (ofData data library >>= fun value =>
      ofAnswers rest library >>= fun values => pure _) = _ ↔ _
    rw [bind_eq_error_iff (fun value => bind_pure_eq_error_iff), List.exists_mem_cons_iff, ← ih,
      ofData_eq_error_iff]

/-! ## §2. The strings of a TXT record. -/

/-- **A TXT record has the text of all its bytes, unless a character is cut
between two of its strings.** -/
theorem txt_reads_whole_iff (strings : List (List UInt8)) :
    ∃ t, ofData (.txt strings) = .ok (some (.txt t)) ∧
      (t = Text.ofBytesLossy strings.flatten ↔ ¬ Text.CutsSomewhere strings) :=
  ⟨_, rfl, Text.flatMap_ofBytesLossy_eq_iff⟩

/-- The two bytes of `é` in one string, and in a string each. -/
theorem txt_cut_e_acute :
    ofData (.txt [[0xC3, 0xA9]]) = .ok (some (.txt ['é'])) ∧
      ofData (.txt [[0xC3], [0xA9]]) = .ok (some (.txt [Text.replacement, Text.replacement])) := by
  decide

/-- Strings that are texts are read as these texts. -/
theorem ofData_txt_toBytes (ts : List Text) :
    ofData (.txt (ts.map Text.toBytes)) = .ok (some (.txt ts.flatten)) := by
  have hread : ∀ t, Text.ofBytesLossy (Text.toBytes t) = t := by
    intro t
    unfold Text.ofBytesLossy
    rw [Text.decode_toBytes, List.reverse_reverse]
  show Except.ok (some (txt ((ts.map Text.toBytes).flatMap Text.ofBytesLossy))) = _
  rw [List.flatMap_map, List.flatMap_congr (fun t _ => hread t), List.flatMap_id']

end DomainScope.Record
