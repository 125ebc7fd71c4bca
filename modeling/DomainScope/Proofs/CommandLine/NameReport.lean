/-
  DomainScope.Proofs.CommandLine.NameReport
  ─────────────────────────────────────────
  **THE REPORT ON NAMES.**

  In columns the report has a row for each name that is accepted; the name
  stands in it as it was given.  An accepted name and its parts hold nothing but
  letters, digits, hyphens, underscores and dots, so the rows can be told apart
  and cut into their fields.  As objects the report has a line for each name,
  also for a rejected one, whatever that holds: the writer of objects keeps each
  on one line, and the fields can be read back from it.

  Main results
    `isNameChar_of_decompose`   what a name and its parts hold
    `isTable_reportNames`       the report in columns
    `isLines_reportNames`       the report as objects
    `reportNames_frames`        the report on any names, in both forms
-/
import DomainScope.Proofs.CommandLine.Table
import DomainScope.Proofs.Name.Parts
import DomainScope.Proofs.Text.Json
import DomainScope.Suffix.Fallback

namespace DomainScope

/-! ## §1. Characters of a name. -/

namespace Name

/-- A character that can stand in a name. -/
def IsNameChar (c : Char) : Prop := c = '.' ∨ IsLabelChar c

instance (c : Char) : Decidable (IsNameChar c) := inferInstanceAs (Decidable (_ ∨ _))

/-- Joined labels hold the characters of labels, and dots. -/
theorem isNameChar_ofLabels {ls : List Text} (h : ∀ l ∈ ls, ∀ c ∈ l, IsLabelChar c) :
    ∀ c ∈ ofLabels ls, IsNameChar c := by
  intro c hc
  rcases Text.mem_intercalate hc with hdot | ⟨l, hl, hmem⟩
  · exact .inl hdot
  · exact .inr (h l hl c hmem)

/-- A name holds only such characters, with or without a final dot. -/
theorem isNameChar_of_validate {policy : Policy} {name : Text}
    (h : validate policy name = .ok ()) : ∀ c ∈ name, IsNameChar c := by
  by_cases hroot : name = ['.']
  · subst hroot
    simp [IsNameChar]
  · have hname := (validate_eq_ok_iff hroot).mp h
    have hbody := isNameChar_ofLabels fun l hl => (hname.areLabels l hl).chars
    rw [ofLabels_labels] at hbody
    -- The labels tell of the name without its final dot; that dot may stand in a name too.
    rcases dropFinalDot_cases name with ⟨body, rfl, hdrop⟩ | ⟨hdrop, -⟩
    · rw [hdrop] at hbody
      rw [List.forall_mem_append]
      exact ⟨hbody, by simp [IsNameChar]⟩
    · rwa [hdrop] at hbody

theorem isField_of_isNameChar {t : Text} (h : ∀ c ∈ t, IsNameChar c) : Report.IsField t :=
  Report.isField_of_forall h (by decide) (by decide)

end Name

namespace Decomposer

variable {d : Decomposer} {name : Text}

/-- The parts of a row of labels hold what the labels hold, and dots. -/
theorem isNameChar_partsAt {ls tld : List Text} (h : tld <:+ ls)
    (hls : ∀ l ∈ ls, ∀ c ∈ l, Name.IsLabelChar c) :
    ∀ t ∈ [(partsAt ls tld).sub, (partsAt ls tld).domain, (partsAt ls tld).tld],
      ∀ c ∈ t, Name.IsNameChar c := by
  rcases SlicedList.suffix_cases h with rfl | ⟨front, domain, rfl⟩
  · rw [SlicedList.partsAt_self]
    simpa using Name.isNameChar_ofLabels hls
  · rw [SlicedList.partsAt_append]
    simp only [List.forall_mem_append, List.forall_mem_cons] at hls ⊢
    obtain ⟨hfront, hdomain, htld⟩ := hls
    exact ⟨Name.isNameChar_ofLabels hfront, fun c hc => .inr (hdomain c hc),
      Name.isNameChar_ofLabels htld, by simp⟩

/-- **What a name and its parts hold.** -/
theorem isNameChar_of_decompose {p : Parts} (h : d.decompose name = .ok p) :
    ∀ t ∈ [name, p.sub, p.domain, p.tld], ∀ c ∈ t, Name.IsNameChar c := by
  have hvalid := validate_of_decompose h
  refine List.forall_mem_cons.mpr ⟨Name.isNameChar_of_validate hvalid, ?_⟩
  by_cases hroot : name = ['.']
  · subst hroot
    rw [decompose_root hvalid] at h
    cases h
    simp
  · rw [decompose_of_valid hroot hvalid] at h
    cases h
    have hname := Name.isName_labels_clean hroot hvalid
    exact isNameChar_partsAt (d.suffixLabels_suffix _) fun l hl => (hname.areLabels l hl).chars

/-! ## §2. Rows and objects. -/

/-- The row of a name: the name as it was given and its parts; none if it is
rejected. -/
def row? (d : Decomposer) (name : Text) : Option (List Text) :=
  match d.decompose name with
  | .ok p => some [name, p.sub, p.domain, p.tld]
  | .error _ => none

/-- The fields of the object on a name: the name as it was given, and its parts
or the error that rejects it. -/
def objectFields (d : Decomposer) (name : Text) : List (Text × Text) :=
  match d.decompose name with
  | .ok p => [("domain".toList, p.domain), ("name".toList, name), ("sub".toList, p.sub),
      ("tld".toList, p.tld)]
  | .error e => [("error".toList, e.message), ("name".toList, name)]

/-- No field of a row can be mistaken for two. -/
theorem isRow_of_row? {row : List Text} (h : d.row? name = some row) : Report.IsRow row := by
  unfold row? at h
  split at h
  next p hp =>
    cases h
    exact ⟨by simp, fun t ht => Name.isField_of_isNameChar (isNameChar_of_decompose hp t ht)⟩
  next => cases h

variable (write : Text.Json.Writer)

/-- In columns a name has its row, and a rejected one has none. -/
theorem out_reportName_columns (d : Decomposer) (name : Text) :
    (reportName d false name write).out
      = ((d.row? name).map (Report.columns · ++ ['\n'])).getD [] := by
  unfold reportName row?
  cases d.decompose name <;> rfl

/-- As an object every name has its fields. -/
theorem out_reportName_object (d : Decomposer) (name : Text) :
    (reportName d true name write).out = write (d.objectFields name) ++ ['\n'] := by
  unfold reportName objectFields
  cases d.decompose name <;> rfl

/-- All is well with a name if it is accepted, in either form. -/
theorem allWell_reportName (d : Decomposer) (json : Bool) (name : Text) :
    (reportName d json name write).allWell = true ↔ ∃ p, d.decompose name = .ok p := by
  unfold reportName
  cases d.decompose name <;> cases json <;> simp [Report.line, Report.complaint]

/-! ## §3. Reports. -/

open Report Text.Json

/-- In columns a report is the table of the rows of the names that are accepted. -/
theorem isTable_reportNames (d : Decomposer) (names : List Text) :
    IsTable (reportNames d false names write).out (names.filterMap d.row?) :=
  isTable_concat (out_reportName_columns write d) fun _ _ => isRow_of_row?

/-- As objects a report has one line for each name. -/
theorem isLines_reportNames {write : Writer} (h : IsWriter write) (d : Decomposer)
    (names : List Text) :
    IsLines (reportNames d true names write).out
      (names.map fun name => write (d.objectFields name)) := by
  have hlines : IsLines (reportNames d true names write).out
      (names.filterMap fun name => some (write (d.objectFields name))) := by
    refine isLines_concat (out_reportName_object write d) fun name line hline => ?_
    cases hline
    exact h.single_line _
  rwa [List.filterMap_eq_map'] at hlines

/-- **The report on any names.**  In columns it is the table of the rows of the
names that are accepted, in order.  As objects it has one line for each name, in
order, from which the fields on that name are read back.  In both forms all is
well if all names are accepted.  This holds for every writer of objects. -/
theorem reportNames_frames (d : Decomposer) (names : List Text) :
    IsWriter object ∧ ∀ write, IsWriter write →
      IsTable (reportNames d false names write).out (names.filterMap d.row?) ∧
        (∃ lines, IsLines (reportNames d true names write).out lines ∧
          lines.map readObject? = names.map fun name => some (d.objectFields name)) ∧
        ∀ json, (reportNames d json names write).allWell = true ↔
          ∀ name ∈ names, ∃ p, d.decompose name = .ok p := by
  refine ⟨isWriter_object, fun write hwrite => ⟨isTable_reportNames write d names,
    ⟨_, isLines_reportNames hwrite d names, ?_⟩, fun json => ?_⟩⟩
  · rw [List.map_map]
    exact List.map_congr_left fun name _ => hwrite.read_back _
  · unfold reportNames
    rw [allWell_concat, List.forall_mem_map]
    exact forall₂_congr fun name _ => allWell_reportName write d json name

/-- An accepted name, and one with a tab in it, which is in no row and in its own
object. -/
theorem reportNames_frames_tab :
    let d : Decomposer := ⟨Fallback.list, {}⟩
    let names := ["www.example.co.uk".toList, "a\tb.com".toList]
    IsWriter object ∧
      IsTable (reportNames d false names).out
        [["www.example.co.uk".toList, "www".toList, "example".toList, "co.uk".toList]] ∧
      (∃ lines, IsLines (reportNames d true names).out lines ∧ lines.map readObject? =
        [some [("domain".toList, "example".toList), ("name".toList, "www.example.co.uk".toList),
            ("sub".toList, "www".toList), ("tld".toList, "co.uk".toList)],
          some [("error".toList, InvalidName.message ⟨"a\tb.com".toList, .character⟩),
            ("name".toList, "a\tb.com".toList)]]) ∧
      ¬ (reportNames d true names).allWell = true := by
  intro d names
  obtain ⟨hwriter, hall⟩ := reportNames_frames d names
  obtain ⟨htable, hlines, hwell⟩ := hall object hwriter
  have haccepted : d.decompose "www.example.co.uk".toList
      = .ok ⟨"co.uk".toList, "example".toList, "www".toList⟩ := by
    have hsuffix : d.suffixLabels ["www".toList, "example".toList, "co".toList, "uk".toList]
        = ["co".toList, "uk".toList] := by
      rw [suffixLabels_of_isAnswered (by decide)]
      decide
    have hls : Name.labels (Name.clean "www.example.co.uk".toList)
        = ["www".toList, "example".toList, "co".toList, "uk".toList] := by decide
    rw [decompose_of_valid (by decide) (by decide), hls, hsuffix]
    decide
  have hrejected : d.decompose "a\tb.com".toList = .error ⟨"a\tb.com".toList, .character⟩ := by
    decide
  have hrows : names.filterMap d.row?
      = [["www.example.co.uk".toList, "www".toList, "example".toList, "co.uk".toList]] := by
    simp only [names, row?, haccepted, hrejected, List.filterMap_cons, List.filterMap_nil]
  have hobjects : names.map (fun name => some (d.objectFields name))
      = [some [("domain".toList, "example".toList), ("name".toList, "www.example.co.uk".toList),
            ("sub".toList, "www".toList), ("tld".toList, "co.uk".toList)],
          some [("error".toList, InvalidName.message ⟨"a\tb.com".toList, .character⟩),
            ("name".toList, "a\tb.com".toList)]] := by
    simp only [names, objectFields, haccepted, hrejected, List.map_cons, List.map_nil]
  rw [hrows] at htable
  rw [hobjects] at hlines
  refine ⟨hwriter, htable, hlines, fun hdone => ?_⟩
  obtain ⟨p, hp⟩ := (hwell true).mp hdone "a\tb.com".toList (by simp [names])
  rw [hrejected] at hp
  cases hp

end Decomposer

end DomainScope
