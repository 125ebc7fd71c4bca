/-
  DomainScope.Proofs.CommandLine.Table
  ────────────────────────────────────
  **TABLES IN THE OUTPUT.**

  A report on several inputs is put together of the reports on each.  If each of
  them is a line, or nothing, the output can be cut into the lines again, and a
  line of columns into its fields, provided that no field holds the characters
  that it is cut at.

  Main results
    `isLines_concat`     lines put together are cut into the lines
    `isTable_concat`     rows of columns put together are a table
-/
import DomainScope.CommandLine.Report
import Mathlib.Data.List.Basic

namespace DomainScope.Report

/-! ## §1. Reports put together. -/

theorem concat_nil : concat [] = {} := rfl

theorem concat_cons (r : Report) (rs : List Report) : concat (r :: rs) = r.append (concat rs) := rfl

/-- A report on one input is the report on that input. -/
theorem concat_singleton (r : Report) : concat [r] = r := by
  obtain ⟨out, err, allWell⟩ := r
  rw [concat_cons, concat_nil]
  simp [append]

/-- The output of a whole is that of its parts, one after the other. -/
theorem out_concat (rs : List Report) : (concat rs).out = (rs.map Report.out).flatten := by
  induction rs with
  | nil => rfl
  | cons r rs ih =>
    rw [List.map_cons, List.flatten_cons, ← ih]
    rfl

/-- All is well with a whole if it is with each part. -/
theorem allWell_concat (rs : List Report) :
    (concat rs).allWell = true ↔ ∀ r ∈ rs, r.allWell = true := by
  induction rs with
  | nil => simp [concat_nil]
  | cons r rs ih =>
    rw [List.forall_mem_cons, ← ih, ← Bool.and_eq_true]
    rfl

/-! ## §2. Lines. -/

/-- The output is these lines, each closed by a line feed. -/
structure IsLines (out : Text) (lines : List Text) : Prop where
  eq_flatMap : out = lines.flatMap (· ++ ['\n'])
  /-- Behind the last line feed nothing follows. -/
  splitOn : out.splitOn '\n' = lines ++ [[]]

/-- Texts without a line feed are the lines of what they are written to. -/
theorem isLines_flatMap {lines : List Text} (h : ∀ line ∈ lines, '\n' ∉ line) :
    IsLines (lines.flatMap (· ++ ['\n'])) lines := by
  refine ⟨rfl, ?_⟩
  induction lines with
  | nil => rfl
  | cons line lines ih =>
    obtain ⟨hline, hlines⟩ := List.forall_mem_cons.mp h
    rw [List.flatMap_cons, List.append_assoc, List.singleton_append,
      List.splitOn_append_cons_self_of_not_mem hline, ih hlines, List.cons_append]

/-- **Lines put together are cut into the lines.** -/
theorem isLines_concat {α : Type} {report : α → Report} {line? : α → Option Text} {xs : List α}
    (hout : ∀ x, (report x).out = ((line? x).map (· ++ ['\n'])).getD [])
    (hline : ∀ x line, line? x = some line → '\n' ∉ line) :
    IsLines (concat (xs.map report)).out (xs.filterMap line?) := by
  have hall : ∀ line ∈ xs.filterMap line?, '\n' ∉ line := by
    intro line hmem
    obtain ⟨x, -, hx⟩ := List.mem_filterMap.mp hmem
    exact hline x line hx
  have heq : (concat (xs.map report)).out = (xs.filterMap line?).flatMap (· ++ ['\n']) := by
    rw [out_concat, List.map_map]
    clear hall
    induction xs with
    | nil => rfl
    | cons x xs ih =>
      rw [List.map_cons, List.flatten_cons, ih, List.filterMap_cons, Function.comp_apply, hout x]
      cases line? x <;> rfl
  rw [heq]
  exact isLines_flatMap hall

/-! ## §3. Columns. -/

/-- A text that can be a field: it holds neither of the two characters that the
output is cut at. -/
def IsField (t : Text) : Prop := '\t' ∉ t ∧ '\n' ∉ t

instance (t : Text) : Decidable (IsField t) := inferInstanceAs (Decidable (_ ∧ _))

/-- A text of characters of one kind is a field if that kind has neither a tab
nor a line feed. -/
theorem isField_of_forall {t : Text} {p : Char → Prop} (h : ∀ c ∈ t, p c) (htab : ¬ p '\t')
    (hfeed : ¬ p '\n') : IsField t :=
  ⟨fun hmem => htab (h _ hmem), fun hmem => hfeed (h _ hmem)⟩

theorem isField_append {s t : Text} : IsField (s ++ t) ↔ IsField s ∧ IsField t := by
  simp only [IsField, List.mem_append]
  tauto

theorem isField_cons {c : Char} {t : Text} :
    IsField (c :: t) ↔ (c ≠ '\t' ∧ c ≠ '\n') ∧ IsField t := by
  simp only [IsField, List.mem_cons, eq_comm]
  tauto

/-- Fields that can be told apart in a line of columns. -/
structure IsRow (row : List Text) : Prop where
  ne_nil : row ≠ []
  isField : ∀ field ∈ row, IsField field

/-- A row is cut at the tabs into its fields. -/
theorem IsRow.splitOn_columns {row : List Text} (h : IsRow row) :
    (columns row).splitOn '\t' = row :=
  List.splitOn_intercalate '\t' (fun field hfield => (h.isField field hfield).1) h.ne_nil

/-- A row is a single line. -/
theorem IsRow.feed_not_mem_columns {row : List Text} (h : IsRow row) : '\n' ∉ columns row := by
  intro hmem
  rcases Text.mem_intercalate hmem with hfeed | ⟨field, hfield, hfeed⟩
  · cases hfeed
  · exact (h.isField field hfield).2 hfeed

/-- The output is a table: these rows in lines, and in columns within a line. -/
structure IsTable (out : Text) (rows : List (List Text)) : Prop where
  lines : IsLines out (rows.map columns)
  fields : ∀ row ∈ rows, (columns row).splitOn '\t' = row

/-- **Rows of columns put together are a table.** -/
theorem isTable_concat {α : Type} {report : α → Report} {row? : α → Option (List Text)}
    {xs : List α} (hout : ∀ x, (report x).out = ((row? x).map (columns · ++ ['\n'])).getD [])
    (hrow : ∀ x row, row? x = some row → IsRow row) :
    IsTable (concat (xs.map report)).out (xs.filterMap row?) := by
  constructor
  case lines =>
    rw [List.map_filterMap]
    refine isLines_concat ?_ ?_
    · intro x
      rw [hout, Option.map_map]
      rfl
    · intro x line hline
      obtain ⟨row, hx, rfl⟩ := Option.map_eq_some_iff.mp hline
      exact (hrow x row hx).feed_not_mem_columns
  case fields =>
    intro row hmem
    obtain ⟨x, -, hx⟩ := List.mem_filterMap.mp hmem
    exact (hrow x row hx).splitOn_columns

end DomainScope.Report
