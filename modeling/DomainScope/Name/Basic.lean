/-
  DomainScope.Name.Basic
  ──────────────────────
  **DOMAIN NAMES AND THEIR LABELS.**

  A name is a text; its labels are what stands between the dots.  A name and
  its list of labels determine each other (`ofLabels_labels`,
  `labels_ofLabels`), so suffixes of names are treated as tails of label
  lists, and no position inside a text is ever computed.
-/
import DomainScope.Text.Basic

namespace DomainScope

/-! ## §1. Policies. -/

/-- The choices left open when names are checked and split. -/
structure Policy where
  /-- Whether the root name `.` and names of one label are accepted. -/
  acceptsRootAndBareTld : Bool := false
  /-- Whether suffixes run by a private owner, such as `github.io`, count as suffixes. -/
  privateSuffixes : Bool := true
  deriving DecidableEq, Repr

namespace Name

/-! ## §2. Labels. -/

/-- The labels of a name, from left to right. -/
def labels (name : Text) : List Text := name.splitOn '.'

/-- The name with the given labels. -/
def ofLabels (ls : List Text) : Text := ['.'].intercalate ls

/-- A name is put together again of its labels. -/
@[simp] theorem ofLabels_labels (name : Text) : ofLabels (labels name) = name :=
  List.intercalate_splitOn '.'

/-- Labels without dots are cut again where they were joined. -/
theorem labels_ofLabels {ls : List Text} (hne : ls ≠ []) (h : ∀ l ∈ ls, '.' ∉ l) :
    labels (ofLabels ls) = ls :=
  List.splitOn_intercalate '.' h hne

theorem labels_ne_nil (name : Text) : labels name ≠ [] := List.splitOn_ne_nil '.' name

/-! ## §3. Normal form. -/

/-- The name without the one dot that may close it. -/
def dropFinalDot (name : Text) : Text :=
  if name.getLast? = some '.' then name.dropLast else name

/-- The normal form of a name: no final dot, small letters. -/
def clean (name : Text) : Text := Text.lower (dropFinalDot name)

end Name

end DomainScope
