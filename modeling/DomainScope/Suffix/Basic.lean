/-
  DomainScope.Suffix.Basic
  ────────────────────────
  **PUBLIC SUFFIXES.**

  A suffix list answers one question about a name: how many of its last labels
  are its public suffix, and who manages that suffix.  The answer counts
  labels, so the suffix is a tail of whole labels whatever the list.
-/
import DomainScope.Name.Basic

namespace DomainScope

/-- Who manages a public suffix. -/
inductive SuffixKind where
  /-- Listed in the ICANN section, such as `com` or `co.uk`. -/
  | icann
  /-- Listed in the section of private owners, such as `github.io`. -/
  | privatelyOwned
  /-- Not listed: the rightmost label of the name. -/
  | unmanaged
  deriving DecidableEq, Repr

/-- A public suffix of a name: the number of its last labels and its manager. -/
structure Suffix where
  count : Nat
  kind : SuffixKind
  deriving DecidableEq, Repr

/-- The suffix of a name that no rule matches. -/
def Suffix.unmanaged : Suffix := ⟨1, .unmanaged⟩

/-- The last `count` labels, or all of them if there are fewer. -/
def lastLabels (count : Nat) (ls : List Text) : List Text := ls.drop (ls.length - count)

theorem lastLabels_suffix (count : Nat) (ls : List Text) : lastLabels count ls <:+ ls :=
  List.drop_suffix _ _

theorem length_lastLabels_le (count : Nat) (ls : List Text) :
    (lastLabels count ls).length ≤ ls.length :=
  (lastLabels_suffix count ls).length_le

/-- There are as many last labels as asked for, if the name has so many. -/
theorem length_lastLabels {count : Nat} {ls : List Text} (h : count ≤ ls.length) :
    (lastLabels count ls).length = count := by
  unfold lastLabels
  rw [List.length_drop]
  omega

/-- A tail of a name is told by the number of its labels. -/
theorem lastLabels_length_of_suffix {tail ls : List Text} (h : tail <:+ ls) :
    lastLabels tail.length ls = tail := by
  obtain ⟨front, rfl⟩ := h
  simp [lastLabels]

/-- Tails of one row of labels are told apart by their lengths. -/
theorem suffix_eq_of_length {ls tail other : List Text} (h : tail <:+ ls) (h' : other <:+ ls)
    (hlen : tail.length = other.length) : tail = other :=
  (List.suffix_of_suffix_length_le h h' (Nat.le_of_eq hlen)).eq_of_length hlen

theorem lastLabels_ne_nil {count : Nat} {ls : List Text} (hcount : 1 ≤ count) (hls : ls ≠ []) :
    lastLabels count ls ≠ [] := by
  have hpos := List.length_pos_iff.mpr hls
  unfold lastLabels
  rw [ne_eq, List.drop_eq_nil_iff]
  omega

/-- A source of public suffixes. -/
structure SuffixList where
  /-- The suffix of the name with the given labels. -/
  lookup : List Text → Suffix

/-- The text of the public suffix of a name, and its manager. -/
def SuffixList.publicSuffix (list : SuffixList) (name : Text) : Text × SuffixKind :=
  let ls := Name.labels name
  let found := list.lookup ls
  (Name.ofLabels (lastLabels found.count ls), found.kind)

end DomainScope
