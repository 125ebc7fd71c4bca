/-
  DomainScope.Proofs.Suffix.Sliced
  ────────────────────────────────
  **ASKED FOR A TEXT, A LIST ANSWERS WITH A PIECE OF IT.**

  There are three lists to choose from: any rule list, the list for running
  without a list, and a compiled list behind a search of its own.  The first two
  cut a name at its dots.  The third cuts off as many bytes as the search found,
  and that cut falls on a dot because the search promises whole labels.

  Main results
    `Offered.sliced_eq`   the answer is the text of the last labels counted
    `Offered.count_pos`   a suffix has a label
-/
import DomainScope.Name.Slice
import DomainScope.Proofs.Name.Labels
import DomainScope.Proofs.Suffix.Lookup
import DomainScope.Suffix.Fallback
import DomainScope.Suffix.LabelTree

namespace DomainScope

/-! ## §1. The lists to choose from. -/

/-- The lists, each asked for texts and asked for labels. -/
inductive Offered : SlicedList → SuffixList → Prop where
  /-- Any list of rules. -/
  | rules (list : RuleList) : Offered list.toSuffixList.sliced list.toSuffixList
  /-- The list for running without a list. -/
  | fallback : Offered Fallback.list.sliced Fallback.list
  /-- A compiled list whose search keeps its promise. -/
  | builtin {search : Builtin.Search} (h : search.WholeLabels) :
      Offered (Builtin.sliced search) (Builtin.list search)

/-- The search in a tree keeps the promise. -/
theorem LabelTree.wholeLabels_search (tree : LabelTree) : tree.search.WholeLabels := by
  intro name found h
  unfold LabelTree.search at h
  simp only at h
  split at h
  · exact absurd h (by simp)
  · cases h
    exact ⟨_, rfl⟩

/-! ## §2. The last labels as the last bytes. -/

/-- A name cut in front of its last labels. -/
theorem cutAt?_ofLabels_append {front tail : List Text} (hfront : front ≠ []) (htail : tail ≠ []) :
    Text.cutAt? (Name.ofLabels (front ++ tail))
        (Text.byteLength (Name.ofLabels (front ++ tail)) - Text.byteLength (Name.ofLabels tail))
      = some (Name.ofLabels front ++ ['.'], Name.ofLabels tail) := by
  have hdot : '.'.utf8Size = 1 := by decide
  rw [Text.cutAt?_eq_some_iff, Name.ofLabels_append hfront htail]
  simp only [Text.byteLength_append, Text.byteLength_cons, Text.byteLength_nil, hdot]
  constructor
  · simp
  · omega

/-- What stands behind the last dot is the last label. -/
theorem lastLabel_eq (name : Text) :
    ((Text.splitLast '.' name).map Prod.snd).getD name
      = Name.ofLabels (lastLabels 1 (Name.labels name)) := by
  obtain ⟨front, label, hls⟩ := (List.eq_nil_or_concat (Name.labels name)).resolve_left
    (Name.labels_ne_nil name)
  rw [List.concat_eq_append] at hls
  have hlabel : '.' ∉ label := @Name.not_mem_labels name label (by simp [hls])
  have hlast : lastLabels 1 (front ++ [label]) = [label] :=
    lastLabels_length_of_suffix (List.suffix_append front [label])
  rw [hls, hlast, Name.ofLabels_singleton]
  have hname : name = Name.ofLabels (front ++ [label]) := by rw [← hls, Name.ofLabels_labels]
  by_cases hfront : front = []
  · rw [hfront, List.nil_append, Name.ofLabels_singleton] at hname
    rw [hname, Text.splitLast_eq_none_iff.mpr hlabel]
    rfl
  · rw [hname, Name.splitLast_ofLabels_concat hfront hlabel]
    rfl

namespace Builtin

/-- No labels make no suffix. -/
theorem tail_ne_nil_of_isOut {name : Text} {found : Found} {tail : List Text}
    (hsuffix : found.suffix = Name.ofLabels tail) (hout : found.isOut name = false) :
    tail ≠ [] := by
  intro heq
  subst heq
  rw [Found.isOut, hsuffix] at hout
  exact absurd hout (by simp)

/-- A suffix of whole labels that is not out is cut off at a dot. -/
theorem cut_suffix {name : Text} {found : Found} {tail : List Text}
    (htail : tail <:+ Name.labels name) (hsuffix : found.suffix = Name.ofLabels tail)
    (hout : found.isOut name = false) :
    ∃ before, Text.cutAt? name (Text.byteLength name - Text.byteLength found.suffix)
        = some (before, Name.ofLabels tail) ∧ (before = [] ∨ before.getLast? = some '.') := by
  obtain ⟨front, hfront⟩ := htail
  have hname : Name.ofLabels (front ++ tail) = name := by rw [hfront, Name.ofLabels_labels]
  have hne := tail_ne_nil_of_isOut hsuffix hout
  rw [hsuffix, ← hname]
  -- A suffix that is the whole name is cut at its start, any other at a dot.
  by_cases hnil : front = []
  · refine ⟨[], ?_, .inl rfl⟩
    rw [hnil, List.nil_append, Nat.sub_self, Text.cutAt?_eq_some_iff]
    exact ⟨rfl, rfl⟩
  · exact ⟨_, cutAt?_ofLabels_append hnil hne, .inr (by simp)⟩

/-- As many labels as the suffix found has, where it is not out. -/
theorem length_labels_suffix {name : Text} {found : Found} {tail : List Text}
    (htail : tail <:+ Name.labels name) (hsuffix : found.suffix = Name.ofLabels tail)
    (hout : found.isOut name = false) : (Name.labels found.suffix).length = tail.length := by
  rw [hsuffix, Name.labels_ofLabels_of_suffix htail (tail_ne_nil_of_isOut hsuffix hout)]

/-- Cutting off bytes gives the labels counted. -/
theorem sliced_eq {search : Search} (h : search.WholeLabels) (name : Text) :
    sliced search name = some ((list search).publicSuffix name) := by
  have hlookup : (list search).lookup (Name.labels name) = lookup search (Name.labels name) := rfl
  unfold SuffixList.publicSuffix sliced
  simp only [lastLabel_eq, hlookup, lookup, Name.ofLabels_labels]
  cases hfound : search name with
  | none => rfl
  | some found =>
    obtain ⟨count, hsuffix⟩ := h name found hfound
    have htail := lastLabels_suffix count (Name.labels name)
    cases hout : found.isOut name with
    | true => simp [hout, Suffix.unmanaged]
    | false =>
      obtain ⟨before, hcut, hbefore⟩ := cut_suffix htail hsuffix hout
      simp only [hout, hcut, hbefore, length_labels_suffix htail hsuffix hout,
        lastLabels_length_of_suffix htail, if_true, if_false, Bool.false_eq_true]

end Builtin

/-! ## §3. The three lists. -/

namespace Offered

variable {sliced : SlicedList} {list : SuffixList}

/-- **Whatever the list, it answers with the text of the last labels.** -/
theorem sliced_eq (h : Offered sliced list) (name : Text) :
    sliced name = some (list.publicSuffix name) := by
  cases h with
  | rules list => rfl
  | fallback => rfl
  | builtin hwhole => exact Builtin.sliced_eq hwhole name

/-- A suffix has a label. -/
theorem count_pos (h : Offered sliced list) (ls : List Text) : 1 ≤ (list.lookup ls).count := by
  cases h with
  | rules list => exact (RuleList.finds_lookup list ls).count_pos
  | fallback =>
    show 1 ≤ (Fallback.lookup ls).count
    unfold Fallback.lookup
    split
    · exact Nat.le_succ 1
    · exact Nat.le_refl 1
  | @builtin search _ =>
    show 1 ≤ (Builtin.lookup search ls).count
    simp only [Builtin.lookup]
    split
    · exact Nat.le_refl 1
    · split
      · exact Nat.le_refl 1
      · exact List.length_pos_iff.mpr (Name.labels_ne_nil _)

end Offered

end DomainScope
