/-
  DomainScope.Proofs.Name.Labels
  ──────────────────────────────
  **NAMES AS ROWS OF LABELS.**

  What cutting a name at its dots and joining labels with dots give, and what
  the dot that may close a name does to them.  The normal form of a name has the
  labels of the name without that dot, in small letters.

  Main results
    `labels_append`               characters before the first dot join the first label
    `not_mem_labels`              no label holds a dot
    `splitLast_ofLabels_concat`   the last dot stands in front of the last label
    `dropFinalDot_cases`          a name ends in a dot or is left as it is
    `labels_clean`                the labels of the normal form
-/
import DomainScope.Name.Basic
import DomainScope.Proofs.Text.Lower
import Mathlib.Data.List.Basic

namespace DomainScope.Name

/-! ## §1. Cutting at dots. -/

@[simp] theorem labels_nil : labels [] = [[]] := rfl

/-- A dot in front makes an empty first label. -/
theorem labels_dot_cons (name : Text) : labels ('.' :: name) = [] :: labels name := by
  unfold labels
  rw [List.splitOn_cons_eq_if_modifyHead]
  simp

/-- Any other character in front joins the first label. -/
theorem labels_cons {c : Char} (h : c ≠ '.') (name : Text) :
    labels (c :: name) = (labels name).modifyHead (c :: ·) := by
  unfold labels
  rw [List.splitOn_cons_eq_if_modifyHead]
  simp [h]

/-- **Characters before the first dot join the first label.** -/
theorem labels_append {t : Text} (h : '.' ∉ t) (name : Text) :
    labels (t ++ name) = (labels name).modifyHead (t ++ ·) := by
  induction t with
  | nil =>
    obtain ⟨l, ls, hls⟩ := List.exists_cons_of_ne_nil (labels_ne_nil name)
    simp [hls]
  | cons c cs ih =>
    obtain ⟨hc, hcs⟩ := not_or.mp (mt List.mem_cons.mpr h)
    rw [List.cons_append, labels_cons (Ne.symm hc), ih hcs, List.modifyHead_modifyHead]
    rfl

/-- A text without dots is a single label. -/
theorem labels_of_not_mem {t : Text} (h : '.' ∉ t) : labels t = [t] :=
  List.splitOn_eq_singleton h

/-- What stands in front of the first dot is the first label. -/
theorem labels_append_dot_cons {t : Text} (h : '.' ∉ t) (name : Text) :
    labels (t ++ '.' :: name) = t :: labels name :=
  List.splitOn_append_cons_self_of_not_mem h name

/-- A dot at the end makes an empty last label. -/
theorem labels_append_dot (name : Text) : labels (name ++ ['.']) = labels name ++ [[]] :=
  List.splitOn_append_cons_self name []

/-- **No label holds a dot.** -/
theorem not_mem_labels {name l : Text} (h : l ∈ labels name) : '.' ∉ l := by
  induction name generalizing l with
  | nil =>
    rw [labels_nil, List.mem_singleton] at h
    simp [h]
  | cons c cs ih =>
    by_cases hc : c = '.'
    · rw [hc, labels_dot_cons] at h
      rcases List.mem_cons.mp h with rfl | h
      · exact List.not_mem_nil
      · exact ih h
    · obtain ⟨first, ls, hls⟩ := List.exists_cons_of_ne_nil (labels_ne_nil cs)
      rw [labels_cons hc, hls, List.modifyHead_cons] at h
      rcases List.mem_cons.mp h with rfl | h
      · have hfirst : '.' ∉ first := ih (by simp [hls])
        simp [hfirst, Ne.symm hc]
      · exact ih (by simp [hls, h])

/-- The last labels of a name, joined, are cut into the same labels again. -/
theorem labels_ofLabels_of_suffix {name : Text} {tail : List Text} (h : tail <:+ labels name)
    (hne : tail ≠ []) : labels (ofLabels tail) = tail :=
  labels_ofLabels hne fun _ hl => not_mem_labels (h.subset hl)

/-- A text has more than one label if it holds a dot. -/
theorem two_le_length_labels_iff {t : Text} : 2 ≤ (labels t).length ↔ '.' ∈ t := by
  constructor
  · intro h
    by_contra hmem
    rw [labels_of_not_mem hmem] at h
    simp at h
  · intro h
    obtain ⟨front, name, rfl, hfront⟩ := List.eq_append_cons_of_mem h
    have hpos := List.length_pos_iff.mpr (labels_ne_nil name)
    rw [labels_append_dot_cons hfront, List.length_cons]
    omega

/-! ## §2. Joining with dots. -/

@[simp] theorem ofLabels_nil : ofLabels [] = [] := rfl

@[simp] theorem ofLabels_singleton (l : Text) : ofLabels [l] = l := by
  simp [ofLabels]

theorem ofLabels_cons {ls : List Text} (l : Text) (h : ls ≠ []) :
    ofLabels (l :: ls) = l ++ '.' :: ofLabels ls := by
  unfold ofLabels
  rw [List.intercalate_cons_of_ne_nil h, List.append_assoc]
  rfl

/-- Two rows of labels are joined with a dot between them, unless one is empty. -/
theorem ofLabels_append {ls ms : List Text} (hls : ls ≠ []) (hms : ms ≠ []) :
    ofLabels (ls ++ ms) = ofLabels ls ++ '.' :: ofLabels ms := by
  induction ls with
  | nil => exact absurd rfl hls
  | cons l ls ih =>
    cases ls with
    | nil =>
      show ofLabels (l :: ms) = ofLabels [l] ++ '.' :: ofLabels ms
      rw [ofLabels_cons l hms, ofLabels_singleton]
    | cons l' ls =>
      rw [List.cons_append, ofLabels_cons l (by simp), ih (by simp), ofLabels_cons l (by simp),
        List.append_assoc, List.cons_append]

/-- Joined labels end as the last of them does, unless that is empty. -/
theorem getLast?_ofLabels_concat (ls : List Text) {label : Text} (hne : label ≠ []) :
    (ofLabels (ls ++ [label])).getLast? = label.getLast? := by
  by_cases hls : ls = []
  · rw [hls, List.nil_append, ofLabels_singleton]
  · rw [ofLabels_append hls (by simp), ofLabels_singleton, List.append_cons,
      List.getLast?_append_of_ne_nil _ hne]

/-- A row of labels that are not empty ends in no dot. -/
theorem getLast?_ofLabels_ne {ls : List Text} (hls : ls ≠ []) (hne : ∀ l ∈ ls, l ≠ [])
    (hdots : ∀ l ∈ ls, '.' ∉ l) : (ofLabels ls).getLast? ≠ some '.' := by
  obtain ⟨front, label, rfl⟩ := (List.eq_nil_or_concat ls).resolve_left hls
  rw [List.concat_eq_append] at *
  rw [getLast?_ofLabels_concat front (hne label (by simp))]
  exact fun he => hdots label (by simp) (List.mem_of_getLast? he)

theorem ofLabels_ne_nil {ls : List Text} (hls : ls ≠ []) (hne : ∀ l ∈ ls, l ≠ []) :
    ofLabels ls ≠ [] := by
  obtain ⟨front, label, rfl⟩ := (List.eq_nil_or_concat ls).resolve_left hls
  rw [List.concat_eq_append] at *
  intro hnil
  have hlast := getLast?_ofLabels_concat front (hne label (by simp))
  rw [hnil, List.getLast?_nil, eq_comm, List.getLast?_eq_none_iff] at hlast
  exact hne label (by simp) hlast

/-- The last dot of a row of labels stands in front of the last one. -/
theorem splitLast_ofLabels_concat {ls : List Text} {label : Text} (hne : ls ≠ [])
    (hlabel : '.' ∉ label) :
    Text.splitLast '.' (ofLabels (ls ++ [label])) = some (ofLabels ls, label) := by
  rw [ofLabels_append hne (by simp), ofLabels_singleton]
  exact Text.splitLast_append_cons _ hlabel

/-- The first dot of a row of labels stands behind the first one. -/
theorem splitFirst_ofLabels_cons {ls : List Text} {label : Text} (hne : ls ≠ [])
    (hlabel : '.' ∉ label) :
    Text.splitFirst '.' (ofLabels (label :: ls)) = some (label, ofLabels ls) := by
  rw [ofLabels_cons label hne]
  exact Text.splitFirst_eq_some_iff.mpr ⟨rfl, hlabel⟩

/-! ## §3. The final dot. -/

/-- Only the empty name and names that end in a dot have an empty last label. -/
theorem getLast?_labels_ne {name : Text} (hne : name ≠ []) (hlast : name.getLast? ≠ some '.') :
    (labels name).getLast? ≠ some [] := by
  intro h
  obtain ⟨front, hls⟩ := List.getLast?_eq_some_iff.mp h
  have hname : name = ofLabels (front ++ [[]]) := by rw [← hls, ofLabels_labels]
  by_cases hfront : front = []
  · rw [hfront, List.nil_append, ofLabels_singleton] at hname
    exact hne hname
  · rw [ofLabels_append hfront (by simp), ofLabels_singleton] at hname
    rw [hname] at hlast
    simp at hlast

theorem dropFinalDot_append_dot (body : Text) : dropFinalDot (body ++ ['.']) = body := by
  unfold dropFinalDot
  rw [if_pos (by simp), List.dropLast_concat]

theorem dropFinalDot_of_getLast?_ne {name : Text} (h : name.getLast? ≠ some '.') :
    dropFinalDot name = name := by
  unfold dropFinalDot
  rw [if_neg h]

/-- What stands in front of a name has no part in its final dot. -/
theorem dropFinalDot_append (t : Text) {name : Text} (hne : name ≠ []) :
    dropFinalDot (t ++ name) = t ++ dropFinalDot name := by
  unfold dropFinalDot
  rw [List.getLast?_append_of_ne_nil _ hne, List.dropLast_append_of_ne_nil hne]
  split <;> rfl

/-- The dot that may close a name is not the one behind a label in front. -/
theorem labels_dropFinalDot_append_dot {label name : Text} (hdot : '.' ∉ label) (hne : name ≠ []) :
    labels (dropFinalDot (label ++ '.' :: name)) = label :: labels (dropFinalDot name) := by
  rw [List.append_cons, dropFinalDot_append _ hne, List.append_assoc, List.singleton_append,
    labels_append_dot_cons hdot]

theorem append_dot_ne_dot {label name : Text} (hne : name ≠ []) : label ++ '.' :: name ≠ ['.'] := by
  intro heq
  have hlen := congrArg List.length heq
  have hpos := List.length_pos_iff.mpr hne
  rw [List.length_append, List.length_cons, List.length_singleton] at hlen
  omega

/-- A name either ends in a dot, or is left as it is. -/
theorem dropFinalDot_cases (name : Text) :
    (∃ body, name = body ++ ['.'] ∧ dropFinalDot name = body) ∨
      dropFinalDot name = name ∧ name.getLast? ≠ some '.' := by
  by_cases h : name.getLast? = some '.'
  · obtain ⟨body, rfl⟩ := List.getLast?_eq_some_iff.mp h
    exact .inl ⟨body, rfl, dropFinalDot_append_dot body⟩
  · exact .inr ⟨dropFinalDot_of_getLast?_ne h, h⟩

/-! ## §4. The normal form. -/

/-- Joined labels in small letters are the labels in small letters, joined. -/
theorem lower_ofLabels (ls : List Text) :
    Text.lower (ofLabels ls) = ofLabels (ls.map Text.lower) := by
  induction ls with
  | nil => rfl
  | cons l ls ih =>
    by_cases hls : ls = []
    · subst hls
      rw [ofLabels_singleton, List.map_cons, List.map_nil, ofLabels_singleton]
    · rw [ofLabels_cons l hls, List.map_cons, ofLabels_cons _ (by simpa using hls),
        Text.lower_append, Text.lower_cons, ih]
      rfl

/-- A name in small letters has the labels of the name in small letters: no other
character becomes a dot, and the dot stays one. -/
theorem labels_lower (name : Text) : labels (Text.lower name) = (labels name).map Text.lower := by
  have hdots : ∀ l ∈ (labels name).map Text.lower, '.' ∉ l := by
    intro l hl
    obtain ⟨l', hl', rfl⟩ := List.mem_map.mp hl
    rw [Text.mem_lower_iff (by decide)]
    exact not_mem_labels hl'
  have hne : (labels name).map Text.lower ≠ [] := by
    rw [ne_eq, List.map_eq_nil_iff]
    exact labels_ne_nil name
  conv_lhs => rw [← ofLabels_labels name, lower_ofLabels]
  exact labels_ofLabels hne hdots

/-- **The normal form of a name** has the labels of the name without its final
dot, in small letters. -/
theorem labels_clean (name : Text) :
    labels (clean name) = (labels (dropFinalDot name)).map Text.lower := by
  unfold clean
  rw [labels_lower]

end DomainScope.Name
