/-
  DomainScope.Proofs.Name.FirstLabel
  ──────────────────────────────────
  **NAMES WITH ANOTHER FIRST LABEL.**

  A row of labels stays a name when another label takes the place of the first
  one, as long as the whole still fits and what stays behind names.  A name with
  a subdomain has labels behind its first one, so its first label can be
  replaced.

  Main results
    `validate_ofLabels`      a row of labels that is a name is accepted
    `isName_cons`            a label in front of labels that name
    `labels_of_hasSub`       the labels of a name with a subdomain
-/
import DomainScope.Proofs.Name.Parts

namespace DomainScope

namespace Name

variable {policy : Policy}

/-! ## §1. Lengths of rows of labels. -/

theorem byteLength_ofLabels_cons (label : Text) {ls : List Text} (h : ls ≠ []) :
    Text.byteLength (ofLabels (label :: ls))
      = Text.byteLength label + 1 + Text.byteLength (ofLabels ls) := by
  have hdot : ('.' : Char).utf8Size = 1 := by decide
  rw [ofLabels_cons label h, Text.byteLength_append, Text.byteLength_cons, hdot]
  omega

/-- The characters of a name are its bytes. -/
theorem byteLength_ofLabels {ls : List Text} (h : ∀ label ∈ ls, IsNameLabel label) :
    Text.byteLength (ofLabels ls) = (ofLabels ls).length := by
  induction ls with
  | nil => rfl
  | cons label ls ih =>
    obtain ⟨hlabel, hls⟩ := List.forall_mem_cons.mp h
    have hlen := byteLength_eq_length hlabel.chars
    by_cases hnil : ls = []
    · rw [hnil, ofLabels_singleton, hlen]
    · rw [byteLength_ofLabels_cons label hnil, ih hls, hlen, ofLabels_cons label hnil,
        List.length_append, List.length_cons]
      omega

/-! ## §2. Rows of labels that are names. -/

theorem IsName.labels_ne_nil {ls : List Text} (h : IsName policy ls) : ls ≠ [] := by
  intro hnil
  subst hnil
  exact absurd h.length_pos (by decide)

/-- **A row of labels that is a name is accepted.** -/
theorem validate_ofLabels {ls : List Text} (h : IsName policy ls) :
    validate policy (ofLabels ls) = .ok () := by
  have hdots : ∀ l ∈ ls, '.' ∉ l := fun l hl => (h.areLabels l hl).not_mem_dot
  have hlast := getLast?_ofLabels_ne h.labels_ne_nil
    (fun l hl => (h.areLabels l hl).ne_nil) hdots
  have hroot : ofLabels ls ≠ ['.'] := by
    intro heq
    rw [heq] at hlast
    exact hlast rfl
  rw [validate_eq_ok_iff hroot, dropFinalDot_of_getLast?_ne hlast,
    labels_ofLabels h.labels_ne_nil hdots]
  exact h

/-- **A label in front of labels that name**, where there is room. -/
theorem isName_cons {label : Text} {rest : List Text} (hrest : rest ≠ [])
    (hlabel : IsNameLabel label) (hlabels : ∀ l ∈ rest, IsNameLabel l)
    (hfits : Text.byteLength label + 1 + Text.byteLength (ofLabels rest) ≤ maxLength)
    (hnamed : ∃ c ∈ ofLabels rest, c.isAlpha ∨ c = '_') : IsName policy (label :: rest) := by
  have hlen := byteLength_ofLabels_cons label hrest
  have hpos := List.length_pos_iff.mpr hrest
  refine ⟨?_, ?_, List.forall_mem_cons.mpr ⟨hlabel, hlabels⟩, ?_, ?_⟩
  · omega
  · omega
  · intro _
    show 2 ≤ rest.length + 1
    omega
  · obtain ⟨c, hc, hnaming⟩ := hnamed
    refine ⟨c, ?_, hnaming⟩
    rw [ofLabels_cons label hrest]
    exact List.mem_append_right _ (List.mem_cons_of_mem _ hc)

/-- Another label in place of the first one. -/
theorem IsName.replaceFirst {first label : Text} {rest : List Text}
    (h : IsName policy (first :: rest)) (hrest : rest ≠ []) (hlabel : IsNameLabel label)
    (hfits : Text.byteLength label + 1 + Text.byteLength (ofLabels rest) ≤ maxLength)
    (hnamed : ∃ c ∈ ofLabels rest, c.isAlpha ∨ c = '_') : IsName policy (label :: rest) :=
  isName_cons hrest hlabel (List.forall_mem_cons.mp h.areLabels).2 hfits hnamed

end Name

/-! ## §3. Names with a subdomain. -/

namespace Decomposer

variable {d : Decomposer} {name : Text} {parts : Parts}

/-- One label alone has no subdomain, whatever its suffix. -/
theorem hasSub_partsAt_singleton (label : Text) (tld : List Text) :
    (partsAt [label] tld).hasSub = false := by
  have hfew : [label].length - tld.length = 0 ∨ [label].length - tld.length = 1 := by
    rw [List.length_singleton]
    omega
  unfold partsAt
  rcases hfew with h | h
  · rw [h]
    rfl
  · rw [h]
    rfl

/-- **A name with a subdomain has labels behind its first one.** -/
theorem labels_of_hasSub (hparts : d.decompose name = .ok parts) (hsub : parts.hasSub = true) :
    ∃ first rest, Name.labels (Name.clean name) = first :: rest ∧ rest ≠ [] ∧
      Name.IsName d.policy (first :: rest) := by
  have hvalid := validate_of_decompose hparts
  by_cases hroot : name = ['.']
  · subst hroot
    rw [decompose_root hvalid] at hparts
    cases hparts
    exact absurd hsub (by decide)
  · rw [decompose_of_valid hroot hvalid] at hparts
    cases hparts
    have hname := Name.isName_labels_clean hroot hvalid
    obtain ⟨first, rest, hls⟩ := List.exists_cons_of_ne_nil (Name.labels_ne_nil (Name.clean name))
    rw [hls] at hname hsub
    refine ⟨first, rest, hls, ?_, hname⟩
    intro hnil
    rw [hnil, hasSub_partsAt_singleton] at hsub
    exact absurd hsub (by decide)

end Decomposer

end DomainScope
