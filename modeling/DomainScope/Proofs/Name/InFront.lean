/-
  DomainScope.Proofs.Name.InFront
  ───────────────────────────────
  **WHAT CAN STAND IN FRONT OF A NAME.**

  A piece without dots, a dot and a name make a longer name exactly if the piece
  is a label and the whole is not too long.  Two checks of their own are measured
  by that.  The check of single labels draws the same boundary, save that it
  refuses underscores and double hyphens.  The check of wildcard names looks only
  at what follows the star and its dot; a letter in place of the star gives a
  name, unless what follows is the root, or the two characters in front make the
  whole too long.

  Main results
    `validate_append_dot_iff`           what makes a longer name
    `isLabel_iff`                       the check of single labels
    `isLabel_iff_validate_append_dot`   the same in front of a name
    `validate_instantiate_iff`          a letter in place of the star
-/
import DomainScope.Proofs.Name.FirstLabel
import DomainScope.Proofs.Text.Lines

namespace DomainScope.Name

variable {policy : Policy} {label name : Text}

/-! ## §1. A label in front of a name. -/

/-- **A piece without dots in front of a name makes a longer name** exactly if
it is a label and the whole is not too long. -/
theorem validate_append_dot_iff (hdot : '.' ∉ label) (hname : validate policy name = .ok ())
    (hroot : name ≠ ['.']) :
    validate policy (label ++ '.' :: name) = .ok () ↔
      IsNameLabel label ∧
        Text.byteLength label + 1 + Text.byteLength (dropFinalDot name) ≤ maxLength := by
  have hne := ne_nil_of_validate hname
  have hbody := (validate_eq_ok_iff hroot).mp hname
  rw [validate_eq_ok_iff (append_dot_ne_dot hne), labels_dropFinalDot_append_dot hdot hne]
  constructor
  · intro h
    have hle := h.length_le
    rw [byteLength_ofLabels_cons label (labels_ne_nil _), ofLabels_labels] at hle
    exact ⟨h.areLabels label List.mem_cons_self, hle⟩
  · intro hyp
    obtain ⟨hlabel, hfits⟩ := hyp
    apply isName_cons (labels_ne_nil _) hlabel hbody.areLabels
    · rwa [ofLabels_labels]
    · exact hbody.named

/-! ## §2. Single labels. -/

/-- **The check of single labels accepts labels** without underscores and double
hyphens. -/
theorem isLabel_iff :
    isLabel label = true ↔ IsNameLabel label ∧ '_' ∉ label ∧ ¬ ['-', '-'] <:+: label := by
  have hoccurs : Text.occurs ['-', '-'] label = false ↔ ¬ ['-', '-'] <:+: label := by
    rw [← Text.occurs_iff, Bool.not_eq_true]
  unfold isLabel
  simp only [Bool.and_eq_true, decide_eq_true_eq, Bool.not_eq_true', hoccurs, List.all_eq_true,
    Bool.or_eq_true]
  constructor
  · intro hyp
    obtain ⟨⟨⟨⟨⟨hpos, hle⟩, hhead⟩, hlast⟩, hhyphens⟩, hchars⟩ := hyp
    refine ⟨⟨hpos, hle, ?_, hhead, hlast⟩, ?_, hhyphens⟩
    · intro c hc
      exact (hchars c hc).imp_right .inr
    · intro hmem
      exact absurd (hchars '_' hmem) (by decide)
  · intro hyp
    obtain ⟨hlabel, hunderscore, hhyphens⟩ := hyp
    refine ⟨⟨⟨⟨⟨hlabel.length_pos, hlabel.length_le⟩, hlabel.head_ne⟩, hlabel.last_ne⟩,
      hhyphens⟩, ?_⟩
    intro c hc
    -- Of what can stand in a label, only the underscore is refused.
    rcases hlabel.chars c hc with halnum | rfl | hhyphen
    · exact .inl halnum
    · exact absurd hc hunderscore
    · exact .inr hhyphen

/-- **The two checks draw the same boundary**: in front of a name of two labels
or more, with room for both, a single label is what holds no dot, no underscore
and no double hyphen and makes a longer name. -/
theorem isLabel_iff_validate_append_dot (hstrict : policy.acceptsRootAndBareTld = false)
    (hname : validate policy name = .ok ())
    (hfits : Text.byteLength label + 1 + Text.byteLength (dropFinalDot name) ≤ 253) :
    isLabel label = true ↔
      '.' ∉ label ∧ '_' ∉ label ∧ ¬ ['-', '-'] <:+: label ∧
        validate policy (label ++ '.' :: name) = .ok () := by
  have hroot := ne_dot_of_strict hstrict hname
  rw [isLabel_iff]
  constructor
  · intro hyp
    obtain ⟨hlabel, hunderscore, hhyphens⟩ := hyp
    have hlong := (validate_append_dot_iff hlabel.not_mem_dot hname hroot).mpr ⟨hlabel, hfits⟩
    exact ⟨hlabel.not_mem_dot, hunderscore, hhyphens, hlong⟩
  · intro hyp
    obtain ⟨hdot, hunderscore, hhyphens, hlong⟩ := hyp
    exact ⟨((validate_append_dot_iff hdot hname hroot).mp hlong).1, hunderscore, hhyphens⟩

/-- A label of 63 bytes that fills a name of greatest length. -/
theorem isLabel_fills_longest_name :
    let label : Text := List.replicate 62 'a' ++ ['1']
    let name := ofLabels [List.replicate 63 'b', List.replicate 63 'c', List.replicate 61 'd']
    ({} : Policy).acceptsRootAndBareTld = false ∧ validate {} name = .ok () ∧
      Text.byteLength label + 1 + Text.byteLength (dropFinalDot name) = 253 ∧
      isLabel label = true ∧ validate {} (label ++ '.' :: name) = .ok () := by
  intro label name
  have hname : validate {} name = .ok () := by decide +kernel
  have hfits : Text.byteLength label + 1 + Text.byteLength (dropFinalDot name) = 253 := by
    decide +kernel
  have hlabel : isLabel label = true := by decide +kernel
  have hboth := (isLabel_iff_validate_append_dot rfl hname (Nat.le_of_eq hfits)).mp hlabel
  exact ⟨rfl, hname, hfits, hlabel, hboth.2.2.2⟩

/-! ## §3. Wildcard names. -/

/-- A wildcard name with a character in place of its star. -/
def instantiate (name : Text) (c : Char) : Text := name.set 0 c

/-- A wildcard name is a star, a dot and a name. -/
theorem isWildcard_iff :
    isWildcard policy name = true ↔
      ∃ rest, name = '*' :: '.' :: rest ∧ validate policy rest = .ok () := by
  unfold isWildcard
  constructor
  · intro h
    split at h
    next rest hrest =>
      exact ⟨rest, (List.isPrefixOf?_eq_some_iff_append_eq.mp hrest).symm, isValid_iff.mp h⟩
    next => cases h
  · intro hyp
    obtain ⟨rest, rfl, hrest⟩ := hyp
    exact isValid_iff.mpr hrest

/-- A letter or a digit alone is a label. -/
theorem isNameLabel_singleton {c : Char} (hc : c.isAlphanum) : IsNameLabel [c] := by
  have hlen : Text.byteLength [c] = 1 := Text.utf8Size_of_isAlphanum hc
  apply isNameLabel_of_isAlphanum
  · exact Nat.le_of_eq hlen.symm
  · rw [hlen]
    decide
  · intro d hd
    rwa [List.mem_singleton.mp hd]

/-- **A letter or a digit in place of the star gives a name**, whichever it is,
unless the root stands behind the star or the whole is too long for a name. -/
theorem validate_instantiate_iff (h : isWildcard policy name = true) {c : Char}
    (hc : c.isAlphanum) :
    validate policy (instantiate name c) = .ok () ↔
      name ≠ "*..".toList ∧ Text.byteLength (dropFinalDot name) ≤ 253 := by
  obtain ⟨rest, rfl, hrest⟩ := isWildcard_iff.mp h
  have hne := ne_nil_of_validate hrest
  show validate policy ([c] ++ '.' :: rest) = .ok () ↔ _
  by_cases hroot : rest = ['.']
  · -- Behind a label the root is an empty label.
    subst hroot
    refine iff_of_false ?_ ?_
    · intro hlong
      exact ne_dot_of_validate hlong rfl
    · intro hyp
      exact hyp.1 rfl
  · have hstar : '*' :: '.' :: rest ≠ "*..".toList := by
      intro heq
      exact hroot (List.cons.inj (List.cons.inj heq).2).2
    have hdot : '.' ∉ [c] := (isNameLabel_singleton hc).not_mem_dot
    have hsize : Text.byteLength [c] = 1 := Text.utf8Size_of_isAlphanum hc
    -- A star takes as many bytes as a letter, so the whole stays as long as it was.
    have hlen : Text.byteLength (dropFinalDot ('*' :: '.' :: rest))
        = 1 + 1 + Text.byteLength (dropFinalDot rest) := by
      show Text.byteLength (dropFinalDot (['*', '.'] ++ rest)) = _
      rw [dropFinalDot_append _ hne, Text.byteLength_append]
      rfl
    rw [validate_append_dot_iff hdot hrest hroot, hlen, hsize]
    exact and_congr (iff_of_true (isNameLabel_singleton hc) hstar) Iff.rfl

/-- With 251 bytes behind the star there is room for a letter. -/
theorem validate_instantiate_longest :
    let name := '*' :: '.' :: ofLabels [List.replicate 63 'b', List.replicate 63 'c',
      List.replicate 63 'd', List.replicate 59 'e']
    isWildcard {} name = true ∧ 'a'.isAlphanum ∧ name ≠ "*..".toList ∧
      Text.byteLength (dropFinalDot name) = 253 ∧ validate {} (instantiate name 'a') = .ok () := by
  intro name
  have hwildcard : isWildcard {} name = true := by decide +kernel
  have hne : name ≠ "*..".toList := by decide +kernel
  have hlen : Text.byteLength (dropFinalDot name) = 253 := by decide +kernel
  have hletter : 'a'.isAlphanum := by decide
  have hvalid := (validate_instantiate_iff hwildcard hletter).mpr ⟨hne, Nat.le_of_eq hlen⟩
  exact ⟨hwildcard, hletter, hne, hlen, hvalid⟩

/-- A wildcard at the root with a dot too many, and one in front of a name of
greatest length, are accepted; `a` in place of the star leaves an empty label in
the first, and the second is too long. -/
theorem isWildcard_without_instance :
    let long := '*' :: '.' :: ofLabels [List.replicate 63 'b', List.replicate 63 'c',
      List.replicate 63 'd', List.replicate 61 'e']
    (isWildcard ⟨true, true⟩ "*..".toList = true ∧
      validate ⟨true, true⟩ (instantiate "*..".toList 'a')
        = .error ⟨"a..".toList, .emptyLabel⟩) ∧
    isWildcard {} long = true ∧
      validate {} (instantiate long 'a') = .error ⟨instantiate long 'a', .length⟩ := by
  decide +kernel

end DomainScope.Name
