/-
  DomainScope.Proofs.Suffix.Written
  ─────────────────────────────────
  **RULES AS THEY ARE WRITTEN.**

  A rule is written `base`, `*.base` or `!base`, where the base is a row of
  labels that are not empty and hold neither mark.  Large letters and dots at
  the end make no difference: what is written so is read as the rule it writes.

  Main results
    `read?_of_writes`        a rule well written is read as the rule it is
    `givenLast_writes_iff`   the kinds given to rules do not depend on whether
                             a history is read or taken as written
-/
import DomainScope.Proofs.Name.Labels
import DomainScope.Proofs.Suffix.History

namespace DomainScope

/-! ## §1. The three shapes. -/

/-- What stands in front of the base of a rule. -/
def RuleShape.mark : RuleShape → Text
  | .exact => []
  | .wildcard => ['*', '.']
  | .exception => ['!']

/-- A label of the base of a rule. -/
structure IsRuleLabel (label : Text) : Prop where
  ne_nil : label ≠ []
  no_dot : '.' ∉ label
  no_star : '*' ∉ label
  no_bang : '!' ∉ label

/-- A text that writes a rule as `base`, `*.base` or `!base`, with letters of
either case and any number of dots at the end. -/
def Writes (written : Text) (rule : Rule) : Prop :=
  ∃ base dots, base ≠ [] ∧ (∀ label ∈ base, IsRuleLabel label) ∧
    written = rule.shape.mark ++ Name.ofLabels base ++ List.replicate dots '.' ∧
    rule.base = base.map Text.lower

/-! ## §2. Reading what is written. -/

namespace IsRuleLabel

theorem lower {label : Text} (h : IsRuleLabel label) : IsRuleLabel (Text.lower label) := by
  refine ⟨?_, ?_, ?_, ?_⟩
  · rw [ne_eq, Text.lower_eq_nil_iff]
    exact h.ne_nil
  · rw [Text.mem_lower_iff (by decide)]
    exact h.no_dot
  · rw [Text.mem_lower_iff (by decide)]
    exact h.no_star
  · rw [Text.mem_lower_iff (by decide)]
    exact h.no_bang

end IsRuleLabel

/-- All dots at the end are dropped, however many. -/
theorem dropTrailing_append_replicate {t : Text} (h : t.getLast? ≠ some '.') (dots : Nat) :
    Text.dropTrailing '.' (t ++ List.replicate dots '.') = t := by
  have hdots : ∀ c ∈ List.replicate dots '.', decide (c = '.') = true := by
    intro c hc
    simp [List.eq_of_mem_replicate hc]
  unfold Text.dropTrailing
  rw [List.reverse_append, List.reverse_replicate, List.dropWhile_append_of_pos hdots]
  rcases List.eq_nil_or_concat t with rfl | ⟨front, c, rfl⟩
  · rfl
  · rw [List.concat_eq_append] at h ⊢
    have hc : c ≠ '.' := by simpa using h
    simp [hc]

/-- A rule ends in no dot. -/
theorem getLast?_mark_append_ne {mark : Text} {base : List Text} (hne : base ≠ [])
    (hbase : ∀ label ∈ base, IsRuleLabel label) :
    (mark ++ Name.ofLabels base).getLast? ≠ some '.' := by
  have hlabels : ∀ label ∈ base, label ≠ [] := fun l hl => (hbase l hl).ne_nil
  rw [List.getLast?_append_of_ne_nil _ (Name.ofLabels_ne_nil hne hlabels)]
  exact Name.getLast?_ofLabels_ne hne hlabels fun l hl => (hbase l hl).no_dot

/-- The base of an exact rule begins with no mark. -/
theorem read?_ofLabels {base : List Text} (hne : base ≠ [])
    (hbase : ∀ label ∈ base, IsRuleLabel label) :
    ∃ c cs, Name.ofLabels base = c :: cs ∧ c ≠ '!' ∧ c ≠ '*' := by
  obtain ⟨label, rest, rfl⟩ := List.exists_cons_of_ne_nil hne
  have hlabel := hbase label (by simp)
  obtain ⟨c, cs, rfl⟩ := List.exists_cons_of_ne_nil hlabel.ne_nil
  have hc : c ≠ '!' ∧ c ≠ '*' :=
    ⟨fun he => hlabel.no_bang (by simp [he]), fun he => hlabel.no_star (by simp [he])⟩
  by_cases hrest : rest = []
  · subst hrest
    exact ⟨c, cs, Name.ofLabels_singleton _, hc⟩
  · exact ⟨c, cs ++ '.' :: Name.ofLabels rest, Name.ofLabels_cons _ hrest, hc⟩

/-- **A text that writes a rule is read as that rule.** -/
theorem read?_of_writes {written : Text} {rule : Rule} (h : Writes written rule) :
    Rule.read? written = some rule := by
  obtain ⟨base, dots, hne, hbase, rfl, hrule⟩ := h
  obtain ⟨shape, rbase⟩ := rule
  simp only at hrule
  subst hrule
  have hne' : base.map Text.lower ≠ [] := by simpa using hne
  have hbase' : ∀ label ∈ base.map Text.lower, IsRuleLabel label := by
    intro label hl
    obtain ⟨l, hl', rfl⟩ := List.mem_map.mp hl
    exact (hbase l hl').lower
  have hlabels := Name.labels_ofLabels hne' fun l hl => (hbase' l hl).no_dot
  unfold Rule.read?
  rw [dropTrailing_append_replicate (getLast?_mark_append_ne hne hbase), Text.lower_append,
    Name.lower_ofLabels]
  -- Dots at the end are gone and the letters are small; the mark tells the shape.
  cases shape with
  | exact =>
    obtain ⟨c, cs, htext, hbang, hstar⟩ := read?_ofLabels hne' hbase'
    rw [htext] at hlabels
    simp only [RuleShape.mark, Text.lower_nil, List.nil_append, htext, hlabels]
    split
    · simp at *
    · simp_all
    · simp_all
    · rfl
  | wildcard =>
    show some (⟨.wildcard, Name.labels (Name.ofLabels (base.map Text.lower))⟩ : Rule) = _
    rw [hlabels]
  | exception =>
    show some (⟨.exception, Name.labels (Name.ofLabels (base.map Text.lower))⟩ : Rule) = _
    rw [hlabels]

/-- No text writes two rules. -/
theorem Writes.unique {written : Text} {rule rule' : Rule} (h : Writes written rule)
    (h' : Writes written rule') : rule = rule' :=
  Option.some.inj ((read?_of_writes h).symm.trans (read?_of_writes h'))

/-- For well-written texts, to write a rule and to be read as it is the same. -/
theorem writes_iff_reads {written : Text} {rule : Rule} (h : ∃ r, Writes written r) :
    Writes written rule ↔ RuleList.Reads written rule := by
  constructor
  · exact read?_of_writes
  · intro hread
    obtain ⟨r, hr⟩ := h
    have heq := (read?_of_writes hr).symm.trans hread
    rwa [← Option.some.inj heq]

/-! ## §3. Histories of rules well written. -/

/-- Every rule of a history is written in one of the three shapes. -/
def WellWritten (history : List (Text × SuffixKind)) : Prop :=
  ∀ entry ∈ history, ∃ rule, Writes entry.1 rule

theorem base_ne_nil_of_writes {written : Text} {rule : Rule} (h : Writes written rule) :
    rule.base ≠ [] := by
  obtain ⟨base, dots, hne, -, -, hrule⟩ := h
  rw [hrule]
  simpa using hne

theorem givenLast_writes_iff {history : List (Text × SuffixKind)} (h : WellWritten history)
    {rule : Rule} {kind : SuffixKind} :
    RuleList.GivenLast Writes history rule kind ↔
      RuleList.GivenLast RuleList.Reads history rule kind := by
  unfold RuleList.GivenLast
  constructor
  · intro hyp
    obtain ⟨before, written, after, rfl, hw, hafter⟩ := hyp
    refine ⟨before, written, after, rfl, read?_of_writes hw, ?_⟩
    intro entry hmem
    rw [← writes_iff_reads (h entry (by simp [hmem]))]
    exact hafter entry hmem
  · intro hyp
    obtain ⟨before, written, after, rfl, hr, hafter⟩ := hyp
    refine ⟨before, written, after, rfl, ?_, ?_⟩
    · exact (writes_iff_reads (h (written, kind) (by simp))).mpr hr
    · intro entry hmem
      rw [writes_iff_reads (h entry (by simp [hmem]))]
      exact hafter entry hmem

end DomainScope
