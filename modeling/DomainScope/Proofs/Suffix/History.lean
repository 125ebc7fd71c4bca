/-
  DomainScope.Proofs.Suffix.History
  ─────────────────────────────────
  **RULE LISTS AND WHAT WAS WRITTEN INTO THEM.**

  A rule list is built from a text or from nothing, and by adding rules one at a
  time.  Whatever the way, it holds each rule with the kind it was given last
  (`kindOf?_eq_some_iff`).

  Main results
    `Built.eq_insertAll`       a list is what its history adds to nothing
    `kindOf?_eq_some_iff`      the kind of a rule is the one given last
    `toSuffixList_insertAll`   looking up in the list is looking up in the history
-/
import DomainScope.Suffix.RuleList

namespace DomainScope.RuleList

/-! ## §1. Histories. -/

/-- The lists that can be built, each with the rules written into it and their
kinds, in order. -/
inductive Built : RuleList → List (Text × SuffixKind) → Prop where
  /-- Nothing is written. -/
  | empty : Built .empty []
  /-- A text is read. -/
  | parse {text : Text} {list : RuleList} (h : RuleList.parse text = .ok list) :
      Built list (writtenRulesOfText text)
  /-- A rule is added. -/
  | insert {list : RuleList} {history : List (Text × SuffixKind)} (h : Built list history)
      (written : Text) (kind : SuffixKind) :
      Built (list.insert written kind) (history ++ [(written, kind)])

/-- The kind that a history gives last to a rule, where `denotes` tells which
texts write the rule. -/
def GivenLast (denotes : Text → Rule → Prop) (history : List (Text × SuffixKind)) (rule : Rule)
    (kind : SuffixKind) : Prop :=
  ∃ before written after, history = before ++ (written, kind) :: after ∧ denotes written rule ∧
    ∀ entry ∈ after, ¬ denotes entry.1 rule

/-- A text that is read as a rule. -/
def Reads (written : Text) (rule : Rule) : Prop := Rule.read? written = some rule

/-- A list that was built by insertions is the empty one with all of them. -/
theorem Built.eq_insertAll {list : RuleList} {history : List (Text × SuffixKind)}
    (h : Built list history) : list = RuleList.empty.insertAll history := by
  induction h with
  | empty => rfl
  | parse h =>
    unfold RuleList.parse at h
    simp only at h
    split at h
    · exact absurd h (by simp)
    · exact (Except.ok.inj h).symm
  | insert h written kind ih =>
    rw [ih]
    unfold insertAll
    rw [List.foldl_append]
    rfl

/-! ## §2. The kind given last. -/

/-- **An insertion gives a kind to the rule that is read from the text, and leaves all
others as they are.** -/
theorem kindOf?_insert (list : RuleList) (written : Text) (kind : SuffixKind) (rule : Rule) :
    (list.insert written kind).kindOf? rule =
      if Rule.read? written = some rule then some kind else list.kindOf? rule := by
  unfold insert
  cases hread : Rule.read? written with
  | none => simp
  | some read => simp [kindOf?_add]

/-- What is given last after one more insertion in front: it was given later anyway, or
the one in front gave it and none behind. -/
theorem givenLast_cons_iff {denotes : Text → Rule → Prop} {history : List (Text × SuffixKind)}
    {written : Text} {given kind : SuffixKind} {rule : Rule} :
    GivenLast denotes ((written, given) :: history) rule kind ↔
      GivenLast denotes history rule kind ∨
        (denotes written rule ∧ given = kind ∧ ∀ entry ∈ history, ¬ denotes entry.1 rule) := by
  constructor
  · intro hyp
    obtain ⟨before, w, after, heq, hw, hafter⟩ := hyp
    cases before with
    | nil =>
      obtain ⟨⟨rfl, rfl⟩, rfl⟩ := List.cons.inj heq
      exact .inr ⟨hw, rfl, hafter⟩
    | cons entry before => exact .inl ⟨before, w, after, (List.cons.inj heq).2, hw, hafter⟩
  · intro hcases
    rcases hcases with ⟨before, w, after, rfl, hw, hafter⟩ | ⟨hw, rfl, hafter⟩
    · exact ⟨(written, given) :: before, w, after, rfl, hw, hafter⟩
    · exact ⟨[], written, history, rfl, hw, hafter⟩

theorem kindOf?_insertAll {list : RuleList} {history : List (Text × SuffixKind)} {rule : Rule}
    {kind : SuffixKind} :
    (list.insertAll history).kindOf? rule = some kind ↔
      GivenLast Reads history rule kind ∨
        (list.kindOf? rule = some kind ∧ ∀ entry ∈ history, ¬ Reads entry.1 rule) := by
  induction history generalizing list with
  | nil =>
    have hnone : ¬ GivenLast Reads [] rule kind := by
      intro hyp
      obtain ⟨before, w, after, heq, -⟩ := hyp
      simp at heq
    simp [insertAll, hnone]
  | cons entry history ih =>
    obtain ⟨written, given⟩ := entry
    show ((list.insert written given).insertAll history).kindOf? rule = some kind ↔ _
    -- What is written later than the first entry decides on both sides.
    rw [ih, givenLast_cons_iff, kindOf?_insert, List.forall_mem_cons, or_assoc]
    refine or_congr_right ?_
    by_cases hread : Reads written rule
    · have hread' : Rule.read? written = some rule := hread
      simp [hread, hread']
    · have hread' : ¬ Rule.read? written = some rule := hread
      simp [hread, hread']

/-- **The kind of a rule is the one it was given last.** -/
theorem kindOf?_eq_some_iff {list : RuleList} {history : List (Text × SuffixKind)}
    (h : Built list history) {rule : Rule} {kind : SuffixKind} :
    list.kindOf? rule = some kind ↔ GivenLast Reads history rule kind := by
  rw [h.eq_insertAll, kindOf?_insertAll]
  simp

/-! ## §3. Looking up in a history. -/

/-- The kind that a history gives last to a rule, if it gives one. -/
def kindIn? (history : List (Text × SuffixKind)) (rule : Rule) : Option SuffixKind :=
  (history.reverse.find? fun entry => Rule.read? entry.1 = some rule).map Prod.snd

/-- The list of a history, without a table of rules. -/
def ofHistory (history : List (Text × SuffixKind)) : SuffixList :=
  ⟨fun ls => walk (kindIn? history) [] .unmanaged ls.reverse⟩

theorem kindOf?_insertAll_eq_or (list : RuleList) (history : List (Text × SuffixKind))
    (rule : Rule) :
    (list.insertAll history).kindOf? rule = (kindIn? history rule).or (list.kindOf? rule) := by
  induction history generalizing list with
  | nil => rfl
  | cons entry history ih =>
    show ((list.insert entry.1 entry.2).insertAll history).kindOf? rule = _
    rw [ih, kindOf?_insert]
    unfold kindIn?
    rw [List.reverse_cons, List.find?_append, List.find?_singleton, Option.map_or, Option.or_assoc]
    congr 1
    by_cases hread : Rule.read? entry.1 = some rule <;> simp [hread]

/-- On an empty list, the kind of a rule is the one given last. -/
theorem kindOf?_insertAll_eq (history : List (Text × SuffixKind)) :
    (empty.insertAll history).kindOf? = kindIn? history := by
  funext rule
  rw [kindOf?_insertAll_eq_or, kindOf?_empty, Option.or_none]

theorem toSuffixList_insertAll (history : List (Text × SuffixKind)) :
    (empty.insertAll history).toSuffixList = ofHistory history := by
  unfold toSuffixList lookup ofHistory
  rw [kindOf?_insertAll_eq]

end DomainScope.RuleList
