/-
  DomainScope.Proofs.Suffix.Snapshot
  ──────────────────────────────────
  **THE LIST THAT COMES WITH THE LIBRARY AS A LIST OF RULES.**

  The rules of the library are searched as a tree; read from a file they make a
  list of rules.  The two answer alike but for the names whose own node hides a
  wildcard.  Below such a name nothing differs, since each of them has a
  wildcard of its own.  What this needs of the rules is checked on them by
  evaluation (`rules_checked`); the rest holds of any rules that pass.

  Main results
    `losesWildcard_iff_mem`         the names that lose a wildcard
    `exists_parse_shows`            a text of plain rules is read into these rules
    `publicSuffix_eq_iff_not_mem`   the two lists answer alike but for three names
    `load_file_answers`             switching to the same rules in a file
-/
import DomainScope.Proofs.Name.Parts
import DomainScope.Proofs.Suffix.Descent
import DomainScope.Proofs.Suffix.ListText
import DomainScope.Proofs.Text.Utf8
import DomainScope.Suffix.Source

namespace DomainScope

open RuleList (NoException IsCovered Reads)

section

variable {rules : List (Rule × SuffixKind)} {kindOf? : Rule → Option SuffixKind}
variable {rule : Rule} {kind kind' : SuffixKind} {tails : List (List Text)} {tail ls : List Text}

/-! ## §1. Names that lose a wildcard. -/

/-- The tails of rules that hide a wildcard are these, each with a wildcard of
its own and with no exception. -/
structure HidesExactly (rules : List (Rule × SuffixKind)) (tails : List (List Text)) : Prop where
  complete : ∀ entry ∈ rules, ∀ tail ∈ entry.1.base.tails,
    (LabelTree.ofRules rules).Hides tail → tail ∈ tails
  hides : ∀ tail ∈ tails, (LabelTree.ofRules rules).Hides tail
  own : ∀ tail ∈ tails, (LabelTree.ofRules rules).hasNode (tail.reverse ++ [['*']]) = true
  exceptions : ∀ tail ∈ tails, ∀ entry ∈ rules,
    entry.1.shape = .exception → ¬ entry.1.base <:+ tail

instance (rules : List (Rule × SuffixKind)) (tails : List (List Text)) :
    Decidable (HidesExactly rules tails) :=
  decidable_of_iff
    ((∀ entry ∈ rules, ∀ tail ∈ entry.1.base.tails,
        (LabelTree.ofRules rules).Hides tail → tail ∈ tails) ∧
      (∀ tail ∈ tails, (LabelTree.ofRules rules).Hides tail) ∧
      (∀ tail ∈ tails, (LabelTree.ofRules rules).hasNode (tail.reverse ++ [['*']]) = true) ∧
      ∀ tail ∈ tails, ∀ entry ∈ rules, entry.1.shape = .exception → ¬ entry.1.base <:+ tail)
    ⟨fun ⟨h1, h2, h3, h4⟩ => ⟨h1, h2, h3, h4⟩, fun ⟨h1, h2, h3, h4⟩ => ⟨h1, h2, h3, h4⟩⟩

theorem HidesExactly.mem (h : HidesExactly rules tails) (hstar : ['*'] ∉ tail)
    (hhides : (LabelTree.ofRules rules).Hides tail) : tail ∈ tails := by
  obtain ⟨entry, hmem, hprefix⟩ := LabelTree.hasNode_iff.mp hhides.node
  rcases LabelTree.prefix_path_cases hprefix with hbase | ⟨-, heq⟩
  · exact h.complete entry hmem tail ((List.mem_tails _ _).mpr (List.reverse_prefix.mp hbase)) hhides
  · refine absurd ?_ hstar
    rw [← List.mem_reverse, heq]
    exact List.mem_append_right _ List.mem_cons_self

/-- **Only the hidden tails themselves lose a wildcard**: a longer name is
covered by the wildcard that the tail has. -/
theorem losesWildcard_iff_mem (hplain : PlainRules rules) (hshows : Shows kindOf? rules)
    (h : HidesExactly rules tails) (hstar : ['*'] ∉ ls) :
    (NoException kindOf? ls ∧ ∃ tail, LosesWildcard (.ofRules rules) kindOf? ls tail) ↔
      ls ∈ tails := by
  constructor
  · intro hyp
    obtain ⟨-, tail, hloses⟩ := hyp
    have hmem : tail ∈ tails := h.mem (fun hin => hstar (hloses.isTail.subset hin)) hloses.hides
    obtain ⟨front, hfront⟩ := hloses.isTail
    rcases List.eq_nil_or_concat front with rfl | ⟨front', label, rfl⟩
    · exact hfront ▸ hmem
    · obtain ⟨kind, hwild⟩ := (LabelTree.hasNode_star_iff hplain).mp (h.own tail hmem)
      have hcovered : IsCovered kindOf? ls (label :: tail) kind := by
        refine ⟨⟨front', by rw [← hfront, List.concat_append]⟩, ?_⟩
        rw [RuleList.tailKind?_cons, (hshows _ _).mpr hwild]
        rfl
      exact absurd (hloses.longest _ _ hcovered) (Nat.not_succ_le_self _)
  · intro hmem
    refine ⟨?_, ls, List.suffix_rfl, h.hides ls hmem, fun other k hc => hc.isTail.length_le⟩
    intro base k he
    exact h.exceptions ls hmem _ ((hshows _ _).mp he.hasKind) rfl he.isTail

/-! ## §2. Plain rules read from a text. -/

theorem PlainRules.kind_unique (h : PlainRules rules) (hmem : (rule, kind) ∈ rules)
    (hmem' : (rule, kind') ∈ rules) : kind = kind' := by
  have hpath : (TreeRule.ofRule rule kind).path = (TreeRule.ofRule rule kind').path := by
    obtain ⟨shape, base⟩ := rule
    cases shape <;> rfl
  exact congrArg Prod.snd (List.inj_on_of_nodup_map h.paths hmem hmem' hpath)

theorem mem_rulesOfText_iff {source : Text} : (rule, kind) ∈ rulesOfText source ↔
    ∃ written, (written, kind) ∈ writtenRulesOfText source ∧ Reads written rule := by
  unfold rulesOfText
  rw [List.mem_filterMap]
  constructor
  · intro hyp
    obtain ⟨⟨written, given⟩, hmem, hread⟩ := hyp
    obtain ⟨read, hreads, heq⟩ := Option.map_eq_some_iff.mp hread
    cases heq
    exact ⟨written, hmem, hreads⟩
  · intro hyp
    obtain ⟨written, hmem, hreads⟩ := hyp
    exact ⟨(written, kind), hmem, Option.map_eq_some_iff.mpr ⟨rule, hreads, rfl⟩⟩

/-- A text of plain rules is read into a list that shows these rules. -/
theorem exists_parse_shows {source : Text} (h : PlainRules (rulesOfText source))
    (hne : rulesOfText source ≠ []) :
    ∃ list, RuleList.parse source = .ok list ∧ Shows list.kindOf? (rulesOfText source) := by
  have hshows : Shows (RuleList.ofText source).kindOf? (rulesOfText source) := by
    intro rule kind
    rw [mem_rulesOfText_iff]
    refine RuleList.kindOf?_insertAll_iff_of_apart ?_
    -- A rule that is written twice is written twice with the same kind.
    intro entry hmem other hother rule hreads hreads'
    exact h.kind_unique (mem_rulesOfText_iff.mpr ⟨_, hmem, hreads⟩)
      (mem_rulesOfText_iff.mpr ⟨_, hother, hreads'⟩)
  have hsize : (RuleList.ofText source).size ≠ 0 := by
    obtain ⟨keys, hcard, hkeys⟩ := (RuleList.ofText source).exists_keys
    obtain ⟨⟨rule, kind⟩, hmem⟩ := List.exists_mem_of_ne_nil _ hne
    have hkey : rule ∈ keys := (hkeys rule).mpr ⟨kind, (hshows rule kind).mpr hmem⟩
    rw [hcard]
    exact Finset.card_ne_zero_of_mem hkey
  refine ⟨RuleList.ofText source, ?_, hshows⟩
  unfold RuleList.parse
  exact if_neg hsize

/-! ## §3. The root name. -/

theorem ofLabels_lastLabels_root (count : Nat) :
    Name.ofLabels (lastLabels count [[]]) = [] := by
  cases count with
  | zero => rfl
  | succ count => simp [lastLabels]

/-- A search in a tree finds nothing for the root name. -/
theorem publicSuffix_root_tree (tree : LabelTree) :
    (Builtin.list tree.search).publicSuffix [] = ([], .unmanaged) := by
  have hsearch : tree.search [] = none := by
    unfold LabelTree.search
    simp only [Name.labels_nil, ofLabels_lastLabels_root]
    rfl
  have hlookup : Builtin.lookup tree.search [[]] = .unmanaged := by
    unfold Builtin.lookup
    simp only [Name.ofLabels_singleton, hsearch]
  show (Name.ofLabels (lastLabels (Builtin.lookup tree.search [[]]).count [[]]),
    (Builtin.lookup tree.search [[]]).kind) = _
  rw [hlookup]
  rfl

/-- No plain rule covers the root name. -/
theorem publicSuffix_root_rules {list : RuleList} (h : PlainRules rules)
    (hshows : Shows list.kindOf? rules) :
    list.toSuffixList.publicSuffix [] = ([], .unmanaged) := by
  have hnone : ∀ shape, list.kindOf? ⟨shape, [[]]⟩ = none := by
    intro shape
    rw [hshows.eq_none_iff]
    intro kind hmem
    exact (h.labels _ hmem).2 List.mem_cons_self
  have hwild : list.kindOf? ⟨.wildcard, []⟩ = none := by
    rw [hshows.eq_none_iff]
    intro kind hmem
    exact h.ne_nil _ hmem rfl
  have hlookup : list.lookup [[]] = .unmanaged := by
    show RuleList.walk list.kindOf? [] .unmanaged [[]] = _
    rw [RuleList.walk_cons_of_uncovered (hnone .exception)]
    · rfl
    · rw [RuleList.tailKind?_cons, hwild, hnone]
      rfl
  show (Name.ofLabels (lastLabels (list.lookup [[]]).count [[]]), (list.lookup [[]]).kind) = _
  rw [hlookup]
  rfl

end

/-! ## §4. The rules of the library. -/

namespace Snapshot

/-- The names whose own node hides a wildcard. -/
def hiddenNames : List Text :=
  ["ex.futurecms.at".toList, "in.futurecms.at".toList, "svc.firenet.ch".toList]

set_option maxRecDepth 20000 in
/-- The rules are plain, and what they hide are the three names. -/
theorem rules_checked :
    PlainRules rules ∧ HidesExactly rules (hiddenNames.map Name.labels) ∧ rules ≠ [] := by
  decide +kernel

variable {policy : Policy} {written : Text}

/-- No label of an accepted name is empty or the mark of a wildcard. -/
theorem labels_clean_ne (hroot : written ≠ ['.']) (h : Name.validate policy written = .ok ()) :
    ∀ l ∈ Name.labels (Name.clean written), l ≠ [] ∧ l ≠ ['*'] := by
  have hname := Name.isName_labels_clean hroot h
  intro l hl
  refine ⟨(hname.areLabels l hl).ne_nil, ?_⟩
  intro hstar
  have hchar := (hname.areLabels l hl).chars '*' (by rw [hstar]; exact List.mem_cons_self)
  revert hchar
  unfold Name.IsLabelChar
  decide

/-- **The two lists answer alike but for the three names.** -/
theorem publicSuffix_eq_iff_not_mem {rulesRead : RuleList} (hshows : Shows rulesRead.kindOf? rules)
    (h : Name.validate policy written = .ok ()) :
    list.publicSuffix (Name.clean written)
        = rulesRead.toSuffixList.publicSuffix (Name.clean written) ↔
      Name.clean written ∉ hiddenNames := by
  obtain ⟨hplain, hhides, -⟩ := rules_checked
  by_cases hroot : written = ['.']
  · have hclean : Name.clean ['.'] = [] := by decide
    rw [hroot, hclean]
    refine iff_of_true ?_ (by decide)
    exact (publicSuffix_root_tree tree).trans (publicSuffix_root_rules hplain hshows).symm
  · have hlabels := labels_clean_ne hroot h
    have hstar : ['*'] ∉ Name.labels (Name.clean written) := fun hmem => (hlabels _ hmem).2 rfl
    have hinjective : Function.Injective Name.labels :=
      Function.LeftInverse.injective Name.ofLabels_labels
    have hmem : Name.labels (Name.clean written) ∈ hiddenNames.map Name.labels ↔
        Name.clean written ∈ hiddenNames := List.mem_map_of_injective hinjective
    refine (publicSuffix_eq_iff hplain hshows hlabels).trans (not_congr ?_)
    rw [losesWildcard_iff_mem hplain hshows hhides hstar, hmem]

/-- **Switching to the same rules in a file** changes the answers to the three
names and no others. -/
theorem load_file_answers {readFile : FileReader} {path : Text}
    (hfile : readFile path = .ok (Text.toBytes text)) :
    ∃ fromFile, (SuffixSource.file path).load readFile = .ok fromFile ∧
      ∀ policy written, Name.validate policy written = .ok () →
        (list.publicSuffix (Name.clean written) = fromFile.publicSuffix (Name.clean written) ↔
          Name.clean written ∉ hiddenNames) := by
  obtain ⟨hplain, -, hne⟩ := rules_checked
  obtain ⟨rulesRead, hparse, hshows⟩ := exists_parse_shows hplain hne
  have hread : Text.ofBytes? (Text.toBytes text) = some text := Text.ofBytes?_eq_some_iff.mpr rfl
  have hload : RuleList.load path (readFile path) = .ok rulesRead := by
    rw [hfile, RuleList.load]
    simp only [hread, hparse]
  refine ⟨rulesRead.toSuffixList, ?_, fun policy written h => publicSuffix_eq_iff_not_mem hshows h⟩
  rw [SuffixSource.load, hload]
  rfl

/-- The rules of the library as a text are a list of rules, and it answers as
the library does to every accepted name but the three. -/
theorem answers_as_parsed (h : Name.validate policy written = .ok ()) :
    ∃ rulesRead, RuleList.parse text = .ok rulesRead ∧
      (list.publicSuffix (Name.clean written)
          = rulesRead.toSuffixList.publicSuffix (Name.clean written) ↔
        Name.clean written ∉ hiddenNames) := by
  obtain ⟨hplain, -, hne⟩ := rules_checked
  obtain ⟨rulesRead, hparse, hshows⟩ := exists_parse_shows hplain hne
  exact ⟨rulesRead, hparse, publicSuffix_eq_iff_not_mem hshows h⟩

/-- A name below a hidden wildcard, and the name itself. -/
theorem answers_as_parsed_futurecms :
    (Name.validate {} "A.EX.FutureCMS.at".toList = .ok () ∧ ∃ rulesRead,
      RuleList.parse text = .ok rulesRead ∧ list.publicSuffix "a.ex.futurecms.at".toList
        = rulesRead.toSuffixList.publicSuffix "a.ex.futurecms.at".toList) ∧
    (Name.validate {} "EX.FutureCMS.at.".toList = .ok () ∧ ∃ rulesRead,
      RuleList.parse text = .ok rulesRead ∧ list.publicSuffix "ex.futurecms.at".toList
        ≠ rulesRead.toSuffixList.publicSuffix "ex.futurecms.at".toList) := by
  have hbelow : Name.validate {} "A.EX.FutureCMS.at".toList = .ok () := by decide
  have hname : Name.validate {} "EX.FutureCMS.at.".toList = .ok () := by decide
  have hcleanBelow : Name.clean "A.EX.FutureCMS.at".toList = "a.ex.futurecms.at".toList := by decide
  have hclean : Name.clean "EX.FutureCMS.at.".toList = "ex.futurecms.at".toList := by decide
  obtain ⟨below, hparseBelow, hsame⟩ := answers_as_parsed hbelow
  obtain ⟨rulesRead, hparse, hdiffers⟩ := answers_as_parsed hname
  rw [hcleanBelow] at hsame
  rw [hclean] at hdiffers
  refine ⟨⟨hbelow, below, hparseBelow, hsame.mpr (by decide)⟩, hname, rulesRead, hparse, ?_⟩
  intro heq
  exact hdiffers.mp heq (by decide)

end Snapshot

end DomainScope
