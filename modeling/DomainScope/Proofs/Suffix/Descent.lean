/-
  DomainScope.Proofs.Suffix.Descent
  ─────────────────────────────────
  **THE TREE OF LABELS AGAINST THE LIST OF RULES.**

  The same rules can be asked in two ways: by descending the tree they span,
  and by walking over the tails of the name in a list.  The descent never looks
  back, so it passes by a wildcard where a node without a rule stands beside it.
  This is the only difference.  Side by side, descent and walk keep the
  invariant (`Abreast`) that the suffixes found so far are the same unless the
  longest tail covered so far is one that such a node hides, and then the
  descent has found fewer labels.

  Main results
    `Abreast.cons_*`         one label more
    `follows_descend`        the descent and the walk over a whole name
    `publicSuffix_eq_iff`    they answer alike unless a wildcard is hidden
-/
import DomainScope.Proofs.Name.Sliced
import DomainScope.Suffix.RuleList
import Mathlib.Data.List.Nodup

namespace DomainScope

open RuleList (IsCovered IsException NoException walk tailKind? tailKind?_cons)

/-! ## §1. Rules that span a tree. -/

/-- Rules that do not get in the way of one another. -/
structure PlainRules (rules : List (Rule × SuffixKind)) : Prop where
  /-- Only the mark of a wildcard is a star, and no label is empty. -/
  labels : ∀ entry ∈ rules, ['*'] ∉ entry.1.base ∧ [] ∉ entry.1.base
  ne_nil : ∀ entry ∈ rules, entry.1.base ≠ []
  /-- An exception leaves a suffix. -/
  exceptions : ∀ entry ∈ rules, entry.1.shape = .exception → 2 ≤ entry.1.base.length
  /-- A path ends in one rule. -/
  paths : (rules.map fun entry => (TreeRule.ofRule entry.1 entry.2).path).Nodup
  /-- What an exact rule covers, no wildcard covers. -/
  apart : ∀ entry ∈ rules, entry.1.shape = .exact →
    ∀ other ∈ rules, other.1 ≠ ⟨.wildcard, entry.1.base.tail⟩

instance (rules : List (Rule × SuffixKind)) : Decidable (PlainRules rules) :=
  decidable_of_iff
    ((∀ entry ∈ rules, ['*'] ∉ entry.1.base ∧ [] ∉ entry.1.base) ∧
      (∀ entry ∈ rules, entry.1.base ≠ []) ∧
      (∀ entry ∈ rules, entry.1.shape = .exception → 2 ≤ entry.1.base.length) ∧
      (rules.map fun entry => (TreeRule.ofRule entry.1 entry.2).path).Nodup ∧
      ∀ entry ∈ rules, entry.1.shape = .exact →
        ∀ other ∈ rules, other.1 ≠ ⟨.wildcard, entry.1.base.tail⟩)
    ⟨fun ⟨h1, h2, h3, h4, h5⟩ => ⟨h1, h2, h3, h4, h5⟩, fun ⟨h1, h2, h3, h4, h5⟩ =>
      ⟨h1, h2, h3, h4, h5⟩⟩

/-- The rules and their kinds that a list shows. -/
def Shows (kindOf? : Rule → Option SuffixKind) (rules : List (Rule × SuffixKind)) : Prop :=
  ∀ rule kind, kindOf? rule = some kind ↔ (rule, kind) ∈ rules

/-- A list shows nothing of a rule that is none of the rules. -/
theorem Shows.eq_none_iff {kindOf? : Rule → Option SuffixKind} {rules : List (Rule × SuffixKind)}
    (h : Shows kindOf? rules) {rule : Rule} :
    kindOf? rule = none ↔ ∀ kind, (rule, kind) ∉ rules := by
  rw [Option.eq_none_iff_forall_ne_some]
  exact forall_congr' fun kind => not_congr (h rule kind)

/-- A node without a rule, and the wildcard beside it that it hides. -/
structure LabelTree.Hides (tree : LabelTree) (tail : List Text) : Prop where
  ne_nil : tail ≠ []
  node : tree.hasNode tail.reverse = true
  ruleless : tree.ruleAt? tail.reverse = none
  beside : tree.hasNode (tail.tail.reverse ++ [['*']]) = true

instance (tree : LabelTree) (tail : List Text) : Decidable (tree.Hides tail) :=
  decidable_of_iff
    (tail ≠ [] ∧ tree.hasNode tail.reverse = true ∧ tree.ruleAt? tail.reverse = none ∧
      tree.hasNode (tail.tail.reverse ++ [['*']]) = true)
    ⟨fun ⟨h1, h2, h3, h4⟩ => ⟨h1, h2, h3, h4⟩, fun ⟨h1, h2, h3, h4⟩ => ⟨h1, h2, h3, h4⟩⟩

/-! ## §2. Nodes and their rules. -/

section

variable {rules : List (Rule × SuffixKind)} {kindOf? : Rule → Option SuffixKind}
variable {rule : Rule} {kind : SuffixKind} {tail : List Text} {label : Text}

namespace LabelTree

theorem hasNode_iff {path : List Text} : (ofRules rules).hasNode path = true ↔
    ∃ entry ∈ rules, path <+: (TreeRule.ofRule entry.1 entry.2).path := by
  simp [hasNode, ofRules, List.any_eq_true]

/-- The path of a rule is its base, and a star behind it for a wildcard. -/
theorem prefix_path_cases {path : List Text} (h : path <+: (TreeRule.ofRule rule kind).path) :
    path <+: rule.base.reverse ∨ (rule.shape = .wildcard ∧ path = rule.base.reverse ++ [['*']]) := by
  obtain ⟨shape, base⟩ := rule
  cases shape with
  | exact => exact .inl h
  | exception => exact .inl h
  | wildcard =>
    rcases List.prefix_concat_iff.mp h with heq | hprefix
    · exact .inr ⟨rfl, heq⟩
    · exact .inl hprefix

theorem base_prefix_path (rule : Rule) (kind : SuffixKind) :
    rule.base.reverse <+: (TreeRule.ofRule rule kind).path := by
  obtain ⟨shape, base⟩ := rule
  cases shape with
  | exact => exact List.prefix_rfl
  | exception => exact List.prefix_rfl
  | wildcard => exact List.prefix_append _ _

theorem hasNode_of_prefix {tree : LabelTree} {path path' : List Text} (h : path <+: path')
    (hnode : tree.hasNode path' = true) : tree.hasNode path = true := by
  unfold hasNode at hnode ⊢
  obtain ⟨rule, hmem, hprefix⟩ := List.any_eq_true.mp hnode
  have hprefix' : path' <+: rule.path := List.isPrefixOf_iff_prefix.mp hprefix
  exact List.any_eq_true.mpr ⟨rule, hmem, List.isPrefixOf_iff_prefix.mpr (h.trans hprefix')⟩

/-- The base of a rule is a node. -/
theorem hasNode_base (hmem : (rule, kind) ∈ rules) :
    (ofRules rules).hasNode rule.base.reverse = true :=
  hasNode_iff.mpr ⟨_, hmem, base_prefix_path rule kind⟩

/-- The child `*` is the wildcard. -/
theorem hasNode_star_iff (h : PlainRules rules) :
    (ofRules rules).hasNode (tail.reverse ++ [['*']]) = true ↔
      ∃ kind, (⟨.wildcard, tail⟩, kind) ∈ rules := by
  rw [hasNode_iff]
  constructor
  · intro hyp
    obtain ⟨⟨⟨shape, base⟩, kind⟩, hmem, hprefix⟩ := hyp
    rcases prefix_path_cases hprefix with hbase | ⟨hshape, heq⟩
    · have hstar : ['*'] ∈ base.reverse := hbase.subset (by simp)
      exact absurd (List.mem_reverse.mp hstar) (h.labels _ hmem).1
    · have hbase : tail = base := List.reverse_injective (List.append_cancel_right heq)
      simp only at hshape
      subst hshape hbase
      exact ⟨kind, hmem⟩
  · intro hyp
    obtain ⟨kind, hmem⟩ := hyp
    exact ⟨_, hmem, List.prefix_rfl⟩

/-- Below a wildcard there is nothing. -/
theorem hasNode_below_star (h : PlainRules rules) (path : List Text) (label : Text) :
    (ofRules rules).hasNode (path ++ [['*']] ++ [label]) = false := by
  rw [Bool.eq_false_iff, ne_eq, hasNode_iff]
  intro hyp
  obtain ⟨entry, hmem, hprefix⟩ := hyp
  have hinner : path ++ [['*']] <+: entry.1.base.reverse := by
    rcases prefix_path_cases hprefix with hbase | ⟨-, heq⟩
    · exact (List.prefix_append _ _).trans hbase
    · exact ⟨[], by rw [List.append_nil, List.append_inj_left' heq rfl]⟩
  have hstar : ['*'] ∈ entry.1.base.reverse := hinner.subset (by simp)
  exact absurd (List.mem_reverse.mp hstar) (h.labels _ hmem).1

/-- A rule stands at the end of its path. -/
theorem ruleAt?_path (h : PlainRules rules) (hmem : (rule, kind) ∈ rules) :
    (ofRules rules).ruleAt? (TreeRule.ofRule rule kind).path = some (.ofRule rule kind) := by
  unfold ruleAt? ofRules
  rw [List.find?_map, Option.map_eq_some_iff]
  cases hfind : rules.find? ((fun r => decide (r.path = (TreeRule.ofRule rule kind).path)) ∘
      fun entry => TreeRule.ofRule entry.1 entry.2) with
  | none =>
    have hnone := List.find?_eq_none.mp hfind (rule, kind) hmem
    simp at hnone
  | some entry =>
    have hpath := List.find?_some hfind
    have heq : entry = (rule, kind) :=
      List.inj_on_of_nodup_map h.paths (List.mem_of_find?_eq_some hfind) hmem (by simpa using hpath)
    exact ⟨entry, rfl, by rw [heq]⟩

/-- A node on no wildcard has no rule if no exact rule and no exception stands there. -/
theorem ruleAt?_eq_none (hstar : ['*'] ∉ tail) (hexact : ∀ k, (⟨.exact, tail⟩, k) ∉ rules)
    (hexception : ∀ k, (⟨.exception, tail⟩, k) ∉ rules) :
    (ofRules rules).ruleAt? tail.reverse = none := by
  unfold ruleAt? ofRules
  rw [List.find?_eq_none]
  intro found hfound hpath
  obtain ⟨⟨⟨shape, base⟩, kind⟩, hmem, rfl⟩ := List.mem_map.mp hfound
  have hpath' : (TreeRule.ofRule ⟨shape, base⟩ kind).path = tail.reverse := by simpa using hpath
  cases shape with
  | exact =>
    have hbase : base = tail := List.reverse_injective hpath'
    exact hexact kind (hbase ▸ hmem)
  | exception =>
    have hbase : base = tail := List.reverse_injective hpath'
    exact hexception kind (hbase ▸ hmem)
  | wildcard =>
    have hmark : ['*'] ∈ tail.reverse := by
      rw [← hpath']
      exact List.mem_append_right _ List.mem_cons_self
    exact hstar (List.mem_reverse.mp hmark)

/-! ## §3. One label more. -/

variable {before rest : List Text} {best : Suffix}

section

variable {tree : LabelTree}

theorem child?_of_hasNode (hnode : tree.hasNode (label :: before).reverse = true) :
    tree.child? before.reverse label = some (label :: before).reverse := by
  rw [List.reverse_cons] at hnode ⊢
  exact if_pos hnode

theorem descend_cons_of_rule {found : TreeRule}
    (hnode : tree.hasNode (label :: before).reverse = true)
    (hrule : tree.ruleAt? (label :: before).reverse = some found) :
    tree.descend before.reverse best (label :: rest) =
      if found.isException then ⟨before.length, found.kind⟩
      else tree.descend (label :: before).reverse ⟨(label :: before).length, found.kind⟩ rest := by
  rw [descend, child?_of_hasNode hnode]
  simp only [hrule, List.length_reverse]

theorem descend_cons_of_ruleless (hnode : tree.hasNode (label :: before).reverse = true)
    (hrule : tree.ruleAt? (label :: before).reverse = none) :
    tree.descend before.reverse best (label :: rest) =
      tree.descend (label :: before).reverse best rest := by
  rw [descend, child?_of_hasNode hnode]
  simp only [hrule]

theorem child?_of_not_hasNode (hnode : tree.hasNode (label :: before).reverse = false) :
    tree.child? before.reverse label =
      if tree.hasNode (before.reverse ++ [['*']]) then some (before.reverse ++ [['*']]) else none := by
  rw [List.reverse_cons] at hnode
  exact if_neg (by simp [hnode])

end

/-- A wildcard ends the descent, since nothing is below it. -/
theorem descend_cons_of_star (h : PlainRules rules)
    (hnode : (ofRules rules).hasNode (label :: before).reverse = false)
    (hmem : (⟨.wildcard, before⟩, kind) ∈ rules) :
    (ofRules rules).descend before.reverse best (label :: rest) =
      ⟨(label :: before).length, kind⟩ := by
  have hstar := (hasNode_star_iff h).mpr ⟨kind, hmem⟩
  have hrule : (ofRules rules).ruleAt? (before.reverse ++ [['*']])
      = some ⟨before.reverse ++ [['*']], false, kind⟩ := ruleAt?_path h hmem
  have hbelow : ∀ s, (ofRules rules).descend (before.reverse ++ [['*']]) s rest = s := by
    intro s
    cases rest with
    | nil => rfl
    | cons next rest =>
      rw [descend, child?, hasNode_below_star h, hasNode_below_star h]
      rfl
  rw [descend, child?_of_not_hasNode hnode, if_pos hstar]
  simp only [hrule, hbelow]
  simp

theorem descend_cons_of_none (h : PlainRules rules)
    (hnode : (ofRules rules).hasNode (label :: before).reverse = false)
    (hnone : ∀ kind, (⟨.wildcard, before⟩, kind) ∉ rules) :
    (ofRules rules).descend before.reverse best (label :: rest) = best := by
  have hstar : ¬ (ofRules rules).hasNode (before.reverse ++ [['*']]) = true := by
    rw [hasNode_star_iff h]
    intro hyp
    obtain ⟨kind, hmem⟩ := hyp
    exact hnone kind hmem
  rw [descend, child?_of_not_hasNode hnode, if_neg hstar]

end LabelTree

/-! ## §4. Side by side. -/

/-- The longest tail of a name that is covered, and a node hides it. -/
structure LosesWildcard (tree : LabelTree) (kindOf? : Rule → Option SuffixKind)
    (ls tail : List Text) : Prop where
  isTail : tail <:+ ls
  hides : tree.Hides tail
  longest : ∀ other kind, IsCovered kindOf? ls other kind → other.length ≤ tail.length

/-- How the suffix that the descent has found stands to that of the walk, where
neither has met an exception. -/
structure Abreast (tree : LabelTree) (kindOf? : Rule → Option SuffixKind) (ls : List Text)
    (found best : Suffix) : Prop where
  pos : 1 ≤ found.count
  fits : best.count ≤ max 1 ls.length
  level : (∀ tail, ¬ LosesWildcard tree kindOf? ls tail) → found = best
  behind : ∀ tail, LosesWildcard tree kindOf? ls tail → found.count < best.count

namespace Abreast

variable {tree : LabelTree} {found : Suffix}

theorem nil : Abreast tree kindOf? [] .unmanaged .unmanaged := by
  constructor
  · exact Nat.le_refl 1
  · exact Nat.le_refl 1
  · exact fun _ => rfl
  · intro tail h
    exact absurd (List.suffix_nil.mp h.isTail) h.hides.ne_nil

theorem count_le (h : Abreast tree kindOf? before found best) : found.count ≤ best.count := by
  by_cases hloses : ∃ tail, LosesWildcard tree kindOf? before tail
  · obtain ⟨tail, htail⟩ := hloses
    exact Nat.le_of_lt (h.behind tail htail)
  · have hlevel := h.level fun tail htail => hloses ⟨tail, htail⟩
    exact Nat.le_of_eq (congrArg Suffix.count hlevel)

/-- A tail covered anew is the longest, so only that tail can be hidden. -/
theorem eq_of_losesWildcard (hk : tailKind? kindOf? (label :: before) = some kind)
    (h : LosesWildcard tree kindOf? (label :: before) tail) : tail = label :: before :=
  h.isTail.eq_of_length_le (h.longest _ kind ⟨List.suffix_rfl, hk⟩)

/-- Where a rule that is not hidden covers the tail reached, both find it. -/
theorem cons_covered (hk : tailKind? kindOf? (label :: before) = some kind)
    (hhides : ¬ tree.Hides (label :: before)) :
    Abreast tree kindOf? (label :: before) ⟨(label :: before).length, kind⟩
      ⟨(label :: before).length, kind⟩ := by
  constructor
  · exact Nat.le_add_left 1 before.length
  · exact Nat.le_max_right 1 _
  · exact fun _ => rfl
  · intro tail h
    obtain rfl := eq_of_losesWildcard hk h
    exact absurd h.hides hhides

/-- Where a node hides the wildcard, only the walk finds it. -/
theorem cons_hidden (h : Abreast tree kindOf? before found best) (hbefore : before ≠ [])
    (hhides : tree.Hides (label :: before)) :
    Abreast tree kindOf? (label :: before) found ⟨(label :: before).length, kind⟩ := by
  have hpos := List.length_pos_iff.mpr hbefore
  have hfits := h.fits
  have hle := h.count_le
  have hloses : LosesWildcard tree kindOf? (label :: before) (label :: before) :=
    ⟨List.suffix_rfl, hhides, fun other kind hc => hc.isTail.length_le⟩
  constructor
  · exact h.pos
  · exact Nat.le_max_right 1 _
  · intro hnone
    exact absurd hloses (hnone _)
  · intro tail _
    simp only [List.length_cons]
    omega

/-- Where nothing covers the tail reached, nothing changes. -/
theorem cons_uncovered (h : Abreast tree kindOf? before found best)
    (hk : tailKind? kindOf? (label :: before) = none) (hhides : ¬ tree.Hides (label :: before)) :
    Abreast tree kindOf? (label :: before) found best := by
  -- One more label is neither covered nor hides anything, so nothing changes.
  have hcovered : ∀ {other k}, IsCovered kindOf? (label :: before) other k →
      IsCovered kindOf? before other k := by
    intro other k hc
    rcases RuleList.isTail_cons_iff.mp hc.isTail with rfl | htail
    · exact absurd hc.hasKind (by simp [hk])
    · exact ⟨htail, hc.hasKind⟩
  have hloses : ∀ {tail}, LosesWildcard tree kindOf? (label :: before) tail ↔
      LosesWildcard tree kindOf? before tail := by
    intro tail
    constructor
    · intro hl
      rcases RuleList.isTail_cons_iff.mp hl.isTail with rfl | htail
      · exact absurd hl.hides hhides
      · exact ⟨htail, hl.hides, fun other k hc => hl.longest other k (hc.of_suffix (List.suffix_cons _ _))⟩
    · intro hl
      exact ⟨hl.isTail.trans (List.suffix_cons _ _), hl.hides,
        fun other k hc => hl.longest other k (hcovered hc)⟩
  have hfits := h.fits
  constructor
  · exact h.pos
  · simp only [List.length_cons]
    omega
  · intro hnone
    exact h.level fun tail htail => hnone tail (hloses.mpr htail)
  · intro tail htail
    exact h.behind tail (hloses.mp htail)

end Abreast

/-- How the answer of the descent stands to that of the walk: an exception gives
both the same. -/
inductive Follows (tree : LabelTree) (kindOf? : Rule → Option SuffixKind) (ls : List Text) :
    Suffix → Suffix → Prop where
  | exception {best : Suffix} (met : ¬ NoException kindOf? ls) (pos : 1 ≤ best.count) :
      Follows tree kindOf? ls best best
  | abreast {found best : Suffix} (none : NoException kindOf? ls)
      (h : Abreast tree kindOf? ls found best) : Follows tree kindOf? ls found best

/-! ## §5. The whole name. -/

section

variable (h : PlainRules rules) (hshows : Shows kindOf? rules)
include hshows

/-- Off the tree there are no rules. -/
theorem kindOf?_eq_none (hnode : (LabelTree.ofRules rules).hasNode tail.reverse = false)
    (shape : RuleShape) : kindOf? ⟨shape, tail⟩ = none := by
  rw [hshows.eq_none_iff]
  intro kind hmem
  exact absurd (hnode.symm.trans (LabelTree.hasNode_base hmem)) nofun

/-- Off the tree the walk stays with what it has found. -/
theorem follows_off_tree {found : Suffix}
    (hnode : (LabelTree.ofRules rules).hasNode before.reverse = false)
    (hno : NoException kindOf? before) (hab : Abreast (.ofRules rules) kindOf? before found best) :
    Follows (.ofRules rules) kindOf? (rest.reverse ++ before) found
      (walk kindOf? before best rest) := by
  induction rest generalizing before with
  | nil => exact .abreast hno hab
  | cons label rest ih =>
    have hnode' : (LabelTree.ofRules rules).hasNode (label :: before).reverse = false := by
      rw [Bool.eq_false_iff]
      intro hthere
      rw [LabelTree.hasNode_of_prefix (List.reverse_prefix.mpr (List.suffix_cons label before))
        hthere] at hnode
      cases hnode
    have hnone := kindOf?_eq_none hshows hnode' .exception
    have hk : tailKind? kindOf? (label :: before) = none := by
      rw [tailKind?_cons, kindOf?_eq_none hshows hnode, kindOf?_eq_none hshows hnode']
      rfl
    have hhides : ¬ (LabelTree.ofRules rules).Hides (label :: before) := by
      intro hyp
      rw [hyp.node] at hnode'
      cases hnode'
    rw [RuleList.walk_cons_of_uncovered hnone hk, List.reverse_cons, List.append_assoc]
    exact ih hnode' (hno.cons hnone) (hab.cons_uncovered hk hhides)

include h

/-- An exception stops both, and they agree. -/
theorem stop_at_exception {found : Suffix} (hexc : kindOf? ⟨.exception, label :: before⟩ = some kind) :
    (LabelTree.ofRules rules).descend before.reverse found (label :: rest) = ⟨before.length, kind⟩ ∧
      walk kindOf? before best (label :: rest) = ⟨before.length, kind⟩ ∧ 1 ≤ before.length := by
  have hmem := (hshows _ _).mp hexc
  have htwo : 2 ≤ before.length + 1 := h.exceptions _ hmem rfl
  have hdescend := @LabelTree.descend_cons_of_rule label before rest found _ _
    (LabelTree.hasNode_base hmem) (LabelTree.ruleAt?_path h hmem)
  refine ⟨hdescend, ?_, Nat.le_of_succ_le_succ htwo⟩
  rw [RuleList.walk_cons_of_exception hexc]
  unfold RuleList.exceptionSuffix
  rw [if_neg]
  intro hempty
  rw [List.isEmpty_iff.mp hempty] at htwo
  exact absurd htwo (by decide)

/-- On a node both go on to the next label. -/
theorem go_on {found : Suffix} (hhere : ['*'] ∉ label :: before)
    (hexc : kindOf? ⟨.exception, label :: before⟩ = none)
    (hnode : (LabelTree.ofRules rules).hasNode (label :: before).reverse = true)
    (hab : Abreast (.ofRules rules) kindOf? before found best) :
    ∃ found' best', Abreast (.ofRules rules) kindOf? (label :: before) found' best' ∧
      (LabelTree.ofRules rules).descend before.reverse found (label :: rest) =
        (LabelTree.ofRules rules).descend (label :: before).reverse found' rest ∧
      walk kindOf? before best (label :: rest) = walk kindOf? (label :: before) best' rest := by
  cases hexact : kindOf? ⟨.exact, label :: before⟩ with
  | some kind =>
    -- The exact rule is the only one here, so the walk takes its kind as well.
    have hmem := (hshows _ _).mp hexact
    have hrule := LabelTree.ruleAt?_path h hmem
    have hwild : kindOf? ⟨.wildcard, before⟩ = none := by
      rw [hshows.eq_none_iff]
      intro k hk
      exact h.apart _ hmem rfl _ hk rfl
    have hk : tailKind? kindOf? (label :: before) = some kind := by
      rw [tailKind?_cons, hwild, hexact]
      rfl
    have hhides : ¬ (LabelTree.ofRules rules).Hides (label :: before) := by
      intro hyp
      exact absurd (hyp.ruleless.symm.trans hrule) nofun
    exact ⟨_, _, .cons_covered hk hhides, LabelTree.descend_cons_of_rule hnode hrule,
      RuleList.walk_cons_of_covered hexc hk⟩
  | none =>
    have hrule : (LabelTree.ofRules rules).ruleAt? (label :: before).reverse = none :=
      LabelTree.ruleAt?_eq_none hhere (hshows.eq_none_iff.mp hexact) (hshows.eq_none_iff.mp hexc)
    cases hwild : kindOf? ⟨.wildcard, before⟩ with
    | some kind =>
      have hmem := (hshows _ _).mp hwild
      have hk : tailKind? kindOf? (label :: before) = some kind := by
        rw [tailKind?_cons, hwild]
        rfl
      have hhides : (LabelTree.ofRules rules).Hides (label :: before) :=
        ⟨List.cons_ne_nil _ _, hnode, hrule, (LabelTree.hasNode_star_iff h).mpr ⟨kind, hmem⟩⟩
      exact ⟨_, _, hab.cons_hidden (h.ne_nil _ hmem) hhides,
        LabelTree.descend_cons_of_ruleless hnode hrule, RuleList.walk_cons_of_covered hexc hk⟩
    | none =>
      have hk : tailKind? kindOf? (label :: before) = none := by
        rw [tailKind?_cons, hwild, hexact]
        rfl
      have hhides : ¬ (LabelTree.ofRules rules).Hides (label :: before) := by
        intro hyp
        obtain ⟨k, hmem⟩ := (LabelTree.hasNode_star_iff h).mp hyp.beside
        exact hshows.eq_none_iff.mp hwild k hmem
      exact ⟨_, _, hab.cons_uncovered hk hhides,
        LabelTree.descend_cons_of_ruleless hnode hrule, RuleList.walk_cons_of_uncovered hexc hk⟩

/-- Where there is no node, the descent stops with or without a wildcard, and
only the walk goes on. -/
theorem leave_tree {found : Suffix}
    (hnode : (LabelTree.ofRules rules).hasNode (label :: before).reverse = false)
    (hab : Abreast (.ofRules rules) kindOf? before found best) :
    ∃ found' best', Abreast (.ofRules rules) kindOf? (label :: before) found' best' ∧
      (LabelTree.ofRules rules).descend before.reverse found (label :: rest) = found' ∧
      walk kindOf? before best (label :: rest) = walk kindOf? (label :: before) best' rest := by
  have hexc := kindOf?_eq_none hshows hnode .exception
  have hexact := kindOf?_eq_none hshows hnode .exact
  have hhides : ¬ (LabelTree.ofRules rules).Hides (label :: before) := by
    intro hyp
    exact absurd (hnode.symm.trans hyp.node) nofun
  cases hwild : kindOf? ⟨.wildcard, before⟩ with
  | some kind =>
    have hk : tailKind? kindOf? (label :: before) = some kind := by
      rw [tailKind?_cons, hwild]
      rfl
    exact ⟨_, _, .cons_covered hk hhides,
      LabelTree.descend_cons_of_star h hnode ((hshows _ _).mp hwild),
      RuleList.walk_cons_of_covered hexc hk⟩
  | none =>
    have hk : tailKind? kindOf? (label :: before) = none := by
      rw [tailKind?_cons, hwild, hexact]
      rfl
    exact ⟨_, _, hab.cons_uncovered hk hhides,
      LabelTree.descend_cons_of_none h hnode (hshows.eq_none_iff.mp hwild),
      RuleList.walk_cons_of_uncovered hexc hk⟩

/-- **The descent follows the walk.**  The induction is on the labels that are
left; `before` is the tail reached, and the node reached is its path. -/
theorem follows_descend {found : Suffix} (hrest : ['*'] ∉ rest) (hbefore : ['*'] ∉ before)
    (hno : NoException kindOf? before) (hab : Abreast (.ofRules rules) kindOf? before found best) :
    Follows (.ofRules rules) kindOf? (rest.reverse ++ before)
      ((LabelTree.ofRules rules).descend before.reverse found rest)
      (walk kindOf? before best rest) := by
  induction rest generalizing before found best with
  | nil => exact .abreast hno hab
  | cons label rest ih =>
    obtain ⟨hlabel, hrest'⟩ := not_or.mp (mt List.mem_cons.mpr hrest)
    have hhere : ['*'] ∉ label :: before := by
      intro hmem
      rcases List.mem_cons.mp hmem with heq | hmem
      · exact hlabel heq
      · exact hbefore hmem
    rw [List.reverse_cons, List.append_assoc]
    show Follows _ _ (rest.reverse ++ label :: before) _ _
    -- Both walks stop at an exception; else the tree has a node here or is left for good.
    cases hexc : kindOf? ⟨.exception, label :: before⟩ with
    | some kind =>
      obtain ⟨hdescend, hwalk, hpos⟩ := stop_at_exception h hshows hexc
      rw [hdescend, hwalk]
      refine .exception ?_ hpos
      intro hnone
      exact hnone _ kind ⟨List.cons_ne_nil _ _, List.suffix_append _ _, hexc⟩
    | none =>
      cases hnode : (LabelTree.ofRules rules).hasNode (label :: before).reverse with
      | true =>
        obtain ⟨_, _, hab', hdescend, hwalk⟩ := go_on h hshows hhere hexc hnode hab
        rw [hdescend, hwalk]
        exact ih hrest' hhere (hno.cons hexc) hab'
      | false =>
        obtain ⟨_, _, hab', hdescend, hwalk⟩ := leave_tree h hshows hnode hab
        rw [hdescend, hwalk]
        exact follows_off_tree hshows hnode (hno.cons hexc) hab'

end

/-! ## §6. The answers. -/

namespace Follows

variable {tree : LabelTree} {found : Suffix} {ls : List Text}

theorem pos (h : Follows tree kindOf? ls found best) : 1 ≤ found.count := by
  cases h with
  | exception _ pos => exact pos
  | abreast _ hab => exact hab.pos

theorem count_le (h : Follows tree kindOf? ls found best) : found.count ≤ best.count := by
  cases h with
  | exception => exact Nat.le_refl _
  | abreast _ hab => exact hab.count_le

/-- The answers differ exactly where a wildcard is lost, and then in length. -/
theorem cases_eq (h : Follows tree kindOf? ls found best) :
    (found = best ∧ ¬ (NoException kindOf? ls ∧ ∃ tail, LosesWildcard tree kindOf? ls tail)) ∨
      (found.count < best.count ∧ NoException kindOf? ls ∧
        ∃ tail, LosesWildcard tree kindOf? ls tail) := by
  cases h with
  | exception met => exact .inl ⟨rfl, fun hyp => met hyp.1⟩
  | abreast none hab =>
    by_cases hloses : ∃ tail, LosesWildcard tree kindOf? ls tail
    · obtain ⟨tail, htail⟩ := hloses
      exact .inr ⟨hab.behind tail htail, none, tail, htail⟩
    · exact .inl ⟨hab.level fun tail htail => hloses ⟨tail, htail⟩, fun hyp => hloses hyp.2⟩

end Follows

theorem LabelTree.lookup_of_ne_nil (tree : LabelTree) {ls : List Text} (h : ∀ l ∈ ls, l ≠ []) :
    tree.lookup ls = tree.descend [] .unmanaged ls.reverse := by
  unfold lookup
  split
  next label rest hreverse =>
    have hmem : [] ∈ ls := by
      rw [← List.mem_reverse, hreverse]
      exact List.mem_cons_self
    exact absurd rfl (h [] hmem)
  next => rfl

theorem follows_lookup {list : RuleList} {ls : List Text} (h : PlainRules rules)
    (hshows : Shows list.kindOf? rules) (hlabels : ∀ l ∈ ls, l ≠ [] ∧ l ≠ ['*']) :
    Follows (.ofRules rules) list.kindOf? ls ((LabelTree.ofRules rules).lookup ls)
      (list.lookup ls) := by
  have hstar : ['*'] ∉ ls.reverse := by
    intro hmem
    exact (hlabels _ (List.mem_reverse.mp hmem)).2 rfl
  have hno : NoException list.kindOf? [] := by
    intro base kind he
    exact he.ne_nil (List.suffix_nil.mp he.isTail)
  have hfollows := follows_descend h hshows hstar List.not_mem_nil hno .nil
  rw [List.reverse_reverse, List.append_nil] at hfollows
  rw [LabelTree.lookup_of_ne_nil _ fun l hl => (hlabels l hl).1]
  exact hfollows

namespace Builtin

/-- A suffix that the search finds has the kind that it has in the tree. -/
theorem kind_found (suffix : Text) (kind : SuffixKind) :
    Found.kind ⟨suffix, kind ≠ .unmanaged, LabelTree.listedIn? kind⟩ = kind := by
  cases kind <;> rfl

theorem byteLength_ofLabels_le {tail ls : List Text} (h : tail <:+ ls) (htail : tail ≠ []) :
    Text.byteLength (Name.ofLabels tail) ≤ Text.byteLength (Name.ofLabels ls) := by
  obtain ⟨front, rfl⟩ := h
  by_cases hfront : front = []
  · subst hfront
    exact Nat.le_refl _
  · rw [SlicedList.byteLength_ofLabels_append hfront htail]
    exact Nat.le_add_left _ _

/-- The search answers with what the tree finds. -/
theorem lookup_search (tree : LabelTree) {name : Text}
    (hlabels : ∀ l ∈ Name.labels name, l ≠ []) (hpos : 1 ≤ (tree.lookup (Name.labels name)).count)
    (hle : (tree.lookup (Name.labels name)).count ≤ (Name.labels name).length) :
    lookup tree.search (Name.labels name) = tree.lookup (Name.labels name) := by
  have htail := lastLabels_suffix (tree.lookup (Name.labels name)).count (Name.labels name)
  have hne := lastLabels_ne_nil hpos (Name.labels_ne_nil name)
  have htext := Name.ofLabels_ne_nil hne fun l hl => hlabels l (htail.subset hl)
  have hbytes := byteLength_ofLabels_le htail hne
  rw [Name.ofLabels_labels] at hbytes
  have hzero : Text.byteLength (Name.ofLabels (lastLabels (tree.lookup (Name.labels name)).count
      (Name.labels name))) ≠ 0 := mt Text.byteLength_eq_zero_iff.mp htext
  have hempty : (Name.ofLabels (lastLabels (tree.lookup (Name.labels name)).count
      (Name.labels name))).isEmpty = false := by simpa using htext
  unfold lookup LabelTree.search Found.isOut
  simp only [Name.ofLabels_labels, hempty, hzero, Nat.not_lt.mpr hbytes, Bool.false_eq_true,
    if_false, decide_false, Bool.or_false]
  rw [kind_found, Name.labels_ofLabels_of_suffix htail hne, length_lastLabels hle]

end Builtin

/-- Suffixes of a name with the same text have as many labels. -/
theorem count_eq_of_text_eq {name : Text} {count count' : Nat} (hpos : 1 ≤ count)
    (hle : count ≤ (Name.labels name).length) (hpos' : 1 ≤ count')
    (hle' : count' ≤ (Name.labels name).length)
    (heq : Name.ofLabels (lastLabels count (Name.labels name)) =
      Name.ofLabels (lastLabels count' (Name.labels name))) : count = count' := by
  have hne := Name.labels_ne_nil name
  have hlabels := congrArg Name.labels heq
  rw [Name.labels_ofLabels_of_suffix (lastLabels_suffix _ _) (lastLabels_ne_nil hpos hne),
    Name.labels_ofLabels_of_suffix (lastLabels_suffix _ _) (lastLabels_ne_nil hpos' hne)] at hlabels
  calc count = (lastLabels count (Name.labels name)).length := (length_lastLabels hle).symm
    _ = (lastLabels count' (Name.labels name)).length := by rw [hlabels]
    _ = count' := length_lastLabels hle'

/-- **The tree and the list answer alike, unless a wildcard is lost.** -/
theorem publicSuffix_eq_iff {list : RuleList} {name : Text} (h : PlainRules rules)
    (hshows : Shows list.kindOf? rules) (hlabels : ∀ l ∈ Name.labels name, l ≠ [] ∧ l ≠ ['*']) :
    (Builtin.list (LabelTree.ofRules rules).search).publicSuffix name
        = list.toSuffixList.publicSuffix name ↔
      ¬ (NoException list.kindOf? (Name.labels name) ∧
        ∃ tail, LosesWildcard (.ofRules rules) list.kindOf? (Name.labels name) tail) := by
  have hfollows := follows_lookup h hshows hlabels
  have hfits := (RuleList.finds_lookup list _).count_le (Name.labels_ne_nil name)
  have hbuiltin := Builtin.lookup_search (.ofRules rules) (fun l hl => (hlabels l hl).1)
    hfollows.pos (Nat.le_trans hfollows.count_le hfits)
  show (Name.ofLabels (lastLabels (Builtin.lookup _ (Name.labels name)).count (Name.labels name)),
    (Builtin.lookup _ (Name.labels name)).kind) = _ ↔ _
  rw [hbuiltin]
  rcases hfollows.cases_eq with ⟨heq, hkept⟩ | ⟨hlt, hloses⟩
  · rw [heq]
    exact iff_of_true rfl hkept
  · refine iff_of_false ?_ (not_not_intro hloses)
    intro hsame
    have hcount := count_eq_of_text_eq hfollows.pos
      (Nat.le_trans hfollows.count_le hfits) (Nat.le_trans hfollows.pos hfollows.count_le) hfits
      (congrArg Prod.fst hsame)
    rw [hcount] at hlt
    exact Nat.lt_irrefl _ hlt

end

end DomainScope
