/-
  DomainScope.Proofs.Suffix.Insertion
  ───────────────────────────────────
  **ONE RULE MORE.**

  A look-up asks only for rules that match the name, so two lists that agree on
  those answer alike, and a rule put into a list is felt only where it matches.
  There a rule that is no exception can only lengthen a suffix: exceptions go on
  as before, tails covered before are still covered, and a tail covered anew is
  the one that the rule covers.

  Main results
    `lookup_congr`          a look-up depends on the rules that match
    `lookup_add_cases`      one rule more changes nothing or gives the suffix itself
    `publicSuffix_insert`   the same for a rule as it is written, and the text of a name
-/
import DomainScope.Proofs.Suffix.Prevailing

namespace DomainScope

/-! ## §1. Rules that match. -/

/-- Fewer last labels are a tail of more. -/
theorem lastLabels_suffix_lastLabels {m n : Nat} (h : m ≤ n) (ls : List Text) :
    lastLabels m ls <:+ lastLabels n ls := by
  have hlen : (lastLabels m ls).length ≤ (lastLabels n ls).length := by
    unfold lastLabels
    rw [List.length_drop, List.length_drop]
    omega
  exact List.suffix_of_suffix_length_le (lastLabels_suffix m ls) (lastLabels_suffix n ls) hlen

namespace RuleList

variable {before after : Rule → Option SuffixKind} {ls tail : List Text} {s : Suffix}

/-- What covers a tail of a name is a rule that matches the name. -/
theorem tailKind?_congr (h : ∀ rule, rule.Matches ls → before rule = after rule)
    (htail : tail <:+ ls) : tailKind? before tail = tailKind? after tail := by
  cases tail with
  | nil => rfl
  | cons label base =>
    have hexact : before ⟨.exact, label :: base⟩ = after ⟨.exact, label :: base⟩ := h _ htail
    have hwildcard : before ⟨.wildcard, base⟩ = after ⟨.wildcard, base⟩ := h _ ⟨label, htail⟩
    rw [tailKind?_cons, tailKind?_cons, hexact, hwildcard]

/-- **What a name finds depends on the rules that match it**, and on no others. -/
theorem Finds.congr (h : ∀ rule, rule.Matches ls → before rule = after rule)
    (hfinds : Finds before ls s) : Finds after ls s := by
  have hexception : ∀ base kind, IsException after ls base kind → IsException before ls base kind :=
    fun base kind he => ⟨he.ne_nil, he.isTail, (h ⟨.exception, base⟩ he.isTail).trans he.hasKind⟩
  have hcovered : ∀ tail kind, IsCovered after ls tail kind → IsCovered before ls tail kind :=
    fun tail kind hc => ⟨hc.isTail, (tailKind?_congr h hc.isTail).trans hc.hasKind⟩
  cases hfinds with
  | @exception base kind he shortest =>
    have hkind := (h ⟨.exception, base⟩ he.isTail).symm.trans he.hasKind
    exact .exception ⟨he.ne_nil, he.isTail, hkind⟩
      fun other k ho => shortest other k (hexception other k ho)
  | @covered tail kind hno hc longest =>
    have hkind := (tailKind?_congr h hc.isTail).symm.trans hc.hasKind
    exact .covered (fun base k he => hno base k (hexception base k he)) ⟨hc.isTail, hkind⟩
      fun other k ho => longest other k (hcovered other k ho)
  | nothing hno hn =>
    exact .nothing (fun base k he => hno base k (hexception base k he))
      fun tail k hc => hn tail k (hcovered tail k hc)

/-- Two lists that agree on the rules that match a name answer alike. -/
theorem lookup_congr {list other : RuleList}
    (h : ∀ rule, rule.Matches ls → list.kindOf? rule = other.kindOf? rule) :
    list.lookup ls = other.lookup ls := by
  symm
  rw [lookup_eq_iff]
  exact (finds_lookup list ls).congr h

/-- Without exceptions a suffix is as long as some tail covered, or one label. -/
theorem Finds.count_le_of_covered (h : Finds before ls s) (hno : NoException before ls) {n : Nat}
    (hpos : 1 ≤ n) (hle : ∀ tail kind, IsCovered before ls tail kind → tail.length ≤ n) :
    s.count ≤ n := by
  cases h with
  | exception he => exact absurd he (hno _ _)
  | covered _ hc => exact hle _ _ hc
  | nothing => exact hpos

/-! ## §2. One rule more. -/

variable {list : RuleList} {rule : Rule} {kind : SuffixKind}

/-- **A rule is not felt where it does not match.** -/
theorem lookup_add_of_not_matches (kind : SuffixKind) (h : ¬ rule.Matches ls) :
    (list.add rule kind).lookup ls = list.lookup ls := by
  refine lookup_congr ?_
  intro other hother
  have hne : rule ≠ other := by
    intro heq
    subst heq
    exact h hother
  rw [kindOf?_add, if_neg hne]

section NoException

variable (hshape : rule.shape ≠ .exception)

include hshape in
/-- The exceptions of a name stay the same. -/
theorem isException_add_iff {base : List Text} {k : SuffixKind} :
    IsException (list.add rule kind).kindOf? ls base k ↔ IsException list.kindOf? ls base k := by
  have hne : rule ≠ ⟨.exception, base⟩ := by
    intro heq
    subst heq
    exact hshape rfl
  have hkind : (list.add rule kind).kindOf? ⟨.exception, base⟩ = list.kindOf? ⟨.exception, base⟩ := by
    rw [kindOf?_add, if_neg hne]
  constructor
  · exact fun he => ⟨he.ne_nil, he.isTail, hkind.symm.trans he.hasKind⟩
  · exact fun he => ⟨he.ne_nil, he.isTail, hkind.trans he.hasKind⟩

/-- A tail that is covered stays covered, perhaps with another kind. -/
theorem exists_isCovered_add {k : SuffixKind} (h : IsCovered list.kindOf? ls tail k) :
    ∃ k', IsCovered (list.add rule kind).kindOf? ls tail k' := by
  have hkind := h.hasKind
  obtain ⟨label, base, rfl⟩ := List.exists_cons_of_ne_nil h.ne_nil
  suffices hsome : (tailKind? (list.add rule kind).kindOf? (label :: base)).isSome by
    obtain ⟨k', hk'⟩ := Option.isSome_iff_exists.mp hsome
    exact ⟨k', h.isTail, hk'⟩
  rw [tailKind?_cons] at hkind ⊢
  rw [kindOf?_add, kindOf?_add, Option.isSome_or, Bool.or_eq_true]
  split
  · exact .inl rfl
  · split
    · exact .inr rfl
    · rw [← Bool.or_eq_true, ← Option.isSome_or, hkind]
      rfl

/-- A tail whose kind changes is the one that the rule covers. -/
theorem size_eq_of_isCovered_add {k : SuffixKind}
    (h : IsCovered (list.add rule kind).kindOf? ls tail k)
    (hnew : tailKind? list.kindOf? tail ≠ some k) :
    rule.Matches ls ∧ rule.size = tail.length ∧ k = kind := by
  have hkind := h.hasKind
  obtain ⟨label, base, rfl⟩ := List.exists_cons_of_ne_nil h.ne_nil
  rw [tailKind?_cons] at hkind hnew
  rw [kindOf?_add, kindOf?_add] at hkind
  by_cases hwildcard : rule = ⟨.wildcard, base⟩
  · subst hwildcard
    rw [if_pos rfl, Option.some_or] at hkind
    exact ⟨⟨label, h.isTail⟩, rfl, (Option.some.inj hkind).symm⟩
  · by_cases hexact : rule = ⟨.exact, label :: base⟩
    · subst hexact
      rw [if_neg (by simp), if_pos rfl] at hkind
      cases hother : list.kindOf? ⟨.wildcard, base⟩ with
      | none =>
        rw [hother, Option.none_or] at hkind
        exact ⟨h.isTail, rfl, (Option.some.inj hkind).symm⟩
      | some k' =>
        -- Where a wildcard covers the tail as well, an exact rule changes nothing.
        rw [hother, Option.some_or] at hkind hnew
        exact absurd hkind hnew
    · rw [if_neg hwildcard, if_neg hexact] at hkind
      exact absurd hkind hnew

include hshape in
/-- **One rule more changes nothing, or gives the suffix itself**; then the
suffix is as long as before, or longer. -/
theorem lookup_add_cases :
    (list.add rule kind).lookup ls = list.lookup ls ∨
      (rule.Matches ls ∧ (list.add rule kind).lookup ls = ⟨rule.size, kind⟩ ∧
        (list.lookup ls).count ≤ rule.size) := by
  have hnew := finds_lookup (list.add rule kind) ls
  generalize (list.add rule kind).lookup ls = s at *
  rw [eq_comm, lookup_eq_iff]
  -- What prevails afterwards prevailed before, unless it is the rule that was added.
  cases hnew with
  | @exception base k he shortest =>
    refine .inl (.exception ((isException_add_iff hshape).mp he) ?_)
    exact fun other k' ho => shortest other k' ((isException_add_iff hshape).mpr ho)
  | @covered tail k hno hc longest =>
    have hno' : NoException list.kindOf? ls :=
      fun base k' he => hno base k' ((isException_add_iff hshape).mpr he)
    have hlongest : ∀ other k', IsCovered list.kindOf? ls other k' →
        other.length ≤ tail.length := by
      intro other k' ho
      obtain ⟨k'', ho'⟩ := @exists_isCovered_add ls other list rule kind k' ho
      exact longest other k'' ho'
    -- The tail had this kind before, or has it from the new rule.
    by_cases hsame : tailKind? list.kindOf? tail = some k
    · exact .inl (.covered hno' ⟨hc.isTail, hsame⟩ hlongest)
    · obtain ⟨hmatch, hsize, rfl⟩ := size_eq_of_isCovered_add hc hsame
      refine .inr ⟨hmatch, by rw [hsize], ?_⟩
      rw [hsize]
      exact (finds_lookup list ls).count_le_of_covered hno' (List.length_pos_iff.mpr hc.ne_nil)
        hlongest
  | nothing hno hn =>
    refine .inl (.nothing (fun base k he => hno base k ((isException_add_iff hshape).mpr he)) ?_)
    intro tail k hc
    obtain ⟨k', hc'⟩ := @exists_isCovered_add ls tail list rule kind k hc
    exact hn tail k' hc'

include hshape in
theorem count_lookup_le_add : (list.lookup ls).count ≤ ((list.add rule kind).lookup ls).count := by
  rcases @lookup_add_cases ls list rule kind hshape with hsame | ⟨-, hfound, hle⟩
  · rw [hsame]
  · rw [hfound]
    exact hle

end NoException

/-! ## §3. Rules as they are written. -/

theorem insert_of_writes {written : Text} (h : Writes written rule) (kind : SuffixKind) :
    list.insert written kind = list.add rule kind := by
  unfold insert
  rw [read?_of_writes h]

/-- The labels of the suffix that a list has for a name. -/
theorem labels_publicSuffix (list : RuleList) (name : Text) :
    Name.labels (list.toSuffixList.publicSuffix name).1
      = lastLabels (list.lookup (Name.labels name)).count (Name.labels name) := by
  have hpos := (finds_lookup list (Name.labels name)).count_pos
  exact Name.labels_ofLabels_of_suffix (lastLabels_suffix _ _)
    (lastLabels_ne_nil hpos (Name.labels_ne_nil name))

/-- **A rule put into a list disturbs only the names it matches**, and if it is
no exception their suffixes stay as they are or grow. -/
theorem publicSuffix_insert (list : RuleList) {written : Text} {rule : Rule}
    (h : Writes written rule) (kind : SuffixKind) (name : Text) :
    (¬ rule.Matches (Name.labels name) →
        (list.insert written kind).toSuffixList.publicSuffix name
          = list.toSuffixList.publicSuffix name) ∧
      (rule.shape ≠ .exception →
        Name.labels (list.toSuffixList.publicSuffix name).1
          <:+ Name.labels ((list.insert written kind).toSuffixList.publicSuffix name).1) := by
  rw [insert_of_writes h]
  constructor
  · intro hmatch
    have hlookup := @lookup_add_of_not_matches (Name.labels name) list rule kind hmatch
    show (Name.ofLabels (lastLabels ((list.add rule kind).lookup (Name.labels name)).count _),
      ((list.add rule kind).lookup (Name.labels name)).kind) = _
    rw [hlookup]
    rfl
  · intro hshape
    rw [labels_publicSuffix, labels_publicSuffix]
    exact lastLabels_suffix_lastLabels (count_lookup_le_add hshape) _

/-- The wildcard under `kawasaki.jp` is not felt by that name itself, and gives
the names below it a longer suffix. -/
theorem publicSuffix_insert_kawasaki_jp :
    let list := RuleList.empty.insert "jp".toList .icann
    let more := list.insert "*.Kawasaki.JP.".toList .privatelyOwned
    more.toSuffixList.publicSuffix "kawasaki.jp".toList = ("jp".toList, .icann) ∧
      (list.toSuffixList.publicSuffix "a.b.kawasaki.jp".toList).1 = "jp".toList ∧
      (more.toSuffixList.publicSuffix "a.b.kawasaki.jp".toList).1 = "b.kawasaki.jp".toList ∧
      Name.labels "jp".toList <:+ Name.labels "b.kawasaki.jp".toList := by
  intro list more
  have hlist : list.toSuffixList = ofHistory [("jp".toList, .icann)] :=
    toSuffixList_insertAll [("jp".toList, .icann)]
  have hmore : more.toSuffixList
      = ofHistory [("jp".toList, .icann), ("*.Kawasaki.JP.".toList, .privatelyOwned)] :=
    toSuffixList_insertAll [("jp".toList, .icann), ("*.Kawasaki.JP.".toList, .privatelyOwned)]
  have hwrites : Writes "*.Kawasaki.JP.".toList ⟨.wildcard, ["kawasaki".toList, "jp".toList]⟩ := by
    refine ⟨["Kawasaki".toList, "JP".toList], 1, by decide, ?_, rfl, by decide⟩
    intro label hl
    rcases List.mem_pair.mp hl with rfl | rfl <;> constructor <;> decide
  have hnot : ¬ Rule.Matches ⟨.wildcard, ["kawasaki".toList, "jp".toList]⟩
      (Name.labels "kawasaki.jp".toList) := by
    intro hmatch
    obtain ⟨label, htail⟩ := hmatch
    have hlength : (Name.labels "kawasaki.jp".toList).length = 2 := by decide
    have hle := htail.length_le
    rw [hlength] at hle
    exact absurd hle (by simp)
  have hframe := (publicSuffix_insert list hwrites .privatelyOwned "kawasaki.jp".toList).1 hnot
  have hgrows := (publicSuffix_insert list hwrites .privatelyOwned "a.b.kawasaki.jp".toList).2
    (by decide)
  have hbefore : (list.toSuffixList.publicSuffix "a.b.kawasaki.jp".toList).1 = "jp".toList := by
    rw [hlist]
    decide
  have hafter : (more.toSuffixList.publicSuffix "a.b.kawasaki.jp".toList).1
      = "b.kawasaki.jp".toList := by
    rw [hmore]
    decide
  refine ⟨hframe.trans ?_, hbefore, hafter, ?_⟩
  · rw [hlist]
    decide
  · rw [← hbefore, ← hafter]
    exact hgrows

end RuleList

end DomainScope
