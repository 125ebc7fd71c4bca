/-
  DomainScope.Proofs.Name.LeadingLabel
  ────────────────────────────────────
  **A LABEL IN FRONT OF A NAME.**

  A label put in front of a name joins its subdomain, and nothing else changes,
  unless a rule matches the longer name as a whole.  The look-up of the longer
  name is the look-up of the shorter one and one round more: that round finds no
  rule, or comes too late because an exception has ended the look-up before.
  Taken the other way round, a label that stands in a subdomain can be dropped.
  There no rule that matches the whole has to be excluded, since a rule that
  ends the walk would have left no subdomain.

  Main results
    `lookup_cons_eq`                  a round that finds nothing new
    `suffixLabels_cons_cases`         the same suffix, or a suffix of nearly all labels
    `decompose_label_cons`            the parts of a name with a label in front
-/
import DomainScope.Proofs.Name.Parts
import DomainScope.Proofs.Name.RuleWalk
import DomainScope.Proofs.Suffix.Prevailing

namespace DomainScope

/-! ## §1. One round more. -/

/-- A rule that matches the whole of a name. -/
def Rule.MatchesWhole (rule : Rule) (ls : List Text) : Prop :=
  rule.Matches ls ∧ rule.size = ls.length

namespace RuleList

variable {kindOf? : Rule → Option SuffixKind} {ls : List Text} {label : Text} {s : Suffix}

/-- What an exception ends is not reached by a longer name. -/
theorem Finds.cons_of_exception {base : List Text} {kind : SuffixKind} (h : Finds kindOf? ls s)
    (he : IsException kindOf? ls base kind) : Finds kindOf? (label :: ls) s := by
  have hcons : ls <:+ label :: ls := List.suffix_cons label ls
  cases h with
  | @exception first k hfirst shortest =>
    refine .exception (hfirst.of_suffix hcons) ?_
    intro other k' ho
    rcases isTail_cons_iff.mp ho.isTail with rfl | ht
    · exact (hfirst.of_suffix hcons).isTail.length_le
    · exact shortest other k' ⟨ho.ne_nil, ht, ho.hasKind⟩
  | covered hno => exact absurd he (hno base kind)
  | nothing hno => exact absurd he (hno base kind)

/-- **A round that finds no rule changes nothing, and a round after an exception
is not made.** -/
theorem lookup_cons_eq {list : RuleList}
    (h : (list.kindOf? ⟨.exception, label :: ls⟩ = none ∧
        tailKind? list.kindOf? (label :: ls) = none) ∨
      ∃ base kind, IsException list.kindOf? ls base kind) :
    list.lookup (label :: ls) = list.lookup ls := by
  rw [lookup_eq_iff]
  have hfound := finds_lookup list ls
  by_cases hexc : ∃ base kind, IsException list.kindOf? ls base kind
  · obtain ⟨base, kind, he⟩ := hexc
    exact hfound.cons_of_exception he
  · obtain ⟨hnone, hcover⟩ := h.resolve_right hexc
    have hno : NoException list.kindOf? ls := fun base kind he => hexc ⟨base, kind, he⟩
    exact .cons_uncovered hno (hno.cons hnone) hcover hfound

/-- Where no rule matches the whole, the last round finds none. -/
theorem none_of_not_matchesWhole
    (h : ∀ rule kind, kindOf? rule = some kind → ¬ rule.MatchesWhole (label :: ls)) :
    kindOf? ⟨.exception, label :: ls⟩ = none ∧ tailKind? kindOf? (label :: ls) = none := by
  have hexception : kindOf? ⟨.exception, label :: ls⟩ = none := by
    rw [Option.eq_none_iff_forall_ne_some]
    intro kind hkind
    exact h _ kind hkind ⟨List.suffix_rfl, rfl⟩
  have hexact : kindOf? ⟨.exact, label :: ls⟩ = none := by
    rw [Option.eq_none_iff_forall_ne_some]
    intro kind hkind
    exact h _ kind hkind ⟨List.suffix_rfl, rfl⟩
  have hwildcard : kindOf? ⟨.wildcard, ls⟩ = none := by
    rw [Option.eq_none_iff_forall_ne_some]
    intro kind hkind
    exact h _ kind hkind ⟨⟨label, List.suffix_rfl⟩, rfl⟩
  refine ⟨hexception, ?_⟩
  rw [tailKind?_cons, hwildcard, hexact]
  rfl

/-- Every rule of a list stands in one of the two sections. -/
def Listed (list : RuleList) : Prop := ∀ rule, list.kindOf? rule ≠ some .unmanaged

/-- So does every rule of a list into which only such rules were written. -/
theorem listed_insertAll {history : List (Text × SuffixKind)}
    (h : ∀ entry ∈ history, entry.2 ≠ .unmanaged) : (empty.insertAll history).Listed := by
  intro rule hkind
  rw [kindOf?_insertAll, kindOf?_empty] at hkind
  rcases hkind with ⟨before, written, after, rfl, -⟩ | ⟨hnone, -⟩
  · exact h (written, .unmanaged) (by simp) rfl
  · exact absurd hnone (by simp)

theorem Listed.tailKind?_ne {list : RuleList} (h : list.Listed) (ls : List Text) :
    tailKind? list.kindOf? ls ≠ some .unmanaged := by
  cases ls with
  | nil => simp
  | cons label base =>
    rw [tailKind?_cons, ne_eq, Option.or_eq_some_iff, not_or]
    exact ⟨h _, fun hexact => h _ hexact.2⟩

end RuleList

open RuleList

/-! ## §2. The suffix behind a label. -/

theorem isBoundary_of_ne_unmanaged {policy : Policy} (hon : policy.privateSuffixes = true)
    {kind : SuffixKind} (h : kind ≠ .unmanaged) : SuffixKind.isBoundary policy kind = true := by
  cases kind with
  | icann => rfl
  | privatelyOwned => exact hon
  | unmanaged => exact absurd rfl h

namespace Decomposer

variable {list : RuleList} {policy : Policy} {ls : List Text} {label : Text}

theorem suffixLabels_length_of_lookup_eq {kind : SuffixKind} {count : Nat} (hls : ls ≠ [])
    (hfound : list.lookup ls = ⟨count, kind⟩) (hends : SuffixKind.isBoundary policy kind = true) :
    (suffixLabels ⟨list.toSuffixList, policy⟩ ls).length = count := by
  have hanswered : isAnswered ⟨list.toSuffixList, policy⟩ ls = true := by
    show SuffixKind.isBoundary policy (list.lookup ls).kind = true
    rw [hfound]
    exact hends
  rw [suffixLabels_of_isAnswered hanswered, length_answer hls, hfound]

/-- **The suffix behind a label is the same, or at most one label short of the
whole**, where private suffixes count. -/
theorem suffixLabels_cons_cases (hlisted : list.Listed) (hon : policy.privateSuffixes = true)
    (hls : ls ≠ []) :
    suffixLabels ⟨list.toSuffixList, policy⟩ (label :: ls)
        = suffixLabels ⟨list.toSuffixList, policy⟩ ls ∨
      ls.length ≤ (suffixLabels ⟨list.toSuffixList, policy⟩ (label :: ls)).length := by
  by_cases hexc : ∃ base kind, IsException list.kindOf? ls base kind
  · exact .inl (suffixLabels_cons_of_lookup_eq hls (lookup_cons_eq (.inr hexc)))
  · have hno : NoException list.kindOf? ls := fun base kind he => hexc ⟨base, kind, he⟩
    cases hkind : list.kindOf? ⟨.exception, label :: ls⟩ with
    | some kind =>
      -- The whole name is an exception, which leaves all labels but the first.
      have hfound : list.lookup (label :: ls) = exceptionSuffix ls kind :=
        lookup_eq_iff.mpr (@Finds.of_first_exception list.kindOf? [] ls label kind hno hkind)
      have hsuffix : exceptionSuffix ls kind = ⟨ls.length, kind⟩ := by
        unfold exceptionSuffix
        rw [if_neg (by simpa using hls)]
      have hne : kind ≠ .unmanaged := fun heq => hlisted _ (heq ▸ hkind)
      rw [hsuffix] at hfound
      right
      rw [suffixLabels_length_of_lookup_eq (List.cons_ne_nil label ls) hfound
        (isBoundary_of_ne_unmanaged hon hne)]
    | none =>
      cases hcover : tailKind? list.kindOf? (label :: ls) with
      | some kind =>
        -- A rule covers the whole name.
        have hfound := lookup_eq_iff.mpr (Finds.cons_covered (hno.cons hkind) hcover)
        have hne : kind ≠ .unmanaged := fun heq => hlisted.tailKind?_ne _ (heq ▸ hcover)
        right
        rw [suffixLabels_length_of_lookup_eq (List.cons_ne_nil label ls) hfound
          (isBoundary_of_ne_unmanaged hon hne), List.length_cons]
        exact Nat.le_succ _
      | none =>
        exact .inl (suffixLabels_cons_of_lookup_eq hls (lookup_cons_eq (.inl ⟨hkind, hcover⟩)))

end Decomposer

/-! ## §3. The parts behind a label. -/

/-- The parts of a name with a label in front of its subdomain. -/
def Parts.under (p : Parts) (label : Text) : Parts :=
  { p with sub := if p.sub = [] then label else label ++ '.' :: p.sub }

namespace Decomposer

/-- A label in front of the domain joins the subdomain. -/
theorem partsAt_cons_append {front tld : List Text} (label domain : Text)
    (hne : ∀ l ∈ front, l ≠ []) :
    partsAt (label :: (front ++ domain :: tld)) tld
      = (partsAt (front ++ domain :: tld) tld).under label := by
  rw [← List.cons_append, SlicedList.partsAt_append, SlicedList.partsAt_append]
  unfold Parts.under
  by_cases hfront : front = []
  · subst hfront
    simp
  · simp only [if_neg (Name.ofLabels_ne_nil hfront hne), Name.ofLabels_cons label hfront]

/-- One more label in front goes to the subdomain, if the suffix is not all of the name. -/
theorem partsAt_cons {ls tld : List Text} (label : Text) (h : tld <:+ ls) (hne : ∀ l ∈ ls, l ≠ [])
    (hlt : tld.length < ls.length) : partsAt (label :: ls) tld = (partsAt ls tld).under label := by
  rcases SlicedList.suffix_cases h with rfl | ⟨front, domain, rfl⟩
  · exact absurd hlt (Nat.lt_irrefl _)
  · exact partsAt_cons_append label domain fun l hl => hne l (by simp [hl])

theorem length_lt_of_domain_ne_nil {ls tld : List Text} (h : tld <:+ ls)
    (hdomain : (partsAt ls tld).domain ≠ []) : tld.length < ls.length := by
  rcases SlicedList.suffix_cases h with rfl | ⟨front, domain, rfl⟩
  · rw [SlicedList.partsAt_self] at hdomain
    exact absurd rfl hdomain
  · rw [List.length_append, List.length_cons]
    omega

theorem length_lt_of_sub_ne_nil {ls tld : List Text} {label : Text} (h : tld <:+ label :: ls)
    (hsub : (partsAt (label :: ls) tld).sub ≠ []) : tld.length < ls.length := by
  rcases SlicedList.suffix_cases h with heq | ⟨front, domain, heq⟩
  · rw [← heq, SlicedList.partsAt_self] at hsub
    exact absurd rfl hsub
  · rw [heq, SlicedList.partsAt_append] at hsub
    cases front with
    | nil => exact absurd rfl hsub
    | cons first front =>
      have hls : ls = front ++ domain :: tld := (List.cons.inj heq).2
      rw [hls, List.length_append, List.length_cons]
      omega

end Decomposer

/-! ## §4. The name behind a label. -/

namespace Name

/-- A label in small letters stays in front of the normal form. -/
theorem labels_clean_cons {label name : Text} (hdot : '.' ∉ label) (hlower : Text.lower label = label)
    (hne : name ≠ []) :
    labels (clean (label ++ '.' :: name)) = label :: labels (clean name) := by
  rw [labels_clean, labels_clean, labels_dropFinalDot_append_dot hdot hne, List.map_cons, hlower]

end Name

namespace Decomposer

variable {list : RuleList} {policy : Policy} {name label : Text}

/-- **A label in front of a name joins its subdomain**, where the name has a
domain and no rule matches the longer name as a whole, or an exception stands on
a tail of the shorter one; **and a label of a subdomain can be dropped**, where
private suffixes count. -/
theorem decompose_label_cons (hdot : '.' ∉ label) (hlower : Text.lower label = label)
    (hshort : Name.validate policy name = .ok ())
    (hlong : Name.validate policy (label ++ '.' :: name) = .ok ()) :
    (∀ p, decompose ⟨list.toSuffixList, policy⟩ name = .ok p → p.domain ≠ [] →
      ((∀ rule kind, list.kindOf? rule = some kind →
          ¬ rule.MatchesWhole (Name.labels (Name.clean (label ++ '.' :: name)))) ∨
        ∃ base kind, IsException list.kindOf? (Name.labels (Name.clean name)) base kind) →
      decompose ⟨list.toSuffixList, policy⟩ (label ++ '.' :: name) = .ok (p.under label)) ∧
    (list.Listed → policy.privateSuffixes = true →
      ∀ q, decompose ⟨list.toSuffixList, policy⟩ (label ++ '.' :: name) = .ok q → q.sub ≠ [] →
        ∃ p, decompose ⟨list.toSuffixList, policy⟩ name = .ok p ∧ q = p.under label) := by
  have hne := Name.ne_nil_of_validate hshort
  have hroot := Name.ne_dot_of_validate hlong
  have hls := Name.labels_ne_nil (Name.clean name)
  have hlabels := Name.labels_clean_ne_nil hroot hshort
  rw [decompose_of_valid hroot hshort, decompose_of_valid (Name.append_dot_ne_dot hne) hlong,
    Name.labels_clean_cons hdot hlower hne]
  generalize Name.labels (Name.clean name) = ls at *
  have htail := (walksTo_rules list policy hls).isTail
  have htail' := (walksTo_rules list policy (List.cons_ne_nil label ls)).isTail
  constructor
  · intro p hp hdomain hrules
    cases hp
    have hlookup : list.lookup (label :: ls) = list.lookup ls := by
      rcases hrules with hnone | hexception
      · exact lookup_cons_eq (.inl (none_of_not_matchesWhole hnone))
      · exact lookup_cons_eq (.inr hexception)
    rw [suffixLabels_cons_of_lookup_eq hls hlookup,
      partsAt_cons label htail hlabels (length_lt_of_domain_ne_nil htail hdomain)]
  · intro hlisted hon q hq hsub
    cases hq
    have hlt := length_lt_of_sub_ne_nil htail' hsub
    -- The suffix is too short to be one that the last round finds.
    rcases @suffixLabels_cons_cases list policy ls label hlisted hon hls with hsame | hle
    · rw [hsame] at hlt ⊢
      exact ⟨_, rfl, partsAt_cons label htail hlabels hlt⟩
    · exact absurd hlt (Nat.not_lt.mpr hle)

/-- A private rule for the whole of `eu.shop.city.kawasaki.jp` changes nothing
behind the exception `!city.kawasaki.jp`. -/
theorem decompose_eu_shop_city_kawasaki_jp :
    let history := [("*.kawasaki.jp".toList, SuffixKind.icann),
      ("!city.kawasaki.jp".toList, .icann), ("eu.shop.city.kawasaki.jp".toList, .privatelyOwned)]
    let d : Decomposer := ⟨(empty.insertAll history).toSuffixList, ⟨false, true⟩⟩
    let short : Parts := ⟨"kawasaki.jp".toList, "city".toList, "shop".toList⟩
    d.decompose "shop.city.kawasaki.jp".toList = .ok short ∧
      d.decompose "eu.shop.city.kawasaki.jp".toList = .ok (short.under "eu".toList) ∧
      ∃ p, d.decompose "shop.city.kawasaki.jp".toList = .ok p ∧
        short.under "eu".toList = p.under "eu".toList := by
  intro history d short
  have hls : Name.labels (Name.clean "shop.city.kawasaki.jp".toList)
      = ["shop".toList, "city".toList, "kawasaki".toList, "jp".toList] := by decide
  have hsuffix : suffixLabels ⟨ofHistory history, ⟨false, true⟩⟩
      ["shop".toList, "city".toList, "kawasaki".toList, "jp".toList]
        = ["kawasaki".toList, "jp".toList] := by
    rw [suffixLabels_of_isAnswered (by decide)]
    decide
  have hshort : d.decompose "shop.city.kawasaki.jp".toList = .ok short := by
    show decompose ⟨(empty.insertAll history).toSuffixList, ⟨false, true⟩⟩ _ = _
    rw [toSuffixList_insertAll, decompose_of_valid (by decide) (by decide), hls, hsuffix]
    decide
  have hexception : IsException (empty.insertAll history).kindOf?
      (Name.labels (Name.clean "shop.city.kawasaki.jp".toList))
      ["city".toList, "kawasaki".toList, "jp".toList] .icann := by
    rw [kindOf?_insertAll_eq, hls]
    exact ⟨by decide, List.suffix_cons _ _, by decide⟩
  have h := @decompose_label_cons (empty.insertAll history) ⟨false, true⟩
    "shop.city.kawasaki.jp".toList "eu".toList (by decide) (by decide) (by decide) (by decide)
  have hlong := h.1 short hshort (by decide) (.inr ⟨_, _, hexception⟩)
  exact ⟨hshort, hlong, h.2 (listed_insertAll (by decide)) rfl _ hlong (by decide)⟩

end Decomposer

end DomainScope
