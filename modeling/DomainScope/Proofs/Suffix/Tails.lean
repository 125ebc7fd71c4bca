/-
  DomainScope.Proofs.Suffix.Tails
  ───────────────────────────────
  **TAIL BY TAIL IS LABEL BY LABEL.**

  The tails of a text, from the last label outwards, are the texts of the last
  labels, of one more each time.  So the walk over the tails of a text and the
  walk over the labels of a name see the same rules in the same order, and give
  the same answer to every text.  From this the list for running without a list
  and the list of its suffixes as rules are the same list.

  Main results
    `tailsOutwards_ofLabels`     the tails of a text are the texts of its last labels
    `suffixOfText_eq`            asked for a text, a list of rules that was built
                                 answers as it does asked for labels
    `fallback_eq_asRules`        the list for running without a list as a list of rules
-/
import DomainScope.Proofs.Suffix.Sections
import DomainScope.Proofs.Suffix.Sliced
import DomainScope.Suffix.Tails

namespace DomainScope

/-! ## §1. The tails of a text. -/

namespace Name

/-- Behind the first dot stands the rest of the name, and behind the others what
stands behind the dots of that rest. -/
theorem behindDots_append_dot_cons {t : Text} (h : '.' ∉ t) (name : Text) :
    behindDots (t ++ '.' :: name) = name :: behindDots name := by
  induction t with
  | nil => exact if_pos rfl
  | cons c cs ih =>
    obtain ⟨hc, hcs⟩ := not_or.mp (mt List.mem_cons.mpr h)
    rw [List.cons_append, behindDots, if_neg (Ne.symm hc), ih hcs]

theorem behindDots_of_not_mem {t : Text} (h : '.' ∉ t) : behindDots t = [] := by
  induction t with
  | nil => rfl
  | cons c cs ih =>
    obtain ⟨hc, hcs⟩ := not_or.mp (mt List.mem_cons.mpr h)
    rw [behindDots, if_neg (Ne.symm hc), ih hcs]

/-- The rows of labels met on the way outwards: the labels on the way stand in
reverse order, and `before` is the row met last. -/
def rowsOutwards (before : List Text) : List Text → List (List Text)
  | [] => []
  | label :: rest => (label :: before) :: rowsOutwards (label :: before) rest

theorem rowsOutwards_concat (before rest : List Text) (label : Text) :
    rowsOutwards before (rest ++ [label])
      = rowsOutwards before rest ++ [label :: (rest.reverse ++ before)] := by
  induction rest generalizing before with
  | nil => rfl
  | cons next rest ih =>
    show (next :: before) :: rowsOutwards (next :: before) (rest ++ [label]) = _
    rw [ih, List.reverse_cons, List.append_assoc]
    rfl

/-- Row `i` has `i + 1` labels more than the start. -/
theorem getElem?_rowsOutwards (before rest : List Text) (i : Nat) (h : i < rest.length) :
    (rowsOutwards before rest)[i]? = some ((rest.take (i + 1)).reverse ++ before) := by
  induction rest generalizing before i with
  | nil => exact absurd h (Nat.not_lt_zero i)
  | cons label rest ih =>
    cases i with
    | zero => rfl
    | succ i =>
      show (rowsOutwards (label :: before) rest)[i]? = _
      rw [ih (label :: before) i (Nat.lt_of_succ_lt_succ h), List.take_succ_cons,
        List.reverse_cons, List.append_assoc]
      rfl

theorem length_rowsOutwards (before rest : List Text) :
    (rowsOutwards before rest).length = rest.length := by
  induction rest generalizing before with
  | nil => rfl
  | cons label rest ih =>
    show (rowsOutwards (label :: before) rest).length + 1 = _
    rw [ih, List.length_cons]

/-- **The tails of a text are the texts of its last labels**, of one more each
time. -/
theorem tailsOutwards_ofLabels {ls : List Text} (hls : ls ≠ []) (hdots : ∀ l ∈ ls, '.' ∉ l) :
    tailsOutwards (ofLabels ls) = (rowsOutwards [] ls.reverse).map ofLabels := by
  induction ls with
  | nil => exact absurd rfl hls
  | cons label ls ih =>
    obtain ⟨hlabel, hdots'⟩ := List.forall_mem_cons.mp hdots
    rw [List.reverse_cons, rowsOutwards_concat, List.reverse_reverse, List.append_nil,
      List.map_append, List.map_singleton]
    by_cases hnil : ls = []
    · subst hnil
      unfold tailsOutwards
      rw [ofLabels_singleton, behindDots_of_not_mem hlabel]
      rfl
    · rw [← ih hnil hdots']
      unfold tailsOutwards
      rw [ofLabels_cons label hnil, behindDots_append_dot_cons hlabel, List.reverse_cons]

/-- The text of the last labels, cut off at a dot. -/
theorem tailOf_eq (count : Nat) (name : Text) :
    tailOf count name = ofLabels (lastLabels count (labels name)) := by
  have hne := labels_ne_nil name
  have hdots : ∀ l ∈ labels name, '.' ∉ l := fun l hl => not_mem_labels hl
  have htails := tailsOutwards_ofLabels hne hdots
  rw [ofLabels_labels] at htails
  cases count with
  | zero => simp [tailOf, lastLabels]
  | succ count =>
    have hlength := congrArg List.length htails
    rw [List.length_map, length_rowsOutwards, List.length_reverse] at hlength
    -- The default is the tail behind all the others.
    have hget : tailOf (count + 1) name = (tailsOutwards name)[count]?.getD name := by
      unfold tailsOutwards at hlength ⊢
      rw [List.length_append, List.length_singleton] at hlength
      show (behindDots name).reverse[count]?.getD name = _
      rcases Nat.lt_trichotomy count (behindDots name).reverse.length with hlt | heq | hgt
      · rw [List.getElem?_append_left hlt]
      · subst heq
        simp
      · rw [List.getElem?_eq_none (by omega), List.getElem?_eq_none (by
          rw [List.length_append, List.length_singleton]
          omega)]
    rw [hget, htails, List.getElem?_map]
    by_cases hlt : count < (labels name).length
    · rw [getElem?_rowsOutwards _ _ _ (by rwa [List.length_reverse]), List.append_nil]
      unfold lastLabels
      rw [List.take_reverse, List.reverse_reverse]
      rfl
    · rw [List.getElem?_eq_none (by rw [length_rowsOutwards, List.length_reverse]; omega)]
      unfold lastLabels
      rw [show (labels name).length - (count + 1) = 0 by omega, List.drop_zero, ofLabels_labels]
      rfl

/-- What no list knows has its last label as suffix. -/
theorem unlisted_eq (name : Text) :
    unlisted name = (ofLabels (lastLabels 1 (labels name)), .unmanaged) := by
  show (lastLabel name, SuffixKind.unmanaged) = _
  unfold lastLabel
  rw [lastLabel_eq]

end Name

/-! ## §2. Asking a list of rules. -/

namespace RuleList

/-- A list that was built has no rule without labels: no wildcard without base,
and no exact rule for the empty text. -/
structure WellKept (kindOf? : Rule → Option SuffixKind) : Prop where
  wildcard : kindOf? ⟨.wildcard, []⟩ = none
  exact : kindOf? ⟨.exact, [[]]⟩ = none

theorem read?_ne {written : Text} {rule : Rule} (h : Rule.read? written = some rule) :
    rule.base ≠ [] ∧ rule ≠ ⟨.exact, [[]]⟩ := by
  unfold Rule.read? at h
  simp only at h
  split at h
  · exact absurd h (by simp)
  · cases h
    exact ⟨Name.labels_ne_nil _, by simp⟩
  · cases h
    exact ⟨Name.labels_ne_nil _, by simp⟩
  next hne _ _ =>
    cases h
    refine ⟨Name.labels_ne_nil _, ?_⟩
    intro heq
    have hlabels : Name.labels _ = [[]] := congrArg Rule.base heq
    have htext := congrArg Name.ofLabels hlabels
    rw [Name.ofLabels_labels, Name.ofLabels_singleton] at htext
    exact hne htext

theorem wellKept_insertAll (history : List (Text × SuffixKind)) :
    WellKept (empty.insertAll history).kindOf? := by
  have hread : ∀ {rule kind}, (empty.insertAll history).kindOf? rule = some kind →
      ∃ written, Rule.read? written = some rule := by
    intro rule kind hkind
    rw [kindOf?_insertAll, kindOf?_empty] at hkind
    rcases hkind with ⟨before, written, after, -, hreads, -⟩ | ⟨hnone, -⟩
    · exact ⟨written, hreads⟩
    · exact absurd hnone (by simp)
  constructor
  · rw [Option.eq_none_iff_forall_ne_some]
    intro kind hkind
    obtain ⟨written, hreads⟩ := hread hkind
    exact (read?_ne hreads).1 rfl
  · rw [Option.eq_none_iff_forall_ne_some]
    intro kind hkind
    obtain ⟨written, hreads⟩ := hread hkind
    exact (read?_ne hreads).2 rfl

variable {kindOf? : Rule → Option SuffixKind} {ls : List Text}

/-- The text of a suffix of a row of labels. -/
def textOf (ls : List Text) (s : Suffix) : Text × SuffixKind :=
  (Name.ofLabels (lastLabels s.count ls), s.kind)

/-- The text of an answer is made of the labels counted in it. -/
theorem textOf_of_suffix {tail : List Text} (h : tail <:+ ls) (kind : SuffixKind) :
    textOf ls ⟨tail.length, kind⟩ = (Name.ofLabels tail, kind) := by
  unfold textOf
  rw [lastLabels_length_of_suffix h]

theorem textOf_unmanaged (hls : ls ≠ []) (hdots : ∀ l ∈ ls, '.' ∉ l) :
    Name.unlisted (Name.ofLabels ls) = textOf ls .unmanaged := by
  rw [Name.unlisted_eq, Name.labels_ofLabels hls hdots]
  rfl

/-- The tail before, as a text. -/
def textBefore (before : List Text) : Option Text :=
  if before = [] then none else some (Name.ofLabels before)

/-- What a wildcard says of a tail, asked with the text of its base. -/
theorem wildcard_textBefore (hkept : WellKept kindOf?) {before : List Text}
    (hdots : ∀ l ∈ before, '.' ∉ l) :
    ((textBefore before).bind fun t => kindOf? ⟨.wildcard, Name.labels t⟩)
      = kindOf? ⟨.wildcard, before⟩ := by
  unfold textBefore
  by_cases hnil : before = []
  · rw [if_pos hnil, hnil, hkept.wildcard]
    rfl
  · rw [if_neg hnil]
    show kindOf? ⟨.wildcard, Name.labels (Name.ofLabels before)⟩ = _
    rw [Name.labels_ofLabels hnil hdots]

/-- What an exception leaves, as a text. -/
theorem textOf_exceptionSuffix (hls : ls ≠ []) (hdots : ∀ l ∈ ls, '.' ∉ l) {before : List Text}
    (h : before <:+ ls) (kind : SuffixKind) :
    textOf ls (exceptionSuffix before kind) =
      match textBefore before with
      | some t => (t, kind)
      | none => Name.unlisted (Name.ofLabels ls) := by
  unfold exceptionSuffix textBefore
  by_cases hnil : before = []
  · subst hnil
    exact (textOf_unmanaged hls hdots).symm
  · rw [if_neg (by simpa using hnil), if_neg hnil]
    exact textOf_of_suffix h kind

/-- **The walk over tails is the walk over labels.**  The induction is on the
labels that are left; `best` is the text of the best suffix so far. -/
theorem scan_eq (hkept : WellKept kindOf?) (hdots : ∀ l ∈ ls, '.' ∉ l) {rest before : List Text}
    {best : Option (Text × SuffixKind)} {s : Suffix} (hls : rest.reverse ++ before = ls)
    (hne : ls ≠ []) (hbest : best.getD (Name.unlisted (Name.ofLabels ls)) = textOf ls s) :
    scan kindOf? (Name.ofLabels ls) (textBefore before) best
        ((Name.rowsOutwards before rest).map Name.ofLabels)
      = textOf ls (walk kindOf? before s rest) := by
  induction rest generalizing before best s with
  | nil => exact hbest
  | cons label rest ih =>
    have hhere : label :: before <:+ ls := ⟨rest.reverse, by rw [← hls]; simp⟩
    have hdotsHere : ∀ l ∈ label :: before, '.' ∉ l := fun l hl => hdots l (hhere.subset hl)
    have hbefore : before <:+ ls := (List.suffix_cons label before).trans hhere
    have hlabels := Name.labels_ofLabels (List.cons_ne_nil label before) hdotsHere
    have hwildcard := wildcard_textBefore hkept (List.forall_mem_cons.mp hdotsHere).2
    show scan kindOf? (Name.ofLabels ls) (textBefore before) best
        (Name.ofLabels (label :: before) ::
          (Name.rowsOutwards (label :: before) rest).map Name.ofLabels) = _
    unfold scan walk
    rw [hlabels, hwildcard]
    cases hexc : kindOf? ⟨.exception, label :: before⟩ with
    | some kind =>
      simp only [hexc]
      exact (textOf_exceptionSuffix hne hdots hbefore kind).symm
    | none =>
      have hnext : some (Name.ofLabels (label :: before)) = textBefore (label :: before) :=
        (if_neg (List.cons_ne_nil label before)).symm
      have hls' : rest.reverse ++ label :: before = ls := by
        rw [← hls]
        simp
      simp only [hexc, hnext, tailKind?_cons]
      -- The wildcard goes before the exact rule, and either before what was found so far.
      cases kindOf? ⟨.wildcard, before⟩ with
      | some kind => exact ih hls' (textOf_of_suffix hhere kind).symm
      | none =>
        cases kindOf? ⟨.exact, label :: before⟩ with
        | some kind => exact ih hls' (textOf_of_suffix hhere kind).symm
        | none => exact ih hls' hbest

/-- **Asked for a text, a list of rules answers as it does asked for labels**,
whatever the text. -/
theorem suffixOfText_eq {list : RuleList} (hkept : WellKept list.kindOf?) (name : Text) :
    list.suffixOfText name = list.toSuffixList.publicSuffix name := by
  have hne := Name.labels_ne_nil name
  have hdots : ∀ l ∈ Name.labels name, '.' ∉ l := fun l hl => Name.not_mem_labels hl
  show list.suffixOfText name = textOf (Name.labels name) (list.lookup (Name.labels name))
  unfold suffixOfText
  cases name with
  | nil =>
    -- The empty text has one empty label, and no rule but an exception can be that.
    have hlookup : list.lookup [[]] = .unmanaged := by
      show walk list.kindOf? [] .unmanaged [[]] = _
      unfold walk
      simp only [tailKind?_cons, hkept.wildcard, hkept.exact]
      cases list.kindOf? ⟨.exception, [[]]⟩ with
      | some kind => rfl
      | none => rfl
    rw [Name.labels_nil, hlookup]
    show Name.unlisted [] = textOf [[]] .unmanaged
    rw [Name.unlisted_eq, Name.labels_nil]
    rfl
  | cons c cs =>
    have htails := Name.tailsOutwards_ofLabels hne hdots
    have hscan := @scan_eq list.kindOf? (Name.labels (c :: cs)) hkept hdots
      (Name.labels (c :: cs)).reverse [] none .unmanaged (by simp) hne
      (textOf_unmanaged hne hdots)
    rw [← htails, Name.ofLabels_labels] at hscan
    exact hscan

end RuleList

/-! ## §3. Asking without a list. -/

namespace Fallback

open RuleList

/-- The suffixes known are the labels of the texts. -/
theorem isKnown_iff {ls : List Text} :
    isKnown ls = true ↔ ∃ suffix ∈ suffixes, Name.labels suffix.toList = ls := by
  unfold isKnown
  simp

/-- All of the suffixes known have two labels. -/
theorem length_of_isKnown {ls : List Text} (h : isKnown ls = true) : ls.length = 2 := by
  have htwo : ∀ suffix ∈ suffixes, (Name.labels suffix.toList).length = 2 := by decide
  obtain ⟨suffix, hmem, rfl⟩ := isKnown_iff.mp h
  exact htwo suffix hmem

/-- A known suffix as a text and as labels. -/
theorem any_suffixes_ofLabels {ls : List Text} (hls : ls ≠ []) (hdots : ∀ l ∈ ls, '.' ∉ l) :
    suffixes.any (fun suffix => suffix.toList = Name.ofLabels ls) = isKnown ls := by
  rw [Bool.eq_iff_iff, isKnown_iff, List.any_eq_true]
  constructor
  · intro hyp
    obtain ⟨suffix, hmem, htext⟩ := hyp
    refine ⟨suffix, hmem, ?_⟩
    rw [of_decide_eq_true htext, Name.labels_ofLabels hls hdots]
  · intro hyp
    obtain ⟨suffix, hmem, rfl⟩ := hyp
    exact ⟨suffix, hmem, decide_eq_true (Name.ofLabels_labels _).symm⟩

/-- Asked for a text, the list answers as it does asked for labels. -/
theorem suffixOfText_eq (name : Text) : suffixOfText name = list.publicSuffix name := by
  have hls := Name.labels_ne_nil name
  have hsuffix := lastLabels_suffix 2 (Name.labels name)
  have hdots : ∀ l ∈ lastLabels 2 (Name.labels name), '.' ∉ l :=
    fun l hl => Name.not_mem_labels (hsuffix.subset hl)
  have hne : lastLabels 2 (Name.labels name) ≠ [] := lastLabels_ne_nil (by decide) hls
  show suffixOfText name = textOf (Name.labels name) (lookup (Name.labels name))
  unfold suffixOfText lookup
  simp only [Name.tailOf_eq, any_suffixes_ofLabels hne hdots]
  cases hknown : isKnown (lastLabels 2 (Name.labels name)) with
  | false =>
    rw [if_neg (by simp), if_neg (by simp), Name.unlisted_eq]
    rfl
  | true =>
    -- A suffix of two labels is not the last label.
    have hlast : Name.ofLabels (lastLabels 2 (Name.labels name)) ≠ Name.lastLabel name := by
      intro heq
      have hlabel : Name.lastLabel name = Name.ofLabels (lastLabels 1 (Name.labels name)) :=
        congrArg Prod.fst (Name.unlisted_eq name)
      have hone : lastLabels 1 (Name.labels name) ≠ [] := lastLabels_ne_nil (by decide) hls
      have hlabels := congrArg Name.labels (heq.trans hlabel)
      rw [Name.labels_ofLabels_of_suffix hsuffix hne,
        Name.labels_ofLabels_of_suffix (lastLabels_suffix 1 _) hone] at hlabels
      have hlength := length_of_isKnown hknown
      rw [hlabels, length_lastLabels (List.length_pos_iff.mpr hls)] at hlength
      exact absurd hlength (by decide)
    rw [if_pos ⟨hlast, rfl⟩, if_pos rfl]
    rfl

/-! ## §4. The suffixes known as rules. -/

theorem sectioned_suffixes :
    Sectioned (suffixes.map fun suffix => (suffix.toList, SuffixKind.icann)) := by
  have hicann : ∀ entry ∈ suffixes.map fun suffix => (suffix.toList, SuffixKind.icann),
      entry.2 = .icann := by
    intro entry hmem
    obtain ⟨suffix, -, rfl⟩ := List.mem_map.mp hmem
    rfl
  refine .of_forall ?_ ?_
  · intro entry hmem
    rw [hicann entry hmem]
    decide
  · intro entry hmem other hother _
    rw [hicann entry hmem, hicann other hother]

/-- The rules are the suffixes known, each an exact rule of ICANN. -/
theorem kindOf?_asRules {rule : Rule} {kind : SuffixKind} :
    asRules.kindOf? rule = some kind ↔
      rule.shape = .exact ∧ isKnown rule.base = true ∧ kind = .icann := by
  have hread : ∀ suffix ∈ suffixes,
      Rule.read? suffix.toList = some ⟨.exact, Name.labels suffix.toList⟩ := by decide
  unfold asRules
  rw [kindOf?_insertAll_iff sectioned_suffixes, isKnown_iff]
  constructor
  · intro hyp
    obtain ⟨written, hmem, hreads⟩ := hyp
    obtain ⟨suffix, hsuffix, heq⟩ := List.mem_map.mp hmem
    cases heq
    have hrule := (hread suffix hsuffix).symm.trans hreads
    cases hrule
    exact ⟨rfl, ⟨suffix, hsuffix, rfl⟩, rfl⟩
  · intro hyp
    obtain ⟨hshape, ⟨suffix, hsuffix, hbase⟩, rfl⟩ := hyp
    refine ⟨suffix.toList, List.mem_map.mpr ⟨suffix, hsuffix, rfl⟩, ?_⟩
    show Rule.read? suffix.toList = some rule
    rw [hread suffix hsuffix, hbase, ← hshape]

/-- As rules, the suffixes known are exact ones of the ICANN kind. -/
theorem tailKind?_asRules {tail : List Text} {kind : SuffixKind} :
    tailKind? asRules.kindOf? tail = some kind ↔ isKnown tail = true ∧ kind = .icann := by
  cases tail with
  | nil =>
    have hnot : isKnown [] = false := by decide
    simp [hnot]
  | cons label base =>
    rw [tailKind?_cons, Option.or_eq_some_iff, kindOf?_asRules, kindOf?_asRules,
      Option.eq_none_iff_forall_ne_some]
    simp [kindOf?_asRules]

/-- **Two labels are cut off exactly where the rules find two.** -/
theorem lookup_eq_asRules (ls : List Text) : lookup ls = asRules.lookup ls := by
  have hnone : NoException asRules.kindOf? ls := by
    intro base kind he
    exact absurd (kindOf?_asRules.mp he.hasKind).1 (by simp)
  symm
  rw [lookup_eq_iff]
  unfold lookup
  by_cases hknown : isKnown (lastLabels 2 ls) = true
  · rw [if_pos hknown, ← length_of_isKnown hknown]
    refine .covered hnone ⟨lastLabels_suffix 2 ls, tailKind?_asRules.mpr ⟨hknown, rfl⟩⟩ ?_
    intro other kind hc
    have hother := length_of_isKnown (tailKind?_asRules.mp hc.hasKind).1
    exact Nat.le_of_eq (hother.trans (length_of_isKnown hknown).symm)
  · rw [if_neg hknown]
    refine .nothing hnone ?_
    -- A tail that a rule covers has two labels, and would be the tail cut off.
    intro tail kind hc
    obtain ⟨htail, -⟩ := tailKind?_asRules.mp hc.hasKind
    rw [← length_of_isKnown htail, lastLabels_length_of_suffix hc.isTail] at hknown
    exact hknown htail

/-- **The list for running without a list is the list of its suffixes as
rules**, for every text, asked for labels and asked tail by tail. -/
theorem fallback_eq_asRules (name : Text) :
    list.publicSuffix name = asRules.toSuffixList.publicSuffix name ∧
      suffixOfText name = asRules.suffixOfText name := by
  have hlists : list.publicSuffix name = asRules.toSuffixList.publicSuffix name := by
    show textOf (Name.labels name) (lookup (Name.labels name))
      = textOf (Name.labels name) (asRules.lookup (Name.labels name))
    rw [lookup_eq_asRules]
  refine ⟨hlists, ?_⟩
  have hkept : WellKept asRules.kindOf? := wellKept_insertAll _
  rw [suffixOfText_eq, RuleList.suffixOfText_eq hkept, hlists]

end Fallback

end DomainScope
