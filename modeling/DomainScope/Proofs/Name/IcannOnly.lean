/-
  DomainScope.Proofs.Name.IcannOnly
  ─────────────────────────────────
  **PRIVATE SUFFIXES THAT DO NOT COUNT.**

  Where private suffixes do not count, the walk asks the whole list and drops a
  label of every private answer.  It reaches the suffix that the ICANN rules
  alone give unless a private rule hides it: a private exception that is not
  longer than the suffix by two labels, or a private wildcard that covers the
  same tail.

  Main results
    `Unhidden.step`                one look-up finds the ICANN suffix or passes over it
    `suffixLabels_eq_iff`          the walk ends at the ICANN suffix if it is not
                                   hidden, and elsewhere if it is
    `decompose_eq_iff_not_hides`   the same for the parts of every name
-/
import DomainScope.Proofs.Name.Parts
import DomainScope.Proofs.Name.RuleWalk
import DomainScope.Proofs.Suffix.Sections

namespace DomainScope

open RuleList

/-! ## §1. Suffixes that are hidden. -/

/-- A private rule keeps the walk from the suffix that the ICANN rules give. -/
def Hides (kindOf? : Rule → Option SuffixKind) (ls suffix : List Text) : Prop :=
  2 ≤ suffix.length ∧
    ((∃ base, IsException kindOf? ls base .privatelyOwned ∧ base.length ≤ suffix.length + 1) ∨
      (kindOf? ⟨.wildcard, suffix.tail⟩ = some .privatelyOwned ∧
        ∀ base, ¬ IsException kindOf? ls base .icann))

/-- A tail that the walk cannot miss: ICANN rules cover it and no longer one,
and every exception is private and longer by two labels at least. -/
structure Unhidden (kindOf? : Rule → Option SuffixKind) (ls tail : List Text) : Prop where
  covered : IsCovered kindOf? ls tail .icann
  longest : ∀ other, IsCovered kindOf? ls other .icann → other.length ≤ tail.length
  farther : ∀ base kind, IsException kindOf? ls base kind →
    kind = .privatelyOwned ∧ tail.length + 1 < base.length

/-! ## §2. One look-up. -/

section LookUp

variable {part whole : Rule → Option SuffixKind} {ls tail : List Text} {s : Suffix}

/-- What holds of a name holds of its tails. -/
theorem Unhidden.of_suffix {rest : List Text} (h : Unhidden whole ls tail) (hrest : rest <:+ ls)
    (htail : tail <:+ rest) : Unhidden whole rest tail := by
  refine ⟨⟨htail, h.covered.hasKind⟩, ?_, ?_⟩
  · exact fun other ho => h.longest other (ho.of_suffix hrest)
  · exact fun base kind he => h.farther base kind (he.of_suffix hrest)

/-- **One look-up finds the ICANN suffix or passes over it**: then its answer is
private, and longer. -/
theorem Unhidden.step (hpart : IsPart part whole) (h : Unhidden whole ls tail)
    (hf : Finds whole ls s) :
    s = ⟨tail.length, .icann⟩ ∨ (s.kind = .privatelyOwned ∧ tail.length < s.count) := by
  cases hf with
  | @exception base kind he =>
    obtain ⟨rfl, hlong⟩ := h.farther base kind he
    right
    obtain ⟨label, behind, rfl⟩ := List.exists_cons_of_ne_nil he.ne_nil
    cases behind with
    | nil => simp at hlong
    | cons next behind =>
      refine ⟨rfl, ?_⟩
      rw [List.length_cons] at hlong
      exact Nat.lt_of_succ_lt_succ hlong
  | @covered other kind hno hc longest =>
    have hle := longest tail .icann h.covered
    rcases hpart.cover_cases hc with rfl | rfl
    · have hlen := Nat.le_antisymm (h.longest other hc) hle
      left
      rw [hlen]
    · right
      refine ⟨rfl, Nat.lt_of_le_of_ne hle ?_⟩
      intro hlen
      exact absurd (h.covered.eq_of_length hc hlen).2 (by simp)
  | nothing _ hn => exact absurd h.covered (hn tail .icann)

/-- The ICANN rules alone give an ICANN suffix or none. -/
theorem finds_part_cases (hpart : IsPart part whole) (hf : Finds part ls s) :
    s.kind = .icann ∨ s = .unmanaged := by
  cases hf with
  | @exception base kind he =>
    obtain ⟨rfl, -⟩ := hpart.isException_iff.mp he
    unfold exceptionSuffix
    split
    · exact .inr rfl
    · exact .inl rfl
  | covered _ hc => exact .inl (hpart.isCovered_whole hc).1
  | nothing => exact .inr rfl

/-- Where the ICANN rules give a single label, the whole list has no ICANN
suffix that is longer. -/
theorem count_le_one_of_part (hpart : IsPart part whole) {rest : List Text} {found : Suffix}
    (hrest : rest <:+ ls) (hf : Finds part ls s) (hone : s.count ≤ 1)
    (hfound : Finds whole rest found) (hkind : found.kind = .icann) : found.count ≤ 1 := by
  have hmanaged : found.kind ≠ .unmanaged := by simp [hkind]
  refine Nat.le_of_not_lt fun htwo => ?_
  have hcases := hfound.managed_cases hmanaged
  rw [hkind] at hcases
  rcases hf.bounds with ⟨base, kind, he, hlen⟩ | ⟨hno, hcover⟩
  · -- A short exception of ICANN lies on every tail that is long enough.
    obtain ⟨rfl, hwhole⟩ := hpart.isException_iff.mp he
    have hon : ∀ {other : List Text}, other <:+ rest → base.length ≤ other.length →
        IsException whole rest base .icann := fun ho hle =>
      ⟨he.ne_nil, (List.suffix_of_suffix_length_le he.isTail (ho.trans hrest) hle).trans ho,
        hwhole.hasKind⟩
    rcases hcases with ⟨other, ho, holen, shortest⟩ | ⟨hnone, other, ho, holen, -⟩
    · have hle := shortest base .icann (hon ho.isTail (by omega))
      omega
    · exact hnone base .icann (hon ho.isTail (by omega))
  · -- No exception, and nothing that ICANN covers has two labels.
    rcases hcases with ⟨other, ho, -, -⟩ | ⟨-, other, ho, holen, -⟩
    · exact hno other .icann (hpart.isException_iff.mpr ⟨rfl, ho.of_suffix hrest⟩)
    · have hle := hcover other .icann (hpart.isCovered_of_icann (ho.of_suffix hrest))
      omega

end LookUp

/-! ## §3. The walk. -/

namespace Decomposer

variable {part whole : RuleList} {policy : Policy} {ls s : List Text}

theorem isAnswered_iff (hoff : policy.privateSuffixes = false) :
    isAnswered ⟨whole.toSuffixList, policy⟩ ls = true ↔ (whole.lookup ls).kind = .icann := by
  show SuffixKind.isBoundary policy (whole.lookup ls).kind = true ↔ _
  cases (whole.lookup ls).kind <;> simp [SuffixKind.isBoundary, hoff]

/-- A walk ends at one label, or at an ICANN suffix of a tail it came by. -/
theorem WalksTo.cases_icann (hoff : policy.privateSuffixes = false) (hls : ls ≠ [])
    (h : WalksTo ⟨whole.toSuffixList, policy⟩ ls s) :
    s.length ≤ 1 ∨
      ∃ rest, rest <:+ ls ∧ s <:+ rest ∧ Finds whole.kindOf? rest ⟨s.length, .icann⟩ := by
  induction h with
  | @managed ls h =>
    refine .inr ⟨ls, List.suffix_rfl, answer_suffix _ ls, ?_⟩
    rw [length_answer hls, ← (isAnswered_iff hoff).mp h]
    exact finds_lookup whole ls
  | oneLabel => exact .inl (Nat.le_refl 1)
  | onward _ htail hrest _ ih =>
    rcases ih hrest with hone | ⟨rest, hrest, hs, hf⟩
    · exact .inl hone
    · exact .inr ⟨rest, hrest.trans (rest_suffix htail), hs, hf⟩

/-- An answer that does not end the walk is longer than the tail not hidden. -/
theorem lt_length_answer (hpart : IsPart part.kindOf? whole.kindOf?)
    (hoff : policy.privateSuffixes = false) {tail : List Text}
    (h : Unhidden whole.kindOf? ls tail)
    (hnot : isAnswered ⟨whole.toSuffixList, policy⟩ ls = false) :
    tail.length < (answer ⟨whole.toSuffixList, policy⟩ ls).length := by
  have hls : ls ≠ [] := by
    intro heq
    subst heq
    exact h.covered.ne_nil (List.suffix_nil.mp h.covered.isTail)
  rw [length_answer hls]
  rcases h.step hpart (finds_lookup whole ls) with hfound | ⟨-, hlong⟩
  · have hanswered := (isAnswered_iff hoff).mpr (congrArg Suffix.kind hfound)
    exact absurd (hanswered.symm.trans hnot) (by simp)
  · exact hlong

/-- **A walk ends at the tail that is not hidden.**  What is left of an answer
that does not end the walk still has it as a tail. -/
theorem WalksTo.eq_of_unhidden (hpart : IsPart part.kindOf? whole.kindOf?)
    (hoff : policy.privateSuffixes = false) {tail : List Text}
    (hwalk : WalksTo ⟨whole.toSuffixList, policy⟩ ls s) (h : Unhidden whole.kindOf? ls tail) :
    s = tail := by
  induction hwalk with
  | @managed ls hanswered =>
    rcases h.step hpart (finds_lookup whole ls) with hfound | ⟨hkind, -⟩
    · show lastLabels (whole.lookup ls).count ls = tail
      rw [hfound]
      exact lastLabels_length_of_suffix h.covered.isTail
    · exact absurd ((isAnswered_iff hoff).mp hanswered) (by simp [hkind])
  | oneLabel hnot htail =>
    have hlt := lt_length_answer hpart hoff h hnot
    have hpos := List.length_pos_iff.mpr h.covered.ne_nil
    rw [htail, List.length_singleton] at hlt
    omega
  | onward hnot htail _ _ ih =>
    have hlt := lt_length_answer hpart hoff h hnot
    rw [htail, List.length_cons] at hlt
    have hrest := rest_suffix htail
    exact ih (h.of_suffix hrest
      (List.suffix_of_suffix_length_le h.covered.isTail hrest (Nat.le_of_lt_succ hlt)))

/-- A walk over the ICANN rules ends at its first answer. -/
theorem suffixLabels_part (hpart : IsPart part.kindOf? whole.kindOf?) (policy : Policy)
    (hls : ls ≠ []) :
    suffixLabels ⟨part.toSuffixList, policy⟩ ls = answer ⟨part.toSuffixList, policy⟩ ls := by
  rcases finds_part_cases hpart (finds_lookup part ls) with hkind | hfound
  · refine suffixLabels_of_isAnswered ?_
    show SuffixKind.isBoundary policy (part.lookup ls).kind = true
    rw [hkind]
    rfl
  · have hnot : isAnswered ⟨part.toSuffixList, policy⟩ ls = false := by
      show SuffixKind.isBoundary policy (part.lookup ls).kind = false
      rw [hfound]
      rfl
    have hlen := @length_answer part policy ls hls
    rw [hfound] at hlen
    obtain ⟨label, hlabel⟩ := List.length_eq_one_iff.mp hlen
    rw [suffixLabels_of_not_isAnswered hnot, hlabel]

/-! ## §4. Hidden or not. -/

section Hidden

variable (hpart : IsPart part.kindOf? whole.kindOf?) (hoff : policy.privateSuffixes = false)
  (hls : ls ≠ []) (hwalk : WalksTo ⟨whole.toSuffixList, policy⟩ ls s)

include hpart in
theorem kind_part_eq (htwo : 2 ≤ (part.lookup ls).count) : (part.lookup ls).kind = .icann := by
  rcases finds_part_cases hpart (finds_lookup part ls) with hkind | hfound
  · exact hkind
  · rw [hfound] at htwo
    exact absurd htwo (by decide)

include hpart in
/-- An exception of ICANN leaves what it leaves among the ICANN rules alone, if
no private exception comes before it. -/
theorem lookup_eq_of_exception {base : List Text} {n : Nat} (hn : 1 ≤ n)
    (he : IsException part.kindOf? ls base .icann) (hlen : base.length = n + 1)
    (shortest : ∀ other kind, IsException part.kindOf? ls other kind →
      base.length ≤ other.length)
    (hfar : ∀ other, IsException whole.kindOf? ls other .privatelyOwned → n + 1 < other.length) :
    whole.lookup ls = ⟨n, .icann⟩ := by
  have hsuffix : exceptionSuffix base.tail .icann = ⟨n, .icann⟩ := by
    obtain ⟨label, behind, rfl⟩ := List.exists_cons_of_ne_nil he.ne_nil
    rw [List.length_cons, Nat.add_right_cancel_iff] at hlen
    have hne : behind ≠ [] := List.length_pos_iff.mp (by omega)
    unfold exceptionSuffix
    rw [List.tail_cons, if_neg (by simpa using hne), hlen]
  rw [← hsuffix, lookup_eq_iff]
  refine .exception (hpart.isException_iff.mp he).2 ?_
  intro other kind ho
  rcases hpart.exception_cases ho with rfl | rfl
  · exact shortest other .icann (hpart.isException_iff.mpr ⟨rfl, ho⟩)
  · have hlong := hfar other ho
    omega

include hpart hoff hls hwalk in
/-- **A suffix that is not hidden is reached.** -/
theorem eq_of_not_hides {suffix : List Text}
    (hsuffix : suffix = lastLabels (part.lookup ls).count ls)
    (htwo : 2 ≤ suffix.length) (hnot : ¬ Hides whole.kindOf? ls suffix) : s = suffix := by
  have hcount : suffix.length = (part.lookup ls).count := by
    rw [hsuffix]
    exact @length_answer part policy ls hls
  have hkind : (part.lookup ls).kind = .icann := kind_part_eq hpart (hcount ▸ htwo)
  have hfar : ∀ base, IsException whole.kindOf? ls base .privatelyOwned →
      suffix.length + 1 < base.length := fun base he =>
    Nat.lt_of_not_le fun hle => hnot ⟨htwo, .inl ⟨base, he, hle⟩⟩
  have hcases := (finds_lookup part ls).managed_cases (by simp [hkind])
  rw [hkind, ← hcount] at hcases
  rcases hcases with ⟨base, he, hlen, shortest⟩ | ⟨hno, tail, hc, hlen, longest⟩
  · -- The suffix is what an exception leaves: the whole list meets it first, too.
    have hfound := lookup_eq_of_exception hpart (by omega) he hlen shortest hfar
    have hanswered := (@isAnswered_iff whole policy ls hoff).mpr (congrArg Suffix.kind hfound)
    rw [hwalk.eq_answer hanswered, hsuffix, ← hcount]
    show lastLabels (whole.lookup ls).count ls = _
    rw [hfound]
  · -- The suffix is covered: private answers on the way are longer, and passed over.
    have htail : suffix = tail := by
      rw [hsuffix, ← hcount, ← hlen]
      exact lastLabels_length_of_suffix hc.isTail
    subst htail
    have hnone : ∀ base, ¬ IsException whole.kindOf? ls base .icann := fun base he =>
      hno base .icann (hpart.isException_iff.mpr ⟨rfl, he⟩)
    have hwild : whole.kindOf? ⟨.wildcard, suffix.tail⟩ ≠ some .privatelyOwned := fun hw =>
      hnot ⟨htwo, .inr ⟨hw, hnone⟩⟩
    refine hwalk.eq_of_unhidden hpart hoff ⟨(hpart.isCovered_whole hc).2.1 hwild, ?_, ?_⟩
    · exact fun other ho => longest other .icann (hpart.isCovered_of_icann ho)
    · intro base kind he
      rcases hpart.exception_cases he with rfl | rfl
      · exact absurd he (hnone base)
      · exact ⟨rfl, hfar base he⟩

include hpart in
/-- An exception of ICANN has one label more than the suffix, at least. -/
theorem length_of_exception (htwo : 2 ≤ (part.lookup ls).count) {base : List Text}
    {kind : SuffixKind} (he : IsException part.kindOf? ls base kind) :
    (part.lookup ls).count + 1 ≤ base.length := by
  have hkind := kind_part_eq hpart htwo
  rcases (finds_lookup part ls).managed_cases (by simp [hkind]) with
    ⟨other, -, hlen, shortest⟩ | ⟨hno, -⟩
  · rw [← hlen]
    exact shortest base kind he
  · exact absurd he (hno base kind)

include hpart hls hwalk hoff in
/-- A private exception that is short enough is met first, and nothing as long
as the suffix is left behind it. -/
theorem length_lt_of_exception {n : Nat} (hcount : n = (part.lookup ls).count) (htwo : 2 ≤ n)
    {base : List Text} (he : IsException whole.kindOf? ls base .privatelyOwned)
    (hle : base.length ≤ n + 1) : s.length < n := by
  obtain ⟨first, kind, hfirst, hshort, hfound⟩ := (finds_lookup whole ls).of_exception he
  have hprivate : kind = .privatelyOwned := by
    refine (hpart.exception_cases hfirst).resolve_left ?_
    intro heq
    subst heq
    -- It would be the exception that the ICANN rules find, and as long as the private one.
    have hlen := length_of_exception hpart (hcount ▸ htwo)
      (hpart.isException_iff.mpr ⟨rfl, hfirst⟩)
    rw [← hcount] at hlen
    exact absurd (hfirst.eq_of_length he (by omega)).2 (by simp)
  subst hprivate
  have hnot : isAnswered ⟨whole.toSuffixList, policy⟩ ls = false := by
    rw [← Bool.not_eq_true, isAnswered_iff hoff, hfound]
    unfold exceptionSuffix
    split <;> simp [Suffix.unmanaged]
  refine hwalk.length_lt hnot ?_ htwo
  rw [length_answer hls, hfound, exceptionSuffix_count, List.length_tail]
  omega

include hpart hls hwalk hoff in
/-- **A suffix that is hidden is not reached.** -/
theorem ne_of_hides {suffix : List Text} (hsuffix : suffix = lastLabels (part.lookup ls).count ls)
    (h : Hides whole.kindOf? ls suffix) : s ≠ suffix := by
  have hcount : suffix.length = (part.lookup ls).count := by
    rw [hsuffix]
    exact @length_answer part policy ls hls
  obtain ⟨htwo, ⟨base, he, hle⟩ | ⟨hwild, hnone⟩⟩ := h
  · intro heq
    subst heq
    exact Nat.lt_irrefl _ (length_lt_of_exception hpart hoff hls hwalk hcount htwo he hle)
  · -- The private wildcard gives its kind to the tail, so no look-up has it for ICANN.
    intro heq
    subst heq
    rcases hwalk.cases_icann hoff hls with hone | ⟨rest, hrest, hs, hf⟩
    · omega
    · rcases hf.managed_cases (by simp) with ⟨base, he, -, -⟩ | ⟨-, tail, hc, hlen, -⟩
      · exact hnone base (he.of_suffix hrest)
      · obtain rfl := suffix_eq_of_length hc.isTail hs hlen
        have hkind := hc.hasKind
        obtain ⟨label, behind, rfl⟩ := List.exists_cons_of_ne_nil hc.ne_nil
        rw [tailKind?_cons, show whole.kindOf? ⟨.wildcard, behind⟩ = _ from hwild] at hkind
        exact absurd hkind (by simp)

end Hidden

/-- **The walk ends where the ICANN rules alone end it, unless a private rule
hides that suffix.** -/
theorem suffixLabels_eq_iff (hpart : IsPart part.kindOf? whole.kindOf?)
    (hoff : policy.privateSuffixes = false) (policy' : Policy) (hls : ls ≠ []) :
    suffixLabels ⟨whole.toSuffixList, policy⟩ ls = suffixLabels ⟨part.toSuffixList, policy'⟩ ls ↔
      ¬ Hides whole.kindOf? ls (suffixLabels ⟨part.toSuffixList, policy'⟩ ls) := by
  have hcountWhole : ∀ ls, 1 ≤ (whole.lookup ls).count := (Offered.rules whole).count_pos
  have hcountPart : ∀ ls, 1 ≤ (part.lookup ls).count := (Offered.rules part).count_pos
  have hwalk := @walksTo_suffixLabels ⟨whole.toSuffixList, policy⟩ ls hcountWhole hls
  have hanswer := @length_answer part policy' ls hls
  rw [suffixLabels_part hpart policy' hls]
  constructor
  · exact fun heq hhides => ne_of_hides hpart hoff hls hwalk rfl hhides heq
  · intro hnot
    by_cases htwo : 2 ≤ (answer ⟨part.toSuffixList, policy'⟩ ls).length
    · exact eq_of_not_hides hpart hoff hls hwalk rfl htwo hnot
    · -- Both ends have a single label, which is the last one of the name.
      have hpos := List.length_pos_iff.mpr (hwalk.ne_nil hcountWhole hls)
      have hpos' := hcountPart ls
      have hone : (suffixLabels ⟨whole.toSuffixList, policy⟩ ls).length ≤ 1 := by
        rcases hwalk.cases_icann hoff hls with hone | ⟨rest, hrest, -, hf⟩
        · exact hone
        · exact count_le_one_of_part hpart hrest (finds_lookup part ls) (by omega) hf rfl
      have hlen : (suffixLabels ⟨whole.toSuffixList, policy⟩ ls).length
          = (answer ⟨part.toSuffixList, policy'⟩ ls).length := by omega
      exact suffix_eq_of_length hwalk.isTail (answer_suffix _ ls) hlen

/-! ## §5. The whole splitting. -/

/-- **Where private suffixes do not count, private rules change nothing but the
names whose ICANN suffix they hide.**  The rules of the history are added in
order, to the one list all of them and to the other those of ICANN. -/
theorem decompose_eq_iff_not_hides {history : List (Text × SuffixKind)} (h : Sectioned history)
    (accepts b : Bool) (name : Text) :
    decompose ⟨(empty.insertAll history).toSuffixList, ⟨accepts, false⟩⟩ name
        = decompose ⟨(empty.insertAll (icannEntries history)).toSuffixList, ⟨accepts, b⟩⟩ name ↔
      ∀ p, decompose ⟨(empty.insertAll (icannEntries history)).toSuffixList, ⟨accepts, b⟩⟩ name
          = .ok p →
        ¬ Hides (empty.insertAll history).kindOf? (Name.labels (Name.clean name))
          (Name.labels p.tld) := by
  have hpart := isPart_icannEntries h
  generalize empty.insertAll history = whole at *
  generalize empty.insertAll (icannEntries history) = part at *
  cases hvalid : Name.validate ⟨accepts, false⟩ name with
  | error e =>
    have hvalid' : Name.validate ⟨accepts, b⟩ name = .error e := hvalid
    rw [decompose_of_invalid hvalid, decompose_of_invalid hvalid']
    simp
  | ok u =>
    have hvalid' : Name.validate ⟨accepts, b⟩ name = .ok () := hvalid
    by_cases hroot : name = ['.']
    · subst hroot
      rw [decompose_root hvalid, decompose_root hvalid']
      refine iff_of_true rfl ?_
      intro p hp hhides
      cases hp
      -- The root name has no suffix of two labels.
      exact absurd hhides.1 (by decide)
    · have hls := Name.labels_ne_nil (Name.clean name)
      have hcount : ∀ ls, 1 ≤ (whole.lookup ls).count := (Offered.rules whole).count_pos
      have hcount' : ∀ ls, 1 ≤ (part.lookup ls).count := (Offered.rules part).count_pos
      have hwalk := @walksTo_suffixLabels ⟨whole.toSuffixList, ⟨accepts, false⟩⟩ _ hcount hls
      have hwalk' := @walksTo_suffixLabels ⟨part.toSuffixList, ⟨accepts, b⟩⟩ _ hcount' hls
      have hne' := hwalk'.ne_nil hcount' hls
      rw [decompose_of_valid hroot hvalid, decompose_of_valid hroot hvalid', Except.ok.injEq,
        partsAt_inj hwalk.isTail hwalk'.isTail (hwalk.ne_nil hcount hls) hne',
        suffixLabels_eq_iff hpart rfl ⟨accepts, b⟩ hls]
      have htld := labels_tld_partsAt hwalk'.isTail hne'
      constructor
      · intro hnot p hp
        cases hp
        rwa [htld]
      · intro hall
        have hnot := hall _ rfl
        rwa [htld] at hnot

/-- The private rule `blogspot.co.uk` is ignored. -/
theorem decompose_blogspot_co_uk :
    let history := [("co.uk".toList, SuffixKind.icann), ("blogspot.co.uk".toList, .privatelyOwned)]
    decompose ⟨(empty.insertAll history).toSuffixList, ⟨false, false⟩⟩
        "myblog.blogspot.co.uk".toList
      = decompose ⟨(empty.insertAll (icannEntries history)).toSuffixList, ⟨false, true⟩⟩
        "myblog.blogspot.co.uk".toList := by
  intro history
  have hsectioned : Sectioned history := .of_forall (by decide) (by decide)
  have hsuffix : suffixLabels ⟨ofHistory (icannEntries history), ⟨false, true⟩⟩
      ["myblog".toList, "blogspot".toList, "co".toList, "uk".toList]
        = ["co".toList, "uk".toList] := by
    rw [suffixLabels_of_isAnswered (by decide)]
    decide
  have hls : Name.labels (Name.clean "myblog.blogspot.co.uk".toList)
      = ["myblog".toList, "blogspot".toList, "co".toList, "uk".toList] := by decide
  refine (decompose_eq_iff_not_hides hsectioned false true _).mpr fun p hp hhides => ?_
  rw [toSuffixList_insertAll, decompose_of_valid (by decide) (by decide), hls, hsuffix] at hp
  cases hp
  rcases hhides.2 with ⟨base, he, -⟩ | ⟨hwild, -⟩
  · have hexact : ∀ entry ∈ history, (Rule.read? entry.1).map Rule.shape = some .exact := by decide
    obtain ⟨written, hmem, hreads⟩ := (kindOf?_insertAll_iff hsectioned).mp he.hasKind
    have hshape := hexact _ hmem
    rw [show Rule.read? written = _ from hreads] at hshape
    exact absurd hshape (by simp)
  · rw [kindOf?_insertAll_eq] at hwild
    exact absurd hwild (by decide)

/-- The private rule `*.uk` hides the suffix `co.uk`, although no rule stands in
both sections. -/
theorem decompose_hidden_co_uk :
    let history := [("co.uk".toList, SuffixKind.icann), ("*.uk".toList, .privatelyOwned)]
    Sectioned history ∧
      decompose ⟨(empty.insertAll history).toSuffixList, ⟨false, false⟩⟩ "x.co.uk".toList
        = .ok ⟨"uk".toList, "co".toList, "x".toList⟩ ∧
      decompose ⟨(empty.insertAll (icannEntries history)).toSuffixList, ⟨false, false⟩⟩
        "x.co.uk".toList = .ok ⟨"co.uk".toList, "x".toList, []⟩ := by
  intro history
  have hls : Name.labels (Name.clean "x.co.uk".toList)
      = ["x".toList, "co".toList, "uk".toList] := by decide
  refine ⟨.of_forall (by decide) (by decide), ?_, ?_⟩
  · have hsuffix : suffixLabels ⟨ofHistory history, ⟨false, false⟩⟩
        ["x".toList, "co".toList, "uk".toList] = ["uk".toList] := by
      -- The answer `co.uk` is private; without `co` nothing is left that is listed.
      rw [suffixLabels_of_not_isAnswered (by decide)]
      show suffixLabels ⟨ofHistory history, ⟨false, false⟩⟩ ["uk".toList] = ["uk".toList]
      rw [suffixLabels_of_not_isAnswered (by decide)]
      decide
    rw [toSuffixList_insertAll, decompose_of_valid (by decide) (by decide), hls, hsuffix]
    decide
  · have hsuffix : suffixLabels ⟨ofHistory (icannEntries history), ⟨false, false⟩⟩
        ["x".toList, "co".toList, "uk".toList] = ["co".toList, "uk".toList] := by
      rw [suffixLabels_of_isAnswered (by decide)]
      decide
    rw [toSuffixList_insertAll, decompose_of_valid (by decide) (by decide), hls, hsuffix]
    decide

end Decomposer

end DomainScope
