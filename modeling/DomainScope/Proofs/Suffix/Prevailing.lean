/-
  DomainScope.Proofs.Suffix.Prevailing
  ────────────────────────────────────
  **A RULE LIST ANSWERS WITH THE PREVAILING RULE.**

  The algorithm of public suffix lists, said on the set of rules: an exception
  that matches prevails, the shortest one if there are several; otherwise the
  matching rule with the most labels does; otherwise the rightmost label is the
  suffix.  A rule matches a name if its labels are the last labels of the name,
  the star of a wildcard standing for one label.

  Main result
    `publicSuffix_eq_iff_prevails`   a list built from well written rules gives
                                     the suffix that prevails, and no other
-/
import DomainScope.Proofs.Suffix.Lookup
import DomainScope.Proofs.Suffix.Written

namespace DomainScope

/-! ## §1. The algorithm. -/

/-- The number of labels of a rule. -/
def Rule.size (rule : Rule) : Nat :=
  match rule.shape with
  | .wildcard => rule.base.length + 1
  | _ => rule.base.length

/-- A rule matches a name. -/
def Rule.Matches (rule : Rule) (ls : List Text) : Prop :=
  match rule.shape with
  | .wildcard => ∃ label, label :: rule.base <:+ ls
  | _ => rule.base <:+ ls

/-- An exception that matches, with as few labels as any. -/
structure ShortestException (given : Rule → SuffixKind → Prop) (ls base : List Text)
    (kind : SuffixKind) : Prop where
  isGiven : given ⟨.exception, base⟩ kind
  isMatch : Rule.Matches ⟨.exception, base⟩ ls
  shortest : ∀ other k, given other k → other.shape = .exception → other.Matches ls →
    base.length ≤ other.size

/-- A rule that matches, with as many labels as any; of an exact rule and a
wildcard with the same labels it is the wildcard. -/
structure LongestRule (given : Rule → SuffixKind → Prop) (ls : List Text) (rule : Rule)
    (kind : SuffixKind) : Prop where
  isGiven : given rule kind
  isMatch : rule.Matches ls
  longest : ∀ other k, given other k → other.Matches ls → other.size ≤ rule.size
  prefersWildcard : ∀ other k, given other k → other.Matches ls → other.size = rule.size →
    other.shape = .wildcard → rule.shape = .wildcard

/-- The suffix of a name, and its kind, among the rules given. -/
inductive Prevails (given : Rule → SuffixKind → Prop) (ls : List Text) :
    List Text → SuffixKind → Prop where
  /-- An exception, without its leftmost label. -/
  | exception {label next : Text} {base : List Text} {kind : SuffixKind}
      (h : ShortestException given ls (label :: next :: base) kind) :
      Prevails given ls (next :: base) kind
  /-- An exception of a single label. -/
  | loneException {label : Text} {kind : SuffixKind} (h : ShortestException given ls [label] kind) :
      Prevails given ls (lastLabels 1 ls) .unmanaged
  /-- The longest rule, if there is no exception. -/
  | longest {rule : Rule} {kind : SuffixKind}
      (none : ∀ other k, given other k → other.shape = .exception → ¬ other.Matches ls)
      (h : LongestRule given ls rule kind) :
      Prevails given ls (lastLabels rule.size ls) kind
  /-- No rule. -/
  | unlisted (none : ∀ rule k, given rule k → ¬ rule.Matches ls) :
      Prevails given ls (lastLabels 1 ls) .unmanaged

/-! ## §2. The algorithm and the look-up. -/

namespace RuleList

/-- The rules given are the ones a list shows, and no base among them is empty. -/
structure ShownBy (given : Rule → SuffixKind → Prop) (kindOf? : Rule → Option SuffixKind) :
    Prop where
  iff : ∀ {rule kind}, given rule kind ↔ kindOf? rule = some kind
  base_ne : ∀ {rule kind}, given rule kind → rule.base ≠ []

variable {given : Rule → SuffixKind → Prop} {kindOf? : Rule → Option SuffixKind} {ls : List Text}

theorem isException_of_matches (hshown : ShownBy given kindOf?) {rule : Rule} {kind : SuffixKind}
    (hgiven : given rule kind) (hshape : rule.shape = .exception) (h : rule.Matches ls) :
    IsException kindOf? ls rule.base kind ∧ rule.size = rule.base.length := by
  have hne := hshown.base_ne hgiven
  obtain ⟨shape, base⟩ := rule
  obtain rfl : shape = .exception := hshape
  exact ⟨⟨hne, h, hshown.iff.mp hgiven⟩, rfl⟩

/-- A rule that matches, no exception, covers as many labels as it has. -/
theorem exists_isCovered_of_matches (hshown : ShownBy given kindOf?) {rule : Rule}
    {kind : SuffixKind} (hgiven : given rule kind) (hshape : rule.shape ≠ .exception)
    (h : rule.Matches ls) :
    ∃ tail k, IsCovered kindOf? ls tail k ∧ tail.length = rule.size := by
  have hkind := hshown.iff.mp hgiven
  have hne := hshown.base_ne hgiven
  obtain ⟨shape, base⟩ := rule
  cases shape with
  | exact =>
    obtain ⟨label, base, rfl⟩ := List.exists_cons_of_ne_nil hne
    cases hwild : kindOf? ⟨.wildcard, base⟩ with
    | none => exact ⟨label :: base, kind, ⟨h, by simp [tailKind?_cons, hwild, hkind]⟩, rfl⟩
    | some k => exact ⟨label :: base, k, ⟨h, by simp [tailKind?_cons, hwild]⟩, rfl⟩
  | wildcard =>
    obtain ⟨label, hmatch⟩ := h
    exact ⟨label :: base, kind, ⟨hmatch, by simp [tailKind?_cons, hkind]⟩, rfl⟩
  | exception => exact absurd rfl hshape

/-- The rule behind a tail covered: the wildcard, where there is one. -/
theorem exists_matches_of_isCovered (hshown : ShownBy given kindOf?) {tail : List Text}
    {kind : SuffixKind} (h : IsCovered kindOf? ls tail kind) :
    ∃ rule, given rule kind ∧ rule.shape ≠ .exception ∧ rule.Matches ls ∧
      rule.size = tail.length ∧
        (kindOf? ⟨.wildcard, tail.tail⟩ ≠ none → rule.shape = .wildcard) := by
  obtain ⟨label, base, rfl⟩ := List.exists_cons_of_ne_nil h.ne_nil
  have hkind := h.hasKind
  rw [tailKind?_cons] at hkind
  cases hwild : kindOf? ⟨.wildcard, base⟩ with
  | none =>
    rw [hwild, Option.none_or] at hkind
    refine ⟨⟨.exact, label :: base⟩, hshown.iff.mpr hkind, by simp, h.isTail, rfl, ?_⟩
    exact fun hne => absurd hwild hne
  | some k =>
    rw [hwild, Option.some_or] at hkind
    refine ⟨⟨.wildcard, base⟩, ?_, by simp, ⟨label, h.isTail⟩, rfl, fun _ => rfl⟩
    exact hshown.iff.mpr (hwild.trans hkind)

/-- The longest rule covers the tail with its own kind. -/
theorem isCovered_of_longestRule (hshown : ShownBy given kindOf?) {rule : Rule} {kind : SuffixKind}
    (hshape : rule.shape ≠ .exception) (h : LongestRule given ls rule kind) :
    ∃ tail, IsCovered kindOf? ls tail kind ∧ tail.length = rule.size := by
  obtain ⟨tail, k, hc, hlen⟩ := exists_isCovered_of_matches hshown h.isGiven hshape h.isMatch
  have hkind := hshown.iff.mp h.isGiven
  have hmatch := h.isMatch
  have hprefers := h.prefersWildcard
  refine ⟨tail, ⟨hc.isTail, ?_⟩, hlen⟩
  obtain ⟨label, base, rfl⟩ := List.exists_cons_of_ne_nil hc.ne_nil
  obtain ⟨shape, rbase⟩ := rule
  -- Only an exact rule can lose its kind, and then to a wildcard it would not be preferred to.
  cases shape with
  | exact =>
    obtain rfl := suffix_eq_of_length hc.isTail hmatch hlen
    cases hw : kindOf? ⟨.wildcard, base⟩ with
    | none => simp [tailKind?_cons, hw, hkind]
    | some k' =>
      have h' := hprefers ⟨.wildcard, base⟩ k' (hshown.iff.mpr hw) ⟨label, hc.isTail⟩ rfl rfl
      exact absurd h' (by simp)
  | wildcard =>
    obtain ⟨label', hm⟩ := hmatch
    obtain ⟨rfl, rfl⟩ := List.cons.inj (suffix_eq_of_length hc.isTail hm hlen)
    simp [tailKind?_cons, hkind]
  | exception => exact absurd rfl hshape

theorem finds_of_prevails (hshown : ShownBy given kindOf?) {tail : List Text} {kind : SuffixKind}
    (h : Prevails given ls tail kind) :
    ∃ s, Finds kindOf? ls s ∧ tail = lastLabels s.count ls ∧ kind = s.kind := by
  have hexc : ∀ {base k}, ShortestException given ls base k → base ≠ [] →
      Finds kindOf? ls (exceptionSuffix base.tail k) := by
    intro base k he hne
    refine .exception ⟨hne, he.isMatch, hshown.iff.mp he.isGiven⟩ ?_
    intro other k' ho
    exact he.shortest ⟨.exception, other⟩ k' (hshown.iff.mpr ho.hasKind) rfl ho.isTail
  have hno : (∀ other k, given other k → other.shape = .exception → ¬ other.Matches ls) →
      NoException kindOf? ls := by
    intro none base k he
    exact none ⟨.exception, base⟩ k (hshown.iff.mpr he.hasKind) rfl he.isTail
  cases h with
  | @exception label next base kind he =>
    have hbase : next :: base <:+ ls := (List.suffix_cons label (next :: base)).trans he.isMatch
    refine ⟨_, hexc he (by simp), ?_, rfl⟩
    exact (lastLabels_length_of_suffix hbase).symm
  | loneException he => exact ⟨_, hexc he (by simp), rfl, rfl⟩
  | @longest rule kind none hlong =>
    -- A rule that matches is no exception here, so it covers a tail.
    have hshape : rule.shape ≠ .exception := fun he => none rule kind hlong.isGiven he hlong.isMatch
    obtain ⟨tail, hc, hlen⟩ := isCovered_of_longestRule hshown hshape hlong
    refine ⟨_, .covered (hno none) hc ?_, by rw [hlen], rfl⟩
    intro other k ho
    obtain ⟨orule, hgiven, -, hmatch, hsize, -⟩ := exists_matches_of_isCovered hshown ho
    rw [← hsize, hlen]
    exact hlong.longest orule k hgiven hmatch
  | unlisted none =>
    refine ⟨.unmanaged, .nothing (hno fun other k hgiven _ => none other k hgiven) ?_, rfl, rfl⟩
    intro tail k hc
    obtain ⟨rule, hgiven, -, hmatch, -⟩ := exists_matches_of_isCovered hshown hc
    exact none rule k hgiven hmatch

theorem prevails_of_finds (hshown : ShownBy given kindOf?) {s : Suffix} (h : Finds kindOf? ls s) :
    Prevails given ls (lastLabels s.count ls) s.kind := by
  have hno : NoException kindOf? ls →
      ∀ other k, given other k → other.shape = .exception → ¬ other.Matches ls := by
    intro hnone other k hgiven hshape hmatch
    exact hnone other.base k (isException_of_matches hshown hgiven hshape hmatch).1
  cases h with
  | @exception base kind he shortest =>
    have hshort : ShortestException given ls base kind := by
      refine ⟨hshown.iff.mpr he.hasKind, he.isTail, ?_⟩
      intro other k hgiven hshape hmatch
      obtain ⟨ho, hsize⟩ := isException_of_matches hshown hgiven hshape hmatch
      rw [hsize]
      exact shortest other.base k ho
    obtain ⟨label, base, rfl⟩ := List.exists_cons_of_ne_nil he.ne_nil
    cases base with
    | nil => exact .loneException hshort
    | cons next base =>
      have htail : next :: base <:+ ls := (List.suffix_cons label (next :: base)).trans he.isTail
      show Prevails given ls (lastLabels (next :: base).length ls) kind
      rw [lastLabels_length_of_suffix htail]
      exact .exception hshort
  | @covered tail kind hnone hc longest =>
    obtain ⟨rule, hgiven, hshape, hmatch, hsize, hwild⟩ := exists_matches_of_isCovered hshown hc
    show Prevails given ls (lastLabels tail.length ls) kind
    rw [← hsize]
    -- Of an exact rule and a wildcard on this tail, `rule` is the wildcard.
    refine .longest (hno hnone) ⟨hgiven, hmatch, ?_, ?_⟩
    · intro other k hother homatch
      obtain ⟨otail, k', ho, hlen⟩ := exists_isCovered_of_matches hshown hother
        (fun he => hno hnone other k hother he homatch) homatch
      rw [hsize, ← hlen]
      exact longest otail k' ho
    · intro other k hother homatch hosize hoshape
      obtain ⟨oshape, obase⟩ := other
      obtain rfl : oshape = .wildcard := hoshape
      obtain ⟨label, homatch⟩ := homatch
      have htail := suffix_eq_of_length homatch hc.isTail (hosize.trans hsize)
      refine hwild ?_
      rw [← htail, List.tail_cons, hshown.iff.mp hother]
      simp
  | nothing hnone hn =>
    refine .unlisted ?_
    intro rule k hgiven hmatch
    by_cases hshape : rule.shape = .exception
    · exact hno hnone rule k hgiven hshape hmatch
    · obtain ⟨tail, k', hc, -⟩ := exists_isCovered_of_matches hshown hgiven hshape hmatch
      exact hn tail k' hc

/-- **What prevails is what the look-up finds.** -/
theorem prevails_iff_lookup {list : RuleList} (hshown : ShownBy given list.kindOf?)
    {tail : List Text} {kind : SuffixKind} :
    Prevails given ls tail kind ↔
      tail = lastLabels (list.lookup ls).count ls ∧ kind = (list.lookup ls).kind := by
  constructor
  · intro h
    obtain ⟨s, hs, htail, hkind⟩ := finds_of_prevails hshown h
    rw [lookup_eq_iff.mpr hs]
    exact ⟨htail, hkind⟩
  · intro hyp
    obtain ⟨rfl, rfl⟩ := hyp
    exact prevails_of_finds hshown (finds_lookup list ls)

end RuleList

/-! ## §3. Lists built from rules that are well written. -/

theorem shownBy_givenLast {list : RuleList} {history : List (Text × SuffixKind)}
    (built : RuleList.Built list history) (h : WellWritten history) :
    RuleList.ShownBy (RuleList.GivenLast Writes history) list.kindOf? := by
  constructor
  · intro rule kind
    rw [givenLast_writes_iff h, RuleList.kindOf?_eq_some_iff built]
  · intro rule kind hgiven
    obtain ⟨before, written, after, -, hw, -⟩ := hgiven
    exact base_ne_nil_of_writes hw

/-- **A rule list answers with the suffix that prevails**, among the rules
written into it and their kinds given last. -/
theorem publicSuffix_eq_iff_prevails {list : RuleList} {history : List (Text × SuffixKind)}
    (built : RuleList.Built list history) (written : WellWritten history) {ls : List Text}
    (hne : ls ≠ []) (hdots : ∀ label ∈ ls, '.' ∉ label) (suffix : Text) (kind : SuffixKind) :
    list.toSuffixList.publicSuffix (Name.ofLabels ls) = (suffix, kind) ↔
      ∃ tail, Prevails (RuleList.GivenLast Writes history) ls tail kind ∧
        suffix = Name.ofLabels tail := by
  have hprevails := fun tail =>
    @RuleList.prevails_iff_lookup _ ls list (shownBy_givenLast built written) tail kind
  unfold SuffixList.publicSuffix
  rw [Name.labels_ofLabels hne hdots]
  show (Name.ofLabels (lastLabels (list.lookup ls).count ls), (list.lookup ls).kind) = _ ↔ _
  constructor
  · intro heq
    cases heq
    exact ⟨_, (hprevails _).mpr ⟨rfl, rfl⟩, rfl⟩
  · intro hyp
    obtain ⟨tail, h, rfl⟩ := hyp
    obtain ⟨rfl, rfl⟩ := (hprevails tail).mp h
    rfl

private theorem writes_star_ck : Writes "*.ck".toList ⟨.wildcard, ["ck".toList]⟩ := by
  refine ⟨["ck".toList], 0, by decide, ?_, rfl, by decide⟩
  intro label hl
  rw [List.mem_singleton.mp hl]
  constructor <;> decide

private theorem writes_bang_www_ck :
    Writes "!WWW.ck.".toList ⟨.exception, ["www".toList, "ck".toList]⟩ := by
  refine ⟨["WWW".toList, "ck".toList], 1, by decide, ?_, rfl, by decide⟩
  intro label hl
  rcases List.mem_pair.mp hl with rfl | rfl <;> constructor <;> decide

/-- Under `*.ck` and `!WWW.ck.`, the suffix of `a.www.ck` is `ck`. -/
theorem publicSuffix_www_ck :
    ((RuleList.empty.insert "*.ck".toList .icann).insert
      "!WWW.ck.".toList .icann).toSuffixList.publicSuffix
        (Name.ofLabels ["a".toList, "www".toList, "ck".toList]) = ("ck".toList, .icann) := by
  have built := (RuleList.Built.empty.insert "*.ck".toList .icann).insert "!WWW.ck.".toList .icann
  have written : WellWritten [("*.ck".toList, .icann), ("!WWW.ck.".toList, .icann)] := by
    intro entry hmem
    rcases List.mem_pair.mp hmem with rfl | rfl
    · exact ⟨_, writes_star_ck⟩
    · exact ⟨_, writes_bang_www_ck⟩
  have shortest : ShortestException
      (RuleList.GivenLast Writes [("*.ck".toList, .icann), ("!WWW.ck.".toList, .icann)])
      ["a".toList, "www".toList, "ck".toList] ["www".toList, "ck".toList] .icann := by
    refine ⟨?_, ⟨["a".toList], rfl⟩, ?_⟩
    · exact ⟨[("*.ck".toList, .icann)], _, [], rfl, writes_bang_www_ck, by simp⟩
    · intro other k hgiven hshape _
      obtain ⟨before, w, after, hsplit, hw, -⟩ := hgiven
      have hmem : (w, k) ∈ before ++ (w, k) :: after := by simp
      rw [← hsplit] at hmem
      rcases List.mem_pair.mp hmem with ⟨rfl, rfl⟩ | ⟨rfl, rfl⟩
      · rw [hw.unique writes_star_ck] at hshape
        exact absurd hshape (by decide)
      · rw [hw.unique writes_bang_www_ck]
        decide
  exact (publicSuffix_eq_iff_prevails built written (by decide) (by decide) _ _).mpr
    ⟨_, .exception shortest, rfl⟩

end DomainScope
