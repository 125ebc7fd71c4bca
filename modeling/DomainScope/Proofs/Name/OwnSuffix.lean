/-
  DomainScope.Proofs.Name.OwnSuffix
  ─────────────────────────────────
  **SUFFIXES THAT ARE THEIR OWN SUFFIX.**

  The suffix of a name, split as a name, is its own suffix where a rule gave it
  or where it is a single label.  What an exception leaves need not be: under
  `*.kawasaki.jp` and `!city.kawasaki.jp` the suffix of `city.kawasaki.jp` is
  `kawasaki.jp`, but no rule covers `kawasaki.jp` itself, whose suffix is `jp`.
  Those suffixes, and no others, are not kept when they are split again.

  Main results
    `decompose_tail`      how a tail of a name is split
    `decompose_tld_iff`   a suffix is its own suffix exactly where it is not orphaned
-/
import DomainScope.Proofs.Name.Parts
import DomainScope.Proofs.Name.RuleWalk
import DomainScope.Proofs.Suffix.History

namespace DomainScope

open RuleList

/-! ## §1. Tails of a name as names. -/

namespace Name

variable {policy : Policy} {name : Text} {tail : List Text}

/-- A tail of a name in normal form is in normal form. -/
theorem clean_ofLabels_of_suffix (hroot : name ≠ ['.']) (h : validate policy name = .ok ())
    (htail : tail <:+ labels (clean name)) (hne : tail ≠ []) :
    clean (ofLabels tail) = ofLabels tail := by
  have hlast := getLast?_ofLabels_ne hne
    (fun l hl => labels_clean_ne_nil hroot h l (htail.subset hl))
    (fun l hl => not_mem_labels (htail.subset hl))
  have hlower : ∀ l ∈ tail, Text.lower l = l := by
    intro l hl
    have hmem := htail.subset hl
    rw [labels_clean] at hmem
    obtain ⟨l', -, rfl⟩ := List.mem_map.mp hmem
    exact Text.lower_lower l'
  show Text.lower (dropFinalDot (ofLabels tail)) = ofLabels tail
  rw [dropFinalDot_of_getLast?_ne hlast, lower_ofLabels, List.map_congr_left hlower, List.map_id']

/-- A tail of a name is not the root name. -/
theorem ofLabels_ne_dot_of_suffix (hroot : name ≠ ['.']) (h : validate policy name = .ok ())
    (htail : tail <:+ labels (clean name)) (hne : tail ≠ []) : ofLabels tail ≠ ['.'] := by
  intro heq
  have hlast := getLast?_ofLabels_ne hne
    (fun l hl => labels_clean_ne_nil hroot h l (htail.subset hl))
    (fun l hl => not_mem_labels (htail.subset hl))
  rw [heq] at hlast
  exact hlast rfl

end Name

/-! ## §2. Orphaned suffixes. -/

/-- A suffix of two labels or more that an exception of the name leaves, and
that no rule covers with a kind that ends the walk. -/
structure Orphaned (kindOf? : Rule → Option SuffixKind) (policy : Policy) (ls suffix : List Text) :
    Prop where
  two_labels : 2 ≤ suffix.length
  left : ∃ label kind, IsException kindOf? ls (label :: suffix) kind
  uncovered : ¬ StandsAlone kindOf? policy suffix

namespace Decomposer

variable {list : RuleList} {policy : Policy} {name : Text}

/-- **A walk does not leave the tail it ends at, unless that is orphaned.** -/
theorem WalksTo.suffixLabels_eq_self_iff {ls s : List Text}
    (h : WalksTo ⟨list.toSuffixList, policy⟩ ls s) (hls : ls ≠ []) :
    suffixLabels ⟨list.toSuffixList, policy⟩ s = s ↔ ¬ Orphaned list.kindOf? policy ls s := by
  rcases h.origin hls with hone | ⟨hno, hwhy⟩
  · refine iff_of_true (suffixLabels_of_length_eq_one list policy hone) ?_
    intro horphaned
    have htwo := horphaned.two_labels
    omega
  · by_cases htwo : 2 ≤ s.length
    · rw [Decomposer.suffixLabels_eq_self_iff hno htwo]
      constructor
      · exact fun halone horphaned => horphaned.uncovered halone
      · intro hnot
        rcases hwhy with halone | hleft
        · exact halone
        · by_contra huncovered
          exact hnot ⟨htwo, hleft, huncovered⟩
    · have hcount : ∀ ls, 1 ≤ (list.lookup ls).count := fun ls => (finds_lookup list ls).count_pos
      have hpos := List.length_pos_iff.mpr (h.ne_nil hcount hls)
      refine iff_of_true (suffixLabels_of_length_eq_one list policy (by omega)) ?_
      exact fun horphaned => htwo horphaned.two_labels

/-! ## §3. Splitting a suffix. -/

/-- A tail of a name that is accepted is split at its own suffix. -/
theorem decompose_tail {d : Decomposer} {tail : List Text} (hroot : name ≠ ['.'])
    (hvalid : Name.validate d.policy name = .ok ()) (htail : tail <:+ Name.labels (Name.clean name))
    (hne : tail ≠ []) (haccepted : Name.validate d.policy (Name.ofLabels tail) = .ok ()) :
    d.decompose (Name.ofLabels tail) = .ok (partsAt tail (d.suffixLabels tail)) := by
  rw [decompose_of_valid (Name.ofLabels_ne_dot_of_suffix hroot hvalid htail hne) haccepted,
    Name.clean_ofLabels_of_suffix hroot hvalid htail hne, Name.labels_ofLabels_of_suffix htail hne]

/-- **The suffix of a name is its own suffix exactly where it is not orphaned**,
for every list of rules and every policy. -/
theorem decompose_tld_iff {p : Parts}
    (hparts : decompose ⟨list.toSuffixList, policy⟩ name = .ok p)
    (haccepted : Name.validate policy p.tld = .ok ()) :
    decompose ⟨list.toSuffixList, policy⟩ p.tld = .ok { tld := p.tld } ↔
      ¬ Orphaned list.kindOf? policy (Name.labels (Name.clean name)) (Name.labels p.tld) := by
  have hvalid := validate_of_decompose hparts
  by_cases hroot : name = ['.']
  · -- The root name has the empty suffix, which is no name.
    subst hroot
    rw [decompose_root hvalid] at hparts
    cases hparts
    exact absurd rfl (Name.ne_nil_of_validate haccepted)
  · rw [decompose_of_valid hroot hvalid] at hparts
    cases hparts
    have hls := Name.labels_ne_nil (Name.clean name)
    have hwalk := walksTo_rules list policy hls
    have hne := suffixLabels_ne_nil list policy hls
    have hself := hwalk.suffixLabels_eq_self_iff hls
    generalize suffixLabels ⟨list.toSuffixList, policy⟩ (Name.labels (Name.clean name)) = s at *
    have htail := hwalk.isTail
    have hlabels := Name.labels_ofLabels_of_suffix htail hne
    rw [tld_partsAt htail] at haccepted ⊢
    rw [decompose_tail hroot hvalid htail hne haccepted, hlabels, ← hself,
      ← SlicedList.partsAt_self s, Except.ok.injEq]
    -- The parts of the suffix tell where it was cut.
    have hinj := @partsAt_inj (Name.ofLabels s) (suffixLabels ⟨list.toSuffixList, policy⟩ s) s
    rw [hlabels] at hinj
    exact hinj (walksTo_rules list policy hne).isTail List.suffix_rfl
      (suffixLabels_ne_nil list policy hne) hne

/-- The suffix `b.kawasaki.jp` that `*.kawasaki.jp` gives is its own suffix. -/
theorem decompose_b_kawasaki_jp :
    let history := [("jp".toList, SuffixKind.icann), ("*.kawasaki.jp".toList, .icann),
      ("!city.kawasaki.jp".toList, .icann)]
    let d : Decomposer := ⟨(empty.insertAll history).toSuffixList, ⟨true, true⟩⟩
    d.decompose "a.B.kawasaki.jp.".toList = .ok ⟨"b.kawasaki.jp".toList, "a".toList, []⟩ ∧
      Name.validate ⟨true, true⟩ "b.kawasaki.jp".toList = .ok () ∧
      d.decompose "b.kawasaki.jp".toList = .ok { tld := "b.kawasaki.jp".toList } := by
  intro history d
  have hls : Name.labels (Name.clean "a.B.kawasaki.jp.".toList)
      = ["a".toList, "b".toList, "kawasaki".toList, "jp".toList] := by decide
  have hsuffix : suffixLabels ⟨ofHistory history, ⟨true, true⟩⟩
      ["a".toList, "b".toList, "kawasaki".toList, "jp".toList]
        = ["b".toList, "kawasaki".toList, "jp".toList] := by
    rw [suffixLabels_of_isAnswered (by decide)]
    decide
  have hparts : d.decompose "a.B.kawasaki.jp.".toList
      = .ok ⟨"b.kawasaki.jp".toList, "a".toList, []⟩ := by
    show decompose ⟨(empty.insertAll history).toSuffixList, ⟨true, true⟩⟩ _ = _
    rw [toSuffixList_insertAll, decompose_of_valid (by decide) (by decide), hls, hsuffix]
    decide
  have halone : StandsAlone (empty.insertAll history).kindOf? ⟨true, true⟩
      (Name.labels "b.kawasaki.jp".toList) := by
    rw [kindOf?_insertAll_eq]
    exact ⟨.icann, by decide, rfl⟩
  refine ⟨hparts, by decide, (decompose_tld_iff hparts (by decide)).mpr ?_⟩
  exact fun horphaned => horphaned.uncovered halone

/-- The suffix `kawasaki.jp` that `!city.kawasaki.jp` leaves has the suffix `jp`. -/
theorem decompose_city_kawasaki_jp :
    let history := [("jp".toList, SuffixKind.icann), ("*.kawasaki.jp".toList, .icann),
      ("!city.kawasaki.jp".toList, .icann)]
    let d : Decomposer := ⟨(empty.insertAll history).toSuffixList, ⟨true, true⟩⟩
    d.decompose "city.kawasaki.jp".toList
        = .ok ⟨"kawasaki.jp".toList, "city".toList, []⟩ ∧
      Name.validate ⟨true, true⟩ "kawasaki.jp".toList = .ok () ∧
      d.decompose "kawasaki.jp".toList = .ok ⟨"jp".toList, "kawasaki".toList, []⟩ := by
  intro history d
  show decompose ⟨(empty.insertAll history).toSuffixList, ⟨true, true⟩⟩ _ = _ ∧ _ ∧
    decompose ⟨(empty.insertAll history).toSuffixList, ⟨true, true⟩⟩ _ = _
  have hls : Name.labels (Name.clean "city.kawasaki.jp".toList)
      = ["city".toList, "kawasaki".toList, "jp".toList] := by decide
  have hls' : Name.labels (Name.clean "kawasaki.jp".toList)
      = ["kawasaki".toList, "jp".toList] := by decide
  have hsuffix : suffixLabels ⟨ofHistory history, ⟨true, true⟩⟩
      ["city".toList, "kawasaki".toList, "jp".toList] = ["kawasaki".toList, "jp".toList] := by
    rw [suffixLabels_of_isAnswered (by decide)]
    decide
  have hsuffix' : suffixLabels ⟨ofHistory history, ⟨true, true⟩⟩
      ["kawasaki".toList, "jp".toList] = ["jp".toList] := by
    rw [suffixLabels_of_isAnswered (by decide)]
    decide
  refine ⟨?_, by decide, ?_⟩
  · rw [toSuffixList_insertAll, decompose_of_valid (by decide) (by decide), hls, hsuffix]
    decide
  · rw [toSuffixList_insertAll, decompose_of_valid (by decide) (by decide), hls', hsuffix']
    decide

end Decomposer

end DomainScope
