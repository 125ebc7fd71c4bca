/-
  DomainScope.Proofs.Name.Parts
  ─────────────────────────────
  **THE PARTS OF A NAME MAKE UP THE NAME.**

  Whatever the list and the policy, splitting a name cuts it at dots only, its
  parts joined again are the name in normal form, and splitting that gives the
  same parts.  The checks of a name, its normal form, the walk to the suffix and
  the cut in front of it all bear on this; the lists only have to answer with
  last labels.

  Main results
    `validate_clean`         the normal form of a name is a name
    `display_partsAt`        the parts of a row of labels make it up
    `decompose?_areParts`    the splitting succeeds and its parts make up the name
-/
import DomainScope.Proofs.Name.Accepted
import DomainScope.Proofs.Name.Sliced

namespace DomainScope

/-! ## §1. Names in normal form. -/

namespace Name

/-- Small letters are as good as capital ones. -/
theorem IsLabelChar.toLower {c : Char} (h : IsLabelChar c) : IsLabelChar c.toLower := by
  rcases h with h | rfl | rfl
  · left
    rw [Char.isAlphanum, Bool.or_eq_true] at h ⊢
    rwa [Char.isAlpha_toLower_eq_isAlpha, Text.isDigit_toLower]
  · exact .inr (.inl (by decide))
  · exact .inr (.inr (by decide))

/-- A label of a name is one in small letters too: it is as long as before, and its
hyphens are where they were. -/
theorem IsNameLabel.lower {label : Text} (h : IsNameLabel label) :
    IsNameLabel (Text.lower label) := by
  refine ⟨?_, ?_, ?_, ?_, ?_⟩
  · rw [Text.byteLength_lower]
    exact h.length_pos
  · rw [Text.byteLength_lower]
    exact h.length_le
  · intro c hc
    obtain ⟨d, hd, rfl⟩ := List.mem_map.mp hc
    exact (h.chars d hd).toLower
  · rw [ne_eq, Text.head?_lower_eq_some_iff (by decide)]
    exact h.head_ne
  · rw [ne_eq, Text.getLast?_lower_eq_some_iff (by decide)]
    exact h.last_ne

/-- So is a row of labels that make up a name. -/
theorem IsName.lower {policy : Policy} {ls : List Text} (h : IsName policy ls) :
    IsName policy (ls.map Text.lower) := by
  refine ⟨?_, ?_, ?_, ?_, ?_⟩
  · rw [← lower_ofLabels, Text.byteLength_lower]
    exact h.length_pos
  · rw [← lower_ofLabels, Text.byteLength_lower]
    exact h.length_le
  · intro label hl
    obtain ⟨l, hl', rfl⟩ := List.mem_map.mp hl
    exact (h.areLabels l hl').lower
  · rw [List.length_map]
    exact h.two_labels
  · obtain ⟨c, hc, hnaming⟩ := h.named
    rw [← lower_ofLabels]
    refine ⟨c.toLower, List.mem_map.mpr ⟨c, hc, rfl⟩, ?_⟩
    rw [Char.isAlpha_toLower_eq_isAlpha, Text.toLower_eq_iff (by decide)]
    exact hnaming

variable {policy : Policy} {name : Text}

/-- The normal form of a name is a row of labels. -/
theorem isName_labels_clean (hroot : name ≠ ['.']) (h : validate policy name = .ok ()) :
    IsName policy (labels (clean name)) := by
  rw [labels_clean]
  exact ((validate_eq_ok_iff hroot).mp h).lower

theorem labels_clean_ne_nil (hroot : name ≠ ['.']) (h : validate policy name = .ok ()) :
    ∀ l ∈ labels (clean name), l ≠ [] :=
  fun l hl => ((isName_labels_clean hroot h).areLabels l hl).ne_nil

theorem clean_ne_nil (hroot : name ≠ ['.']) (h : validate policy name = .ok ()) :
    clean name ≠ [] := by
  intro hnil
  have hpos := (isName_labels_clean hroot h).length_pos
  rw [ofLabels_labels, hnil] at hpos
  exact absurd hpos (by decide)

/-- The normal form has no final dot left to drop. -/
theorem dropFinalDot_clean (hroot : name ≠ ['.']) (h : validate policy name = .ok ()) :
    dropFinalDot (clean name) = clean name := by
  have hlast := getLast?_ofLabels_ne (labels_ne_nil (clean name)) (labels_clean_ne_nil hroot h)
    fun l hl => not_mem_labels hl
  rw [ofLabels_labels] at hlast
  exact dropFinalDot_of_getLast?_ne hlast

/-- Making the normal form twice changes nothing more. -/
theorem clean_clean (hroot : name ≠ ['.']) (h : validate policy name = .ok ()) :
    clean (clean name) = clean name := by
  show Text.lower (dropFinalDot (clean name)) = clean name
  rw [dropFinalDot_clean hroot h]
  exact Text.lower_lower _

theorem clean_ne_dot (hroot : name ≠ ['.']) (h : validate policy name = .ok ()) :
    clean name ≠ ['.'] := by
  intro he
  have hdrop := dropFinalDot_clean hroot h
  rw [he] at hdrop
  exact absurd hdrop (by decide)

/-- **The normal form of a name is a name.** -/
theorem validate_clean (hroot : name ≠ ['.']) (h : validate policy name = .ok ()) :
    validate policy (clean name) = .ok () := by
  rw [validate_eq_ok_iff (clean_ne_dot hroot h), dropFinalDot_clean hroot h]
  exact isName_labels_clean hroot h

end Name

/-! ## §2. Parts of a row of labels. -/

namespace Decomposer

/-- Where there is a domain, the parts are joined with dots; an empty subdomain is
left out. -/
theorem display_of_ne_nil {tld domain : Text} (htld : tld ≠ []) (hdomain : domain ≠ [])
    (sub : Text) : Parts.display ⟨tld, domain, sub⟩
      = if sub = [] then Name.ofLabels [domain, tld] else Name.ofLabels [sub, domain, tld] := by
  unfold Parts.display Name.ofLabels
  by_cases hsub : sub = []
  · simp [htld, hdomain, hsub]
  · simp [htld, hdomain, hsub]

/-- **The parts of a row of labels make it up.** -/
theorem display_partsAt {ls tld : List Text} (h : tld <:+ ls) (htld : tld ≠ [])
    (hne : ∀ l ∈ ls, l ≠ []) : (partsAt ls tld).display = Name.ofLabels ls := by
  have htext : Name.ofLabels tld ≠ [] :=
    Name.ofLabels_ne_nil htld fun l hl => hne l (h.subset hl)
  rcases SlicedList.suffix_cases h with rfl | ⟨front, domain, rfl⟩
  · rw [SlicedList.partsAt_self]
    simp [Parts.display, htext]
  · have hdomain : domain ≠ [] := hne domain (by simp)
    have hjoin : Name.ofLabels (domain :: tld) = Name.ofLabels [domain, Name.ofLabels tld] := by
      rw [Name.ofLabels_cons domain htld, Name.ofLabels_cons domain (by simp),
        Name.ofLabels_singleton]
    rw [SlicedList.partsAt_append, display_of_ne_nil htext hdomain]
    by_cases hfront : front = []
    · subst hfront
      rw [Name.ofLabels_nil, if_pos rfl, List.nil_append, hjoin]
    · have hsub : Name.ofLabels front ≠ [] :=
        Name.ofLabels_ne_nil hfront fun l hl => hne l (by simp [hl])
      rw [if_neg hsub, Name.ofLabels_append hfront (by simp), hjoin,
        Name.ofLabels_cons (Name.ofLabels front) (by simp)]

/-- The domain is one label, so it holds no dot. -/
theorem not_mem_domain_partsAt {ls tld : List Text} (h : tld <:+ ls) (hdots : ∀ l ∈ ls, '.' ∉ l) :
    '.' ∉ (partsAt ls tld).domain := by
  rcases SlicedList.suffix_cases h with rfl | ⟨front, domain, rfl⟩
  · rw [SlicedList.partsAt_self]
    exact List.not_mem_nil
  · rw [SlicedList.partsAt_append]
    exact hdots domain (by simp)

/-- Nothing stands in front of a domain that is not there. -/
theorem sub_partsAt_eq_nil {ls tld : List Text} (h : tld <:+ ls) (hne : ∀ l ∈ ls, l ≠ [])
    (hdomain : (partsAt ls tld).domain = []) : (partsAt ls tld).sub = [] := by
  rcases SlicedList.suffix_cases h with rfl | ⟨front, domain, rfl⟩
  · rw [SlicedList.partsAt_self]
  · rw [SlicedList.partsAt_append] at hdomain
    exact absurd hdomain (hne domain (by simp))

theorem tld_partsAt {ls tld : List Text} (h : tld <:+ ls) :
    (partsAt ls tld).tld = Name.ofLabels tld := by
  rcases SlicedList.suffix_cases h with rfl | ⟨front, domain, rfl⟩
  · rw [SlicedList.partsAt_self]
  · rw [SlicedList.partsAt_append]

/-- The labels of the suffix are those at which the name was cut. -/
theorem labels_tld_partsAt {name : Text} {tld : List Text} (h : tld <:+ Name.labels name)
    (hne : tld ≠ []) : Name.labels (partsAt (Name.labels name) tld).tld = tld := by
  rw [tld_partsAt h, Name.labels_ofLabels_of_suffix h hne]

/-- The parts of a name tell its suffix. -/
theorem partsAt_inj {name : Text} {tld tld' : List Text} (h : tld <:+ Name.labels name)
    (h' : tld' <:+ Name.labels name) (hne : tld ≠ []) (hne' : tld' ≠ []) :
    partsAt (Name.labels name) tld = partsAt (Name.labels name) tld' ↔ tld = tld' := by
  constructor
  · intro heq
    rw [← labels_tld_partsAt h hne, heq, labels_tld_partsAt h' hne']
  · intro heq
    rw [heq]

/-! ## §3. Splitting a name. -/

variable {d : Decomposer} {name : Text}

theorem decompose_root (hvalid : Name.validate d.policy ['.'] = .ok ()) :
    d.decompose ['.'] = .ok {} := by
  unfold decompose
  rw [hvalid]
  rfl

/-- A valid name other than the root is cut in front of the suffix that the walk
ends at. -/
theorem decompose_of_valid (hroot : name ≠ ['.']) (hvalid : Name.validate d.policy name = .ok ()) :
    d.decompose name = .ok (partsAt (Name.labels (Name.clean name))
      (d.suffixLabels (Name.labels (Name.clean name)))) := by
  have hne : (Name.clean name).isEmpty = false := by
    simpa using Name.clean_ne_nil hroot hvalid
  unfold decompose
  rw [hvalid]
  show (if (Name.clean name).isEmpty then _ else _) = _
  rw [hne]
  rfl

/-- A name that is not valid is rejected with its fault. -/
theorem decompose_of_invalid {e : InvalidName} (hinvalid : Name.validate d.policy name = .error e) :
    d.decompose name = .error e := by
  unfold decompose
  rw [hinvalid]
  rfl

/-- Only valid names have parts. -/
theorem validate_of_decompose {p : Parts} (h : d.decompose name = .ok p) :
    Name.validate d.policy name = .ok () := by
  cases hvalid : Name.validate d.policy name with
  | error e =>
    rw [decompose_of_invalid hvalid] at h
    exact absurd h (by simp)
  | ok u => rfl

/-- What is promised of the parts of a name. -/
structure AreParts (d : Decomposer) (name : Text) (p : Parts) : Prop where
  /-- Joined again they are the name in normal form. -/
  joined : p.display = Name.clean name
  /-- The suffix is made of the last labels of the name. -/
  tld_suffix : Name.labels p.tld <:+ Name.labels (Name.clean name)
  tld_empty : p.tld = [] → name = ['.']
  /-- The domain is a single label. -/
  domain_label : '.' ∉ p.domain
  domain_empty : p.domain = [] → p.sub = []
  /-- Joined and split again they are the same. -/
  again : name ≠ ['.'] → d.decompose p.display = .ok p

/-- The root name has empty parts, which make it up. -/
theorem areParts_root (d : Decomposer) : AreParts d ['.'] {} := by
  refine ⟨rfl, List.suffix_rfl, fun _ => rfl, List.not_mem_nil, fun _ => rfl, ?_⟩
  exact fun h => absurd rfl h

/-- Every other valid name is made up by its parts, if the list answers with one
label at least. -/
theorem areParts_of_valid (hcount : ∀ ls, 1 ≤ (d.suffixes.lookup ls).count) (hroot : name ≠ ['.'])
    (hvalid : Name.validate d.policy name = .ok ()) :
    AreParts d name (partsAt (Name.labels (Name.clean name))
      (d.suffixLabels (Name.labels (Name.clean name)))) := by
  have hls := Name.labels_ne_nil (Name.clean name)
  have hdots : ∀ l ∈ Name.labels (Name.clean name), '.' ∉ l := fun l hl => Name.not_mem_labels hl
  have hne := Name.labels_clean_ne_nil hroot hvalid
  have hwalk := walksTo_suffixLabels hcount hls
  have htail := hwalk.isTail
  have htld := hwalk.ne_nil hcount hls
  have hneTld := Name.ofLabels_ne_nil htld fun l hl => hne l (htail.subset hl)
  have hjoined := display_partsAt htail htld hne
  rw [Name.ofLabels_labels] at hjoined
  refine ⟨hjoined, ?_, ?_, not_mem_domain_partsAt htail hdots, sub_partsAt_eq_nil htail hne, ?_⟩
  · rw [labels_tld_partsAt htail htld]
    exact htail
  · rw [tld_partsAt htail]
    exact fun hnil => absurd hnil hneTld
  · -- The joined parts are in normal form, so checking and cleaning them changes nothing.
    intro _
    rw [hjoined, decompose_of_valid (Name.clean_ne_dot hroot hvalid)
      (Name.validate_clean hroot hvalid), Name.clean_clean hroot hvalid]

/-- **No cut misses, and the parts of a name make it up**, for every list,
every policy and every text. -/
theorem decompose?_areParts {sliced : SlicedList} {list : SuffixList} (h : Offered sliced list)
    (policy : Policy) (name : Text) :
    SlicedList.decompose? policy sliced name = some (decompose ⟨list, policy⟩ name) ∧
      ∀ p, decompose ⟨list, policy⟩ name = .ok p → AreParts ⟨list, policy⟩ name p := by
  refine ⟨SlicedList.decompose?_eq_some h name, ?_⟩
  intro p hp
  have hvalid := validate_of_decompose hp
  -- The root name is the one name without labels in normal form.
  by_cases hroot : name = ['.']
  · subst hroot
    rw [decompose_root hvalid] at hp
    cases hp
    exact areParts_root _
  · rw [decompose_of_valid hroot hvalid] at hp
    cases hp
    exact areParts_of_valid h.count_pos hroot hvalid

/-- Private suffixes do not count: of `A.github.io.` the suffix is `io`. -/
theorem areParts_github_io :
    let tree := LabelTree.ofRules [(⟨.exact, ["io".toList]⟩, .icann),
      (⟨.exact, ["github".toList, "io".toList]⟩, .privatelyOwned)]
    let p : Parts := ⟨"io".toList, "github".toList, "a".toList⟩
    SlicedList.decompose? ⟨false, false⟩ (Builtin.sliced tree.search) "A.github.io.".toList
        = some (.ok p) ∧
      AreParts ⟨Builtin.list tree.search, ⟨false, false⟩⟩ "A.github.io.".toList p := by
  intro tree p
  have hsuffix : suffixLabels ⟨Builtin.list tree.search, ⟨false, false⟩⟩
      ["a".toList, "github".toList, "io".toList] = ["io".toList] := by
    -- The list knows `github.io` as a private suffix, and then `io`.
    rw [suffixLabels_of_not_isAnswered (by decide)]
    show suffixLabels ⟨Builtin.list tree.search, ⟨false, false⟩⟩ ["io".toList] = ["io".toList]
    rw [suffixLabels_of_isAnswered (by decide)]
    decide
  have hls : Name.labels (Name.clean "A.github.io.".toList)
      = ["a".toList, "github".toList, "io".toList] := by decide
  have hp : decompose ⟨Builtin.list tree.search, ⟨false, false⟩⟩ "A.github.io.".toList = .ok p := by
    rw [decompose_of_valid (by decide) (by decide), hls, hsuffix]
    decide
  have h := decompose?_areParts (.builtin tree.wholeLabels_search) ⟨false, false⟩
    "A.github.io.".toList
  exact ⟨h.1.trans (congrArg some hp), h.2 p hp⟩

end Decomposer

end DomainScope
