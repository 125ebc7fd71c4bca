/-
  DomainScope.Proofs.Name.Sliced
  ──────────────────────────────
  **CUTTING A NAME BY BYTES SPLITS IT BY LABELS.**

  The walk and the cut on texts do what the walk and the cut on labels do, and
  none of their cuts misses: the walk drops what stands before a dot, and the
  cut falls on the dot in front of the suffix because the suffix is the text of
  the last labels.

  Main results
    `walk?_eq_some`        the walk on texts ends at the text of the same suffix
    `partsAt?_eq_some`     the cut gives the same parts
    `decompose?_eq_some`   so does the whole splitting, for every name
-/
import DomainScope.Proofs.Name.SuffixWalk
import DomainScope.Proofs.Suffix.Sliced

namespace DomainScope.SlicedList

open Decomposer (WalksTo)

/-! ## §1. The walk. -/

/-- A row of labels without its first one is shorter in writing. -/
theorem length_ofLabels_lt {rest ls : List Text} {label : Text} (hrest : rest ≠ [])
    (h : label :: rest <:+ ls) : (Name.ofLabels rest).length < (Name.ofLabels ls).length := by
  obtain ⟨front, rfl⟩ := h
  have hsplit : front ++ label :: rest = (front ++ [label]) ++ rest := by simp
  rw [hsplit, Name.ofLabels_append (by simp) hrest, List.length_append, List.length_cons]
  omega

variable {sliced : SlicedList} {list : SuffixList} {policy : Policy}

/-- A list on texts answers with the text of the labels that the list on labels counts. -/
theorem sliced_ofLabels (policy : Policy) (h : Offered sliced list) {ls : List Text} (hls : ls ≠ [])
    (hdots : ∀ l ∈ ls, '.' ∉ l) :
    sliced (Name.ofLabels ls)
      = some (Name.ofLabels (Decomposer.answer ⟨list, policy⟩ ls), (list.lookup ls).kind) := by
  rw [h.sliced_eq]
  unfold SuffixList.publicSuffix
  rw [Name.labels_ofLabels hls hdots]
  rfl

/-- **The walk on texts ends where the walk on labels ends.** -/
theorem walk?_eq_some (h : Offered sliced list) {ls s : List Text}
    (hwalk : WalksTo ⟨list, policy⟩ ls s) (hls : ls ≠ []) (hdots : ∀ l ∈ ls, '.' ∉ l) :
    walk? policy sliced (Name.ofLabels ls) = some (Name.ofLabels s) := by
  induction hwalk with
  | @managed ls hkind =>
    have hkind' : SuffixKind.isBoundary policy (list.lookup ls).kind = true := hkind
    rw [walk?, sliced_ofLabels policy h hls hdots]
    simp only [hkind', if_true]
  | @oneLabel ls label hkind htail =>
    have hkind' : SuffixKind.isBoundary policy (list.lookup ls).kind = false := hkind
    have hlabel : label ∈ ls := by
      refine (Decomposer.answer_suffix ⟨list, policy⟩ ls).subset ?_
      simp [htail]
    have hnone : Text.splitFirst '.' label = none :=
      Text.splitFirst_eq_none_iff.mpr (hdots label hlabel)
    rw [walk?, sliced_ofLabels policy h hls hdots, htail]
    simp only [hkind', Name.ofLabels_singleton, hnone, if_false, Bool.false_eq_true]
  | @onward ls rest s label hkind htail hrest _ ih =>
    have hkind' : SuffixKind.isBoundary policy (list.lookup ls).kind = false := hkind
    have hsuffix := Decomposer.answer_suffix ⟨list, policy⟩ ls
    rw [htail] at hsuffix
    have hdots' : ∀ l ∈ label :: rest, '.' ∉ l := fun l hl => hdots l (hsuffix.subset hl)
    obtain ⟨hlabel, hdotsRest⟩ := List.forall_mem_cons.mp hdots'
    -- The text gets shorter, which is what the walk on texts checks before it goes on.
    have hlt := length_ofLabels_lt hrest hsuffix
    rw [walk?, sliced_ofLabels policy h hls hdots, htail]
    simp only [hkind', Name.splitFirst_ofLabels_cons hrest hlabel, hlt, if_true, if_false,
      Bool.false_eq_true]
    exact ih hrest hdotsRest

/-! ## §2. The cut. -/

/-- The labels in front of the suffix. -/
theorem partsAt_append (front tld : List Text) (domain : Text) :
    Decomposer.partsAt (front ++ domain :: tld) tld
      = { tld := Name.ofLabels tld, domain := domain, sub := Name.ofLabels front } := by
  have hsplit : front ++ domain :: tld = (front ++ [domain]) ++ tld := by simp
  have hlen : ((front ++ [domain]) ++ tld).length - tld.length = (front ++ [domain]).length := by
    rw [List.length_append, Nat.add_sub_cancel]
  unfold Decomposer.partsAt
  rw [hsplit, hlen, List.take_left, List.reverse_append]
  simp

theorem partsAt_self (tld : List Text) :
    Decomposer.partsAt tld tld = { tld := Name.ofLabels tld } := by
  unfold Decomposer.partsAt
  rw [Nat.sub_self]
  rfl

/-- A suffix is the whole name, or a domain stands in front of it. -/
theorem suffix_cases {ls tld : List Text} (h : tld <:+ ls) :
    ls = tld ∨ ∃ front domain, ls = front ++ domain :: tld := by
  obtain ⟨before, rfl⟩ := h
  rcases List.eq_nil_or_concat before with rfl | ⟨front, domain, rfl⟩
  · exact .inl rfl
  · exact .inr ⟨front, domain, by simp⟩

/-- What stands before the dot in front of a suffix. -/
theorem cutAt?_front {front tld : List Text} (hfront : front ≠ []) (htld : tld ≠ []) :
    Text.cutAt? (Name.ofLabels (front ++ tld)) (Text.byteLength (Name.ofLabels front))
      = some (Name.ofLabels front, '.' :: Name.ofLabels tld) := by
  rw [Text.cutAt?_eq_some_iff, Name.ofLabels_append hfront htld]
  exact ⟨rfl, rfl⟩

theorem byteLength_ofLabels_append {front tld : List Text} (hfront : front ≠ []) (htld : tld ≠ []) :
    Text.byteLength (Name.ofLabels (front ++ tld))
      = Text.byteLength (Name.ofLabels front) + 1 + Text.byteLength (Name.ofLabels tld) := by
  have hdot : '.'.utf8Size = 1 := by decide
  rw [Name.ofLabels_append hfront htld, Text.byteLength_append, Text.byteLength_cons, hdot]
  omega

/-- **The cut at bytes gives the parts cut at labels.** -/
theorem partsAt?_eq_some {ls tld : List Text} (h : tld <:+ ls) (htld : tld ≠ [])
    (hdots : ∀ l ∈ ls, '.' ∉ l) :
    partsAt? (Name.ofLabels ls) (Name.ofLabels tld) = some (Decomposer.partsAt ls tld) := by
  rcases suffix_cases h with rfl | ⟨front, domain, rfl⟩
  · rw [partsAt_self]
    simp [partsAt?]
  · have hsplit : front ++ domain :: tld = (front ++ [domain]) ++ tld := by simp
    have hfront : front ++ [domain] ≠ [] := by simp
    have hdomain : '.' ∉ domain := hdots domain (by simp)
    have hsize := byteLength_ofLabels_append hfront htld
    rw [partsAt_append, hsplit]
    -- The suffix is shorter than the name by the dot in front of it, at least.
    unfold partsAt?
    simp only
    rw [if_neg (by omega), if_neg (by omega)]
    have hcut : Text.byteLength (Name.ofLabels (front ++ [domain] ++ tld))
        - Text.byteLength (Name.ofLabels tld) - 1
          = Text.byteLength (Name.ofLabels (front ++ [domain])) := by omega
    rw [hcut, cutAt?_front hfront htld]
    simp only
    by_cases hnil : front = []
    · rw [hnil, List.nil_append, Name.ofLabels_singleton, Text.splitLast_eq_none_iff.mpr hdomain]
      rfl
    · rw [Name.splitLast_ofLabels_concat hnil hdomain]

/-! ## §3. The whole splitting. -/

/-- **No cut misses, and the parts are the ones cut at labels**, for every
list, every policy and every text. -/
theorem decompose?_eq_some (h : Offered sliced list) (name : Text) :
    decompose? policy sliced name = some (Decomposer.decompose ⟨list, policy⟩ name) := by
  have hls := Name.labels_ne_nil (Name.clean name)
  have hdots : ∀ l ∈ Name.labels (Name.clean name), '.' ∉ l := fun l hl => Name.not_mem_labels hl
  have hcount : ∀ ls, 1 ≤ (list.lookup ls).count := h.count_pos
  have hwalk := @Decomposer.walksTo_suffixLabels ⟨list, policy⟩ _ hcount hls
  have htext := walk?_eq_some h hwalk hls hdots
  have hparts := partsAt?_eq_some hwalk.isTail (hwalk.ne_nil hcount hls) hdots
  rw [Name.ofLabels_labels] at htext hparts
  unfold decompose? Decomposer.decompose
  cases Name.validate policy name with
  | error e => rfl
  | ok u =>
    show (if (Name.clean name).isEmpty then _ else _)
      = some (if (Name.clean name).isEmpty then _ else _)
    cases (Name.clean name).isEmpty with
    | true => rfl
    | false =>
      rw [if_neg (by decide), if_neg (by decide)]
      simp only [htext, hparts]
      rfl

end DomainScope.SlicedList
