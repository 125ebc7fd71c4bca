/-
  DomainScope.Proofs.Name.PrivateSwitch
  ─────────────────────────────────────
  **PRIVATE SUFFIXES THAT COUNT OR DO NOT.**

  Every candidate of a walk is a tail of the name with fewer labels than the one
  before, so a walk ends after as many look-ups as the name has labels, at most.
  Two walks from one name, one under each setting of the switch for private
  suffixes, make the same look-ups up to the first private answer.  There the one
  ends and the other goes on behind the first label, and so ends at a tail of
  where the first one has ended.

  Main results
    `WalksBy.length_le`           a walk makes no more look-ups than there are labels
    `WalksBy.ends`                the machine makes these look-ups and stops
    `WalksBy.asked`               the list is asked for tails of the name only
    `WalksBy.compared`            the two walks side by side
    `decompose_switchesPrivate`   what the switch does to the suffix of a name
-/
import DomainScope.Name.Turns
import DomainScope.Proofs.Name.Parts

namespace DomainScope

/-! ## §1. Walks with their look-ups. -/

/-- The look-up of the name with the given labels. -/
def SuffixList.lookUp (list : SuffixList) (ls : List Text) : LookUp :=
  ⟨Name.ofLabels ls, Name.ofLabels (lastLabels (list.lookup ls).count ls), (list.lookup ls).kind⟩

namespace Decomposer

variable {d : Decomposer} {ls s : List Text} {lookUps : List LookUp}

/-- A walk from a name, the look-ups made on the way and the suffix it ends at. -/
inductive WalksBy (d : Decomposer) : List Text → List LookUp → List Text → Prop where
  /-- The list manages the suffix. -/
  | managed {ls : List Text} (h : d.isAnswered ls = true) :
      WalksBy d ls [d.suffixes.lookUp ls] (d.answer ls)
  /-- One label is left. -/
  | oneLabel {ls : List Text} {label : Text} (h : d.isAnswered ls = false)
      (htail : d.answer ls = [label]) : WalksBy d ls [d.suffixes.lookUp ls] [label]
  /-- The walk goes on behind the first label. -/
  | onward {ls rest s : List Text} {label : Text} {lookUps : List LookUp}
      (h : d.isAnswered ls = false) (htail : d.answer ls = label :: rest) (hrest : rest ≠ [])
      (hwalk : WalksBy d rest lookUps s) : WalksBy d ls (d.suffixes.lookUp ls :: lookUps) s

theorem lookUp_of_answer {tail : List Text} (h : d.answer ls = tail) :
    d.suffixes.lookUp ls
      = ⟨Name.ofLabels ls, Name.ofLabels tail, (d.suffixes.lookup ls).kind⟩ := by
  rw [← h]
  rfl

/-- Every walk has its look-ups. -/
theorem WalksTo.exists_walksBy (h : WalksTo d ls s) : ∃ lookUps, WalksBy d ls lookUps s := by
  induction h with
  | managed h => exact ⟨_, .managed h⟩
  | oneLabel h htail => exact ⟨_, .oneLabel h htail⟩
  | onward h htail hrest _ ih =>
    obtain ⟨lookUps, hwalk⟩ := ih
    exact ⟨_, .onward h htail hrest hwalk⟩

theorem WalksBy.walksTo (h : WalksBy d ls lookUps s) : WalksTo d ls s := by
  induction h with
  | managed h => exact .managed h
  | oneLabel h htail => exact .oneLabel h htail
  | onward h htail hrest _ ih => exact .onward h htail hrest ih

/-- What is left behind the first label of an answer is a shorter name. -/
theorem length_rest_lt {rest : List Text} {label : Text} (h : d.answer ls = label :: rest) :
    rest.length < ls.length := by
  have hle := (d.answer_suffix ls).length_le
  rw [h, List.length_cons] at hle
  omega

/-- **A walk makes no more look-ups than the name has labels.** -/
theorem WalksBy.length_le (h : WalksBy d ls lookUps s) (hls : ls ≠ []) :
    lookUps.length ≤ ls.length := by
  have hpos := List.length_pos_iff.mpr hls
  induction h with
  | managed => exact hpos
  | oneLabel => exact hpos
  | onward _ htail hrest _ ih =>
    have hlt := length_rest_lt htail
    have hle := ih hrest (List.length_pos_iff.mpr hrest)
    rw [List.length_cons]
    omega

/-- Every look-up is one of a tail of the name. -/
theorem WalksBy.forall_mem (h : WalksBy d ls lookUps s) (hls : ls ≠ []) :
    ∀ l ∈ lookUps, ∃ tail, tail <:+ ls ∧ tail ≠ [] ∧ l = d.suffixes.lookUp tail := by
  induction h with
  | @managed ls =>
    intro l hl
    exact ⟨ls, List.suffix_rfl, hls, List.mem_singleton.mp hl⟩
  | @oneLabel ls =>
    intro l hl
    exact ⟨ls, List.suffix_rfl, hls, List.mem_singleton.mp hl⟩
  | @onward ls _ _ _ _ _ htail hrest _ ih =>
    intro l hl
    rcases List.mem_cons.mp hl with rfl | hl
    · exact ⟨ls, List.suffix_rfl, hls, rfl⟩
    · obtain ⟨tail, hsuffix, hne, heq⟩ := ih hrest l hl
      exact ⟨tail, hsuffix.trans (rest_suffix htail), hne, heq⟩

end Decomposer

/-! ## §2. The machine. -/

/-- From a name the machine makes these look-ups, then stands at this suffix, and
stays there whatever the number of turns. -/
def SlicedList.Ends (policy : Policy) (list : SlicedList) (name : Text) (lookUps : List LookUp)
    (tld : Text) : Prop :=
  ∃ last : WalkState, last.found? = some tld ∧
    ∀ count, lookUps.length ≤ count →
      turns policy list count (.seeking name) = some (lookUps, last)

namespace SlicedList

variable {policy : Policy} {list : SlicedList} {name suffix : Text} {kind : SuffixKind}

theorem afterAnswer_of_isBoundary (h : SuffixKind.isBoundary policy kind = true) :
    afterAnswer policy suffix kind = .foundBoundary suffix := if_pos h

theorem afterAnswer_of_label (h : SuffixKind.isBoundary policy kind = false) (hdot : '.' ∉ suffix) :
    afterAnswer policy suffix kind = .foundUnmanaged suffix := by
  unfold afterAnswer
  rw [h, Text.splitFirst_eq_none_iff.mpr hdot]
  rfl

theorem afterAnswer_of_labels {rest : List Text} {label : Text}
    (h : SuffixKind.isBoundary policy kind = false) (hrest : rest ≠ []) (hdot : '.' ∉ label) :
    afterAnswer policy (Name.ofLabels (label :: rest)) kind = .seeking (Name.ofLabels rest) := by
  unfold afterAnswer
  rw [h, Name.splitFirst_ofLabels_cons hrest hdot]
  rfl

/-- A machine that has found a suffix stays. -/
theorem turns_of_found {state : WalkState} {tld : Text} (h : state.found? = some tld) (count : Nat) :
    turns policy list count state = some ([], state) := by
  cases count with
  | zero => rfl
  | succ count =>
    cases state with
    | seeking => exact absurd h (by simp [WalkState.found?])
    | foundBoundary => rfl
    | foundUnmanaged => rfl

/-- One turn of a machine that seeks. -/
theorem turns_seeking (hasked : list name = some (suffix, kind)) (count : Nat) :
    turns policy list (count + 1) (.seeking name)
      = (turns policy list count (afterAnswer policy suffix kind)).map
          fun run => (⟨name, suffix, kind⟩ :: run.1, run.2) := by
  show (list name).bind _ = _
  rw [hasked, Option.bind_some]
  show (turns policy list count (afterAnswer policy suffix kind)).bind _ = _
  cases turns policy list count (afterAnswer policy suffix kind) <;> rfl

/-- An answer at which the machine stops. -/
theorem Ends.of_found {tld : Text} (hasked : list name = some (suffix, kind))
    (h : (afterAnswer policy suffix kind).found? = some tld) :
    Ends policy list name [⟨name, suffix, kind⟩] tld := by
  refine ⟨_, h, ?_⟩
  intro count hcount
  obtain ⟨more, rfl⟩ := Nat.exists_eq_add_of_le' hcount
  rw [List.length_singleton, turns_seeking hasked, turns_of_found h]
  rfl

/-- An answer from which it goes on. -/
theorem Ends.cons {rest tld : Text} {lookUps : List LookUp}
    (hasked : list name = some (suffix, kind)) (h : afterAnswer policy suffix kind = .seeking rest)
    (hends : Ends policy list rest lookUps tld) :
    Ends policy list name (⟨name, suffix, kind⟩ :: lookUps) tld := by
  obtain ⟨last, hfound, hturns⟩ := hends
  refine ⟨last, hfound, ?_⟩
  intro count hcount
  obtain ⟨more, rfl⟩ := Nat.exists_eq_add_of_le' hcount
  rw [List.length_cons, ← Nat.add_assoc, turns_seeking hasked, h, hturns _ (Nat.le_add_left _ _)]
  rfl

end SlicedList

namespace Decomposer

variable {sliced : SlicedList} {list : SuffixList} {policy : Policy} {ls s : List Text}
  {lookUps : List LookUp}

/-- **The machine makes the look-ups of the walk and stops where it ends.** -/
theorem WalksBy.ends (h : Offered sliced list) (hwalk : WalksBy ⟨list, policy⟩ ls lookUps s)
    (hls : ls ≠ []) (hdots : ∀ l ∈ ls, '.' ∉ l) :
    sliced.Ends policy (Name.ofLabels ls) lookUps (Name.ofLabels s) := by
  induction hwalk with
  | @managed ls hkind =>
    -- Both walks look up the same name, one as labels and one as text.
    refine .of_found (SlicedList.sliced_ofLabels policy h hls hdots) ?_
    rw [SlicedList.afterAnswer_of_isBoundary hkind]
    rfl
  | @oneLabel ls label hkind htail =>
    have hsuffix := answer_suffix ⟨list, policy⟩ ls
    rw [htail] at hsuffix
    have hlabel : '.' ∉ label := hdots label (hsuffix.subset (by simp))
    have hasked := SlicedList.sliced_ofLabels policy h hls hdots
    rw [htail, Name.ofLabels_singleton] at hasked
    rw [lookUp_of_answer htail, Name.ofLabels_singleton]
    refine .of_found hasked ?_
    rw [SlicedList.afterAnswer_of_label hkind hlabel]
    rfl
  | @onward ls rest s label lookUps hkind htail hrest _ ih =>
    have hsuffix := answer_suffix ⟨list, policy⟩ ls
    rw [htail] at hsuffix
    have hdots' : ∀ l ∈ label :: rest, '.' ∉ l := fun l hl => hdots l (hsuffix.subset hl)
    obtain ⟨hlabel, hdotsRest⟩ := List.forall_mem_cons.mp hdots'
    have hasked := SlicedList.sliced_ofLabels policy h hls hdots
    rw [htail] at hasked
    rw [lookUp_of_answer htail]
    exact .cons hasked (SlicedList.afterAnswer_of_labels hkind hrest hlabel) (ih hrest hdotsRest)

/-- The list is asked for tails of the name, and each answer is the one of the walk. -/
theorem WalksBy.asked (h : Offered sliced list) (hwalk : WalksBy ⟨list, policy⟩ ls lookUps s)
    (hls : ls ≠ []) (hdots : ∀ l ∈ ls, '.' ∉ l) :
    ∀ l ∈ lookUps, Name.labels l.candidate <:+ ls ∧ sliced l.candidate = some (l.suffix, l.kind) := by
  intro l hl
  obtain ⟨tail, htail, hne, rfl⟩ := hwalk.forall_mem hls l hl
  have hdots' : ∀ l ∈ tail, '.' ∉ l := fun l hl => hdots l (htail.subset hl)
  have hlabels : Name.labels (Name.ofLabels tail) = tail := Name.labels_ofLabels hne hdots'
  refine ⟨?_, SlicedList.sliced_ofLabels policy h hne hdots'⟩
  show Name.labels (Name.ofLabels tail) <:+ ls
  rw [hlabels]
  exact htail

/-- The walk that splits a name, for every name that the check accepts. -/
theorem exists_walk_of_valid (h : Offered sliced list) {name : Text} (hroot : name ≠ ['.'])
    (hvalid : Name.validate policy name = .ok ()) :
    ∃ lookUps s, WalksBy ⟨list, policy⟩ (Name.labels (Name.clean name)) lookUps s ∧
      sliced.Ends policy (Name.clean name) lookUps (Name.ofLabels s) ∧
      Name.labels (Name.ofLabels s) = s ∧
      (decompose ⟨list, policy⟩ name).map Parts.tld = .ok (Name.ofLabels s) := by
  have hls := Name.labels_ne_nil (Name.clean name)
  have hcount : ∀ ls, 1 ≤ (list.lookup ls).count := h.count_pos
  have hwalksTo := @walksTo_suffixLabels ⟨list, policy⟩ _ hcount hls
  obtain ⟨lookUps, hwalk⟩ := hwalksTo.exists_walksBy
  refine ⟨lookUps, _, hwalk, ?_, ?_, ?_⟩
  · have hends := hwalk.ends h hls fun l hl => Name.not_mem_labels hl
    rwa [Name.ofLabels_labels] at hends
  · exact Name.labels_ofLabels_of_suffix hwalksTo.isTail (hwalksTo.ne_nil hcount hls)
  · rw [decompose_of_valid hroot hvalid]
    exact congrArg Except.ok (tld_partsAt hwalksTo.isTail)

/-! ## §3. Two walks side by side. -/

variable {accepts : Bool} {on off : List Text} {onLookUps offLookUps : List LookUp}

/-- Where private suffixes do not count, only ICANN suffixes end a walk. -/
theorem kind_of_isAnswered_off (h : isAnswered ⟨list, ⟨accepts, false⟩⟩ ls = true) :
    (list.lookup ls).kind = .icann := by
  revert h
  show SuffixKind.isBoundary ⟨accepts, false⟩ (list.lookup ls).kind = true → _
  cases (list.lookup ls).kind <;> simp [SuffixKind.isBoundary]

/-- Where they count, nothing else ends it but private ones. -/
theorem kind_of_isAnswered_on (hoff : isAnswered ⟨list, ⟨accepts, false⟩⟩ ls = false)
    (hon : isAnswered ⟨list, ⟨accepts, true⟩⟩ ls = true) :
    (list.lookup ls).kind = .privatelyOwned := by
  revert hoff hon
  show SuffixKind.isBoundary ⟨accepts, false⟩ (list.lookup ls).kind = false →
    SuffixKind.isBoundary ⟨accepts, true⟩ (list.lookup ls).kind = true → _
  cases (list.lookup ls).kind <;> simp [SuffixKind.isBoundary]

/-- A suffix that ends a walk where private suffixes do not count ends it where
they count. -/
theorem isAnswered_on_of_off (hoff : isAnswered ⟨list, ⟨accepts, false⟩⟩ ls = true) :
    isAnswered ⟨list, ⟨accepts, true⟩⟩ ls = true := by
  show SuffixKind.isBoundary ⟨accepts, true⟩ (list.lookup ls).kind = true
  rw [kind_of_isAnswered_off hoff]
  rfl

theorem kind_ne_of_not_isAnswered_on (hon : isAnswered ⟨list, ⟨accepts, true⟩⟩ ls = false) :
    (list.lookup ls).kind ≠ .privatelyOwned := by
  revert hon
  show SuffixKind.isBoundary ⟨accepts, true⟩ (list.lookup ls).kind = false → _
  cases (list.lookup ls).kind <;> simp [SuffixKind.isBoundary]

/-- What the two walks from one name have to do with each other. -/
structure Compared (onLookUps offLookUps : List LookUp) (on off : List Text) : Prop where
  isPrefix : onLookUps <+: offLookUps
  isTail : off <:+ on
  eq_iff : off = on ↔ ∀ l ∈ onLookUps, l.kind = .privatelyOwned → '.' ∉ l.suffix

theorem mem_dot_ofLabels {rest : List Text} {label : Text} (hrest : rest ≠ []) :
    '.' ∈ Name.ofLabels (label :: rest) := by
  rw [Name.ofLabels_cons label hrest]
  simp

/-- One answer that ends both walks. -/
theorem Compared.of_same {l : LookUp} {tld : List Text}
    (h : l.kind = .privatelyOwned → '.' ∉ l.suffix) : Compared [l] [l] tld tld := by
  refine ⟨List.prefix_rfl, List.suffix_rfl, iff_of_true rfl ?_⟩
  intro l' hl
  rw [List.mem_singleton.mp hl]
  exact h

/-- A private answer that ends one walk only: the other one ends behind its first
label. -/
theorem Compared.of_private {l : LookUp} {rest : List Text} {label : Text}
    (hkind : l.kind = .privatelyOwned) (hsuffix : '.' ∈ l.suffix) (h : off <:+ rest) :
    Compared [l] (l :: offLookUps) (label :: rest) off := by
  refine ⟨List.prefix_append [l] offLookUps, h.trans (List.suffix_cons label rest), ?_⟩
  refine iff_of_false ?_ ?_
  · intro heq
    have hle := h.length_le
    rw [heq, List.length_cons] at hle
    omega
  · exact fun hall => hall l (List.mem_singleton_self l) hkind hsuffix

/-- An answer that ends neither walk. -/
theorem Compared.cons {l : LookUp} (h : Compared onLookUps offLookUps on off)
    (hkind : l.kind ≠ .privatelyOwned) : Compared (l :: onLookUps) (l :: offLookUps) on off := by
  refine ⟨(List.prefix_cons_inj l).mpr h.isPrefix, h.isTail, ?_⟩
  rw [h.eq_iff, List.forall_mem_cons]
  exact (and_iff_right fun hprivate => absurd hprivate hkind).symm

/-- **The two walks side by side.**  The induction is on the walk that is not
ended by private answers, the longer one. -/
theorem WalksBy.compared (hoff : WalksBy ⟨list, ⟨accepts, false⟩⟩ ls offLookUps off)
    (hon : WalksBy ⟨list, ⟨accepts, true⟩⟩ ls onLookUps on) (hdots : ∀ l ∈ ls, '.' ∉ l) :
    Compared onLookUps offLookUps on off := by
  -- The induction is on the walk that passes over private suffixes; the other one ends no
  -- later, and up to its end both ask the same.
  induction hoff generalizing onLookUps on with
  | @managed ls hkind =>
    have hicann := kind_of_isAnswered_off hkind
    have hanswered := isAnswered_on_of_off hkind
    cases hon with
    | managed =>
      refine .of_same fun hprivate => ?_
      exact absurd (hicann.symm.trans hprivate) (by simp)
    | oneLabel hnot => exact absurd (hanswered.symm.trans hnot) (by simp)
    | onward hnot => exact absurd (hanswered.symm.trans hnot) (by simp)
  | @oneLabel ls label hkind htail =>
    have hsuffix := answer_suffix ⟨list, ⟨accepts, false⟩⟩ ls
    rw [htail] at hsuffix
    have hlabel : '.' ∉ (list.lookUp ls).suffix := by
      rw [lookUp_of_answer htail, Name.ofLabels_singleton]
      exact hdots label (hsuffix.subset (by simp))
    cases hon with
    | managed =>
      show Compared _ _ (answer ⟨list, ⟨accepts, false⟩⟩ ls) [label]
      rw [htail]
      exact .of_same fun _ => hlabel
    | oneLabel _ hone =>
      cases htail.symm.trans hone
      exact .of_same fun _ => hlabel
    | onward _ hmore hrest =>
      cases htail.symm.trans hmore
      exact absurd rfl hrest
  | @onward ls rest off label offLookUps hkind htail hrest hwalk ih =>
    cases hon with
    | managed hends =>
      -- The suffix is a private one: the walk that counts it ends here, the other goes on.
      have hdot : '.' ∈ (list.lookUp ls).suffix := by
        rw [lookUp_of_answer htail]
        exact mem_dot_ofLabels hrest
      show Compared _ _ (answer ⟨list, ⟨accepts, false⟩⟩ ls) off
      rw [htail]
      exact .of_private (kind_of_isAnswered_on hkind hends) hdot hwalk.walksTo.isTail
    | oneLabel _ hone =>
      cases htail.symm.trans hone
      exact absurd rfl hrest
    | onward hnot hmore _ hwalk' =>
      cases htail.symm.trans hmore
      have hdots' : ∀ l ∈ rest, '.' ∉ l := fun l hl => hdots l ((rest_suffix htail).subset hl)
      exact (ih hwalk' hdots').cons (kind_ne_of_not_isAnswered_on hnot)

/-- A walk that private answers do not end has an ICANN answer in the end, or one
label. -/
theorem WalksBy.origin (hoff : WalksBy ⟨list, ⟨accepts, false⟩⟩ ls offLookUps off) :
    off.length = 1 ∨ ∃ l ∈ offLookUps, l.suffix = Name.ofLabels off ∧ l.kind = .icann := by
  induction hoff with
  | @managed ls hkind =>
    exact .inr ⟨_, List.mem_singleton_self _, rfl, kind_of_isAnswered_off hkind⟩
  | oneLabel => exact .inl rfl
  | onward _ _ _ _ ih =>
    refine ih.imp_right fun hyp => ?_
    obtain ⟨l, hl, hsuffix, hkind⟩ := hyp
    exact ⟨l, List.mem_cons_of_mem _ hl, hsuffix, hkind⟩

/-! ## §4. The suffix of a name. -/

/-- What the walks from a name do under the two settings of the switch for private
suffixes: `off` and `on` are where they end. -/
structure SwitchesPrivate (accepts : Bool) (sliced : SlicedList) (list : SuffixList) (name : Text)
    (offLookUps onLookUps : List LookUp) (off on : Text) : Prop where
  /-- Each walk ends, at the suffix that the name is split at, -/
  ends_off : sliced.Ends ⟨accepts, false⟩ (Name.clean name) offLookUps off
  ends_on : sliced.Ends ⟨accepts, true⟩ (Name.clean name) onLookUps on
  tld_off : (decompose ⟨list, ⟨accepts, false⟩⟩ name).map Parts.tld = .ok off
  tld_on : (decompose ⟨list, ⟨accepts, true⟩⟩ name).map Parts.tld = .ok on
  /-- after no more look-ups than the name has labels. -/
  length_off : offLookUps.length ≤ (Name.labels (Name.clean name)).length
  length_on : onLookUps.length ≤ (Name.labels (Name.clean name)).length
  /-- The list is asked for tails of the name, -/
  asked : ∀ l ∈ offLookUps, Name.labels l.candidate <:+ Name.labels (Name.clean name) ∧
    sliced l.candidate = some (l.suffix, l.kind)
  /-- and for the same ones as long as both walks go on. -/
  isPrefix : onLookUps <+: offLookUps
  /-- One suffix is a tail of the other. -/
  isTail : Name.labels off <:+ Name.labels on
  /-- They are the same if no answer is private, or only a single label is. -/
  eq_iff : off = on ↔ ∀ l ∈ onLookUps, l.kind = .privatelyOwned → '.' ∉ l.suffix
  /-- Where private suffixes do not count, ICANN suffixes or single labels are left. -/
  origin : (Name.labels off).length = 1 ∨ ∃ l ∈ offLookUps, l.suffix = off ∧ l.kind = .icann

/-- **What the switch for private suffixes does to the suffix of a name**, for
every list and every name that the check accepts. -/
theorem decompose_switchesPrivate (h : Offered sliced list) (accepts : Bool) {name : Text}
    (hroot : name ≠ ['.']) (hvalid : Name.validate ⟨accepts, false⟩ name = .ok ()) :
    ∃ offLookUps onLookUps off on,
      SwitchesPrivate accepts sliced list name offLookUps onLookUps off on := by
  have hls := Name.labels_ne_nil (Name.clean name)
  have hdots : ∀ l ∈ Name.labels (Name.clean name), '.' ∉ l := fun l hl => Name.not_mem_labels hl
  -- The switch does not matter to the check.
  have hvalid' : Name.validate ⟨accepts, true⟩ name = .ok () := hvalid
  obtain ⟨offLookUps, off, hoff, hoffEnds, hoffLabels, hoffTld⟩ := exists_walk_of_valid h hroot hvalid
  obtain ⟨onLookUps, on, hon, honEnds, honLabels, honTld⟩ := exists_walk_of_valid h hroot hvalid'
  have hcompared := hoff.compared hon hdots
  refine ⟨offLookUps, onLookUps, Name.ofLabels off, Name.ofLabels on, ?_⟩
  constructor
  case ends_off => exact hoffEnds
  case ends_on => exact honEnds
  case tld_off => exact hoffTld
  case tld_on => exact honTld
  case length_off => exact hoff.length_le hls
  case length_on => exact hon.length_le hls
  case asked => exact hoff.asked h hls hdots
  case isPrefix => exact hcompared.isPrefix
  case isTail =>
    rw [hoffLabels, honLabels]
    exact hcompared.isTail
  case eq_iff =>
    rw [← hcompared.eq_iff]
    constructor
    · intro heq
      rw [← hoffLabels, heq, honLabels]
    · intro heq
      rw [heq]
  case origin =>
    rw [hoffLabels]
    exact hoff.origin

/-- `github.io` is private: where private suffixes count, one look-up gives it, and
where they do not, one look-up more gives `io`. -/
theorem decompose_switchesPrivate_github_io :
    let tree := LabelTree.ofRules [(⟨.exact, ["io".toList]⟩, .icann),
      (⟨.exact, ["github".toList, "io".toList]⟩, .privatelyOwned)]
    SwitchesPrivate false (Builtin.sliced tree.search) (Builtin.list tree.search)
      "a.GitHub.io.".toList
      [⟨"a.github.io".toList, "github.io".toList, .privatelyOwned⟩,
        ⟨"io".toList, "io".toList, .icann⟩]
      [⟨"a.github.io".toList, "github.io".toList, .privatelyOwned⟩]
      "io".toList "github.io".toList := by
  intro tree
  obtain ⟨offLookUps, onLookUps, off, on, h⟩ :=
    decompose_switchesPrivate (.builtin tree.wholeLabels_search) false
      (show "a.GitHub.io.".toList ≠ ['.'] by decide) (by decide)
  obtain ⟨last, hlast, hturns⟩ := h.ends_off
  obtain ⟨last', hlast', hturns'⟩ := h.ends_on
  have hoff := hturns 3 h.length_off
  have hon := hturns' 3 h.length_on
  have hrunOff : SlicedList.turns ⟨false, false⟩ (Builtin.sliced tree.search) 3
      (.seeking (Name.clean "a.GitHub.io.".toList))
        = some ([⟨"a.github.io".toList, "github.io".toList, .privatelyOwned⟩,
          ⟨"io".toList, "io".toList, .icann⟩], .foundBoundary "io".toList) := by decide
  have hrunOn : SlicedList.turns ⟨false, true⟩ (Builtin.sliced tree.search) 3
      (.seeking (Name.clean "a.GitHub.io.".toList))
        = some ([⟨"a.github.io".toList, "github.io".toList, .privatelyOwned⟩],
          .foundBoundary "github.io".toList) := by decide
  cases hrunOff.symm.trans hoff
  cases hrunOn.symm.trans hon
  cases hlast
  cases hlast'
  exact h

end Decomposer

end DomainScope
