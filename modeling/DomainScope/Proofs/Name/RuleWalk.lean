/-
  DomainScope.Proofs.Name.RuleWalk
  ────────────────────────────────
  **THE WALK OVER A LIST OF RULES.**

  What the walk to the suffix of a name owes to the rules of the list it asks.
  It ends at a tail of the name that holds no exception, and that tail is a
  single label, or a rule covers it whose kind ends the walk, or an exception
  stands on it and one label more.  A name with a label in front of it has the
  suffix that it has without that label, if the look-ups of both agree.

  Main results
    `WalksTo.origin`                  why a walk ends where it does
    `suffixLabels_eq_self_iff`        the tails that a walk does not leave
    `suffixLabels_cons_of_lookup_eq`  one label in front
-/
import DomainScope.Proofs.Name.SuffixWalk
import DomainScope.Proofs.Suffix.Lookup

namespace DomainScope

open RuleList

/-! ## §1. Tails that stand alone. -/

/-- A rule covers the whole of a name, and its kind ends the walk. -/
def StandsAlone (kindOf? : Rule → Option SuffixKind) (policy : Policy) (ls : List Text) : Prop :=
  ∃ kind, tailKind? kindOf? ls = some kind ∧ SuffixKind.isBoundary policy kind = true

theorem ne_unmanaged_of_isBoundary {policy : Policy} {kind : SuffixKind}
    (h : SuffixKind.isBoundary policy kind = true) : kind ≠ .unmanaged := by
  intro heq
  subst heq
  exact absurd h (by simp [SuffixKind.isBoundary])

namespace Decomposer

variable {list : RuleList} {policy : Policy} {ls s : List Text}

/-! ## §2. Runs over a list of rules. -/

/-- There are as many labels in an answer as the list counts. -/
theorem length_answer (hls : ls ≠ []) :
    (answer ⟨list.toSuffixList, policy⟩ ls).length = (list.lookup ls).count :=
  length_lastLabels ((finds_lookup list ls).count_le hls)

theorem answer_eq_of_count {tail : List Text} (htail : tail <:+ ls)
    (hlen : tail.length = (list.lookup ls).count) :
    answer ⟨list.toSuffixList, policy⟩ ls = tail := by
  show lastLabels (list.lookup ls).count ls = tail
  rw [← hlen]
  exact lastLabels_length_of_suffix htail

/-- The walk over a list of rules is a run: each look-up gives a label. -/
theorem walksTo_rules (list : RuleList) (policy : Policy) (hls : ls ≠ []) :
    WalksTo ⟨list.toSuffixList, policy⟩ ls (suffixLabels ⟨list.toSuffixList, policy⟩ ls) := by
  have hcount : ∀ ls, 1 ≤ (list.lookup ls).count := fun ls => (finds_lookup list ls).count_pos
  exact walksTo_suffixLabels hcount hls

/-- Every name has a suffix of one label at least. -/
theorem suffixLabels_ne_nil (list : RuleList) (policy : Policy) (hls : ls ≠ []) :
    suffixLabels ⟨list.toSuffixList, policy⟩ ls ≠ [] := by
  have hcount : ∀ ls, 1 ≤ (list.lookup ls).count := fun ls => (finds_lookup list ls).count_pos
  exact (walksTo_rules list policy hls).ne_nil hcount hls

/-- A name of one label is its own suffix. -/
theorem suffixLabels_of_length_eq_one (list : RuleList) (policy : Policy) (h : ls.length = 1) :
    suffixLabels ⟨list.toSuffixList, policy⟩ ls = ls := by
  have hls : ls ≠ [] := List.length_pos_iff.mp (by omega)
  have htail := (walksTo_rules list policy hls).isTail
  have hpos := List.length_pos_iff.mpr (suffixLabels_ne_nil list policy hls)
  have hle := htail.length_le
  exact htail.eq_of_length (by omega)

/-! ## §3. Where a walk ends. -/

/-- **Why a walk ends where it does.**  The induction is on the run; what the
last look-up met on a tail of the name stands on the name. -/
theorem WalksTo.origin (h : WalksTo ⟨list.toSuffixList, policy⟩ ls s) (hls : ls ≠ []) :
    s.length = 1 ∨
      (NoException list.kindOf? s ∧
        (StandsAlone list.kindOf? policy s ∨
          ∃ label kind, IsException list.kindOf? ls (label :: s) kind)) := by
  induction h with
  | @managed ls hanswered =>
    have hkind := ne_unmanaged_of_isBoundary hanswered
    right
    rcases (finds_lookup list ls).managed_cases hkind with
      ⟨base, he, hlen, shortest⟩ | ⟨hno, tail, hc, hlen, -⟩
    · obtain ⟨label, behind, rfl⟩ := List.exists_cons_of_ne_nil he.ne_nil
      rw [List.length_cons, Nat.add_right_cancel_iff] at hlen
      have hbehind : behind <:+ ls := (List.suffix_cons label behind).trans he.isTail
      rw [answer_eq_of_count hbehind hlen]
      refine ⟨?_, .inr ⟨label, _, he⟩⟩
      -- An exception on what is left would be shorter than the shortest.
      intro other kind ho
      have hle := shortest other kind (ho.of_suffix hbehind)
      have hle' := ho.isTail.length_le
      rw [List.length_cons] at hle
      omega
    · rw [answer_eq_of_count hc.isTail hlen]
      refine ⟨?_, .inl ⟨_, hc.hasKind, hanswered⟩⟩
      intro other kind ho
      exact hno other kind (ho.of_suffix hc.isTail)
  | oneLabel => exact .inl rfl
  | onward _ htail hrest _ ih =>
    rcases ih hrest with hone | ⟨hno, halone | ⟨label, kind, he⟩⟩
    · exact .inl hone
    · exact .inr ⟨hno, .inl halone⟩
    · exact .inr ⟨hno, .inr ⟨label, kind, he.of_suffix (rest_suffix htail)⟩⟩

/-- **The tails that a walk does not leave.**  Without exceptions, a tail of two
labels or more is its own suffix if it stands alone, and only then. -/
theorem suffixLabels_eq_self_iff (hno : NoException list.kindOf? ls) (htwo : 2 ≤ ls.length) :
    suffixLabels ⟨list.toSuffixList, policy⟩ ls = ls ↔ StandsAlone list.kindOf? policy ls := by
  have hls : ls ≠ [] := List.length_pos_iff.mp (by omega)
  constructor
  · intro heq
    cases hanswered : isAnswered ⟨list.toSuffixList, policy⟩ ls with
    | true =>
      have hlen := @length_answer list policy ls hls
      rw [← suffixLabels_of_isAnswered hanswered, heq] at hlen
      rcases (finds_lookup list ls).managed_cases (ne_unmanaged_of_isBoundary hanswered) with
        ⟨base, he, -⟩ | ⟨-, tail, hc, htail, -⟩
      · exact absurd he (hno base _)
      · obtain rfl := hc.isTail.eq_of_length (htail.trans hlen.symm)
        exact ⟨_, hc.hasKind, hanswered⟩
    | false =>
      -- A walk that goes on loses a label.
      have hlt := (walksTo_rules list policy hls).length_lt hanswered
        (answer_suffix _ ls).length_le htwo
      rw [heq] at hlt
      exact absurd hlt (Nat.lt_irrefl _)
  · intro halone
    obtain ⟨kind, hkind, hends⟩ := halone
    have hfound : list.lookup ls = ⟨ls.length, kind⟩ := by
      rw [lookup_eq_iff]
      exact .covered hno ⟨List.suffix_rfl, hkind⟩ fun _ _ ho => ho.isTail.length_le
    have hanswered : isAnswered ⟨list.toSuffixList, policy⟩ ls = true := by
      show SuffixKind.isBoundary policy (list.lookup ls).kind = true
      rw [hfound]
      exact hends
    rw [suffixLabels_of_isAnswered hanswered]
    exact answer_eq_of_count List.suffix_rfl (by rw [hfound])

/-! ## §4. One label in front. -/

/-- **A label in front changes no suffix if it changes no look-up.** -/
theorem suffixLabels_cons_of_lookup_eq {label : Text} (hls : ls ≠ [])
    (h : list.lookup (label :: ls) = list.lookup ls) :
    suffixLabels ⟨list.toSuffixList, policy⟩ (label :: ls)
      = suffixLabels ⟨list.toSuffixList, policy⟩ ls := by
  have hanswer : answer ⟨list.toSuffixList, policy⟩ (label :: ls)
      = answer ⟨list.toSuffixList, policy⟩ ls := by
    refine answer_eq_of_count ((answer_suffix _ ls).trans (List.suffix_cons label ls)) ?_
    rw [length_answer hls, h]
  have hsame : isAnswered ⟨list.toSuffixList, policy⟩ (label :: ls)
      = isAnswered ⟨list.toSuffixList, policy⟩ ls := by
    show SuffixKind.isBoundary policy (list.lookup (label :: ls)).kind
      = SuffixKind.isBoundary policy (list.lookup ls).kind
    rw [h]
  cases hanswered : isAnswered ⟨list.toSuffixList, policy⟩ ls with
  | true =>
    rw [suffixLabels_of_isAnswered hanswered,
      suffixLabels_of_isAnswered (hsame.trans hanswered), hanswer]
  | false =>
    rw [suffixLabels_of_not_isAnswered hanswered,
      suffixLabels_of_not_isAnswered (hsame.trans hanswered), hanswer]

end Decomposer

end DomainScope
