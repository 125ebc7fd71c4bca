/-
  DomainScope.Proofs.Name.SuffixWalk
  ──────────────────────────────────
  **THE WALK TO THE SUFFIX AS A RUN.**

  The walk asks the list for the suffix of a name, and goes on with that suffix
  without its first label until the list manages the suffix or one label is
  left.  `WalksTo` has one constructor for each way a step can go, and what a
  run preserves is proved by induction on it.

  Main results
    `walksTo_suffixLabels`   the suffix of the decomposer is where the walk ends
    `WalksTo.isTail`         a walk ends at a tail of the name
    `WalksTo.ne_nil`         and that tail has a label
-/
import DomainScope.Name.Decompose
import DomainScope.Proofs.Name.Labels

namespace DomainScope.Decomposer

variable {d : Decomposer} {ls s : List Text}

/-- The suffix that the list has for a name. -/
def answer (d : Decomposer) (ls : List Text) : List Text :=
  lastLabels (d.suffixes.lookup ls).count ls

/-- Whether the walk ends at the suffix that the list has for a name. -/
def isAnswered (d : Decomposer) (ls : List Text) : Bool :=
  SuffixKind.isBoundary d.policy (d.suffixes.lookup ls).kind

/-- A walk from a name to a suffix. -/
inductive WalksTo (d : Decomposer) : List Text → List Text → Prop where
  /-- The list manages the suffix. -/
  | managed {ls : List Text} (h : d.isAnswered ls = true) : WalksTo d ls (d.answer ls)
  /-- One label is left. -/
  | oneLabel {ls : List Text} {label : Text} (h : d.isAnswered ls = false)
      (htail : d.answer ls = [label]) : WalksTo d ls [label]
  /-- The walk goes on behind the first label. -/
  | onward {ls rest s : List Text} {label : Text} (h : d.isAnswered ls = false)
      (htail : d.answer ls = label :: rest) (hrest : rest ≠ []) (hwalk : WalksTo d rest s) :
      WalksTo d ls s

theorem answer_suffix (d : Decomposer) (ls : List Text) : d.answer ls <:+ ls :=
  lastLabels_suffix _ _

/-- What is left behind the first label is a tail of the name. -/
theorem rest_suffix {rest : List Text} {label : Text} (h : d.answer ls = label :: rest) :
    rest <:+ ls := by
  have hanswer := d.answer_suffix ls
  rw [h] at hanswer
  exact (List.suffix_cons label rest).trans hanswer

/-- The walk ends at once if the kind found is a boundary. -/
theorem suffixLabels_of_isAnswered (h : d.isAnswered ls = true) :
    d.suffixLabels ls = d.answer ls := by
  rw [suffixLabels]
  exact if_pos h

/-- Else it goes on without the first label of what was found, while one is left. -/
theorem suffixLabels_of_not_isAnswered (h : d.isAnswered ls = false) :
    d.suffixLabels ls =
      match d.answer ls with
      | [] => []
      | [label] => [label]
      | _ :: next :: rest => d.suffixLabels (next :: rest) := by
  have h' : ¬ SuffixKind.isBoundary d.policy (d.suffixes.lookup ls).kind = true := by
    rw [Bool.not_eq_true]
    exact h
  rw [suffixLabels, if_neg h']
  unfold answer
  split
  next htail => rw [htail]
  next htail => rw [htail]
  next next rest htail =>
    show d.suffixLabels (next :: rest) = _
    rw [htail]

/-- The suffix is a tail of the name, also with a list that answers with no label. -/
theorem suffixLabels_suffix (d : Decomposer) (ls : List Text) : d.suffixLabels ls <:+ ls := by
  induction hlen : ls.length using Nat.strongRecOn generalizing ls with
  | _ n ih =>
    have hanswer := d.answer_suffix ls
    cases h : d.isAnswered ls with
    | true =>
      rw [suffixLabels_of_isAnswered h]
      exact hanswer
    | false =>
      rw [suffixLabels_of_not_isAnswered h]
      split
      next => exact List.nil_suffix
      next label htail => exact htail ▸ hanswer
      next label next rest htail =>
        have hle := hanswer.length_le
        rw [htail, List.length_cons] at hle
        exact (ih (next :: rest).length (by omega) (next :: rest) rfl).trans (rest_suffix htail)

theorem answer_ne_nil (hcount : ∀ ls, 1 ≤ (d.suffixes.lookup ls).count) (hls : ls ≠ []) :
    d.answer ls ≠ [] :=
  lastLabels_ne_nil (hcount ls) hls

/-- **The walk of the decomposer is a run.**  The induction is on the number of
labels, since what is left behind the first label is a shorter name. -/
theorem walksTo_suffixLabels (hcount : ∀ ls, 1 ≤ (d.suffixes.lookup ls).count) (hls : ls ≠ []) :
    WalksTo d ls (d.suffixLabels ls) := by
  induction hlen : ls.length using Nat.strongRecOn generalizing ls with
  | _ n ih =>
    cases h : d.isAnswered ls with
    | true =>
      rw [suffixLabels_of_isAnswered h]
      exact .managed h
    | false =>
      rw [suffixLabels_of_not_isAnswered h]
      obtain ⟨label, rest, htail⟩ := List.exists_cons_of_ne_nil (answer_ne_nil hcount hls)
      rw [htail]
      cases rest with
      | nil => exact .oneLabel h htail
      | cons next rest =>
        have hle := (d.answer_suffix ls).length_le
        rw [htail, List.length_cons] at hle
        exact .onward h htail (by simp) (ih _ (by omega) (by simp) rfl)

/-- Wherever a walk ends, it ends at last labels of the name. -/
theorem WalksTo.isTail (h : WalksTo d ls s) : s <:+ ls := by
  induction h with
  | managed => exact answer_suffix d _
  | oneLabel _ htail =>
    rw [← htail]
    exact answer_suffix d _
  | onward _ htail _ _ ih => exact ih.trans (rest_suffix htail)

/-- It ends at one label at least, if the list always answers with one. -/
theorem WalksTo.ne_nil (hcount : ∀ ls, 1 ≤ (d.suffixes.lookup ls).count) (hls : ls ≠ [])
    (h : WalksTo d ls s) : s ≠ [] := by
  induction h with
  | managed => exact answer_ne_nil hcount hls
  | oneLabel => simp
  | onward _ _ hrest _ ih => exact ih hrest

theorem WalksTo.eq_answer (h : WalksTo d ls s) (hanswered : d.isAnswered ls = true) :
    s = d.answer ls := by
  cases h with
  | managed => rfl
  | oneLabel hnot => exact absurd (hanswered.symm.trans hnot) (by simp)
  | onward hnot => exact absurd (hanswered.symm.trans hnot) (by simp)

/-- A walk that goes on from its first answer ends at fewer labels. -/
theorem WalksTo.length_lt (h : WalksTo d ls s) (hnot : d.isAnswered ls = false) {n : Nat}
    (hle : (d.answer ls).length ≤ n) (htwo : 2 ≤ n) : s.length < n := by
  cases h with
  | managed h => exact absurd (h.symm.trans hnot) (by simp)
  | oneLabel => exact htwo
  | onward _ htail _ hwalk =>
    have hs := hwalk.isTail.length_le
    rw [htail, List.length_cons] at hle
    omega

end DomainScope.Decomposer
