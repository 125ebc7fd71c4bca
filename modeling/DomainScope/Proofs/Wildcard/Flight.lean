/-
  DomainScope.Proofs.Wildcard.Flight
  ──────────────────────────────────
  **PROBES THAT END IN ANY ORDER.**

  Probes that are issued together are in flight together, and any of them may
  end next.  Each end is taken as it comes, until one decides or none is left
  in flight; what is in flight then is dropped.  No run is fixed beforehand:
  the steps below are all that can happen.

  Main results
    `soundness`            what holds after any number of steps
    `IsSound.settles`      what a flight that is over says
    `exists_reaches`       every order of the probes is the order of a flight
-/
import DomainScope.Wildcard.Race
import DomainScope.Text.Basic
import Mathlib.Data.List.Basic

namespace DomainScope

/-! ## §1. Settling. -/

section Settle

variable {ε : Type} {a : Except ε Bool} {answers : List (Except ε Bool)}

theorem settle_cons_of_ne (h : a ≠ .ok true) (rest : List (Except ε Bool)) :
    settle (a :: rest) = a := by
  match a with
  | .ok true => exact absurd rfl h
  | .ok false => rfl
  | .error e => rfl

theorem settle_append_of_positive (h : ∀ a ∈ answers, a = .ok true)
    (rest : List (Except ε Bool)) : settle (answers ++ rest) = settle rest := by
  induction answers with
  | nil => rfl
  | cons a answers ih =>
    obtain rfl := h a List.mem_cons_self
    exact ih fun b hb => h b (List.mem_cons_of_mem _ hb)

theorem settle_eq_true_iff : settle answers = .ok true ↔ ∀ a ∈ answers, a = .ok true := by
  induction answers with
  | nil => exact iff_of_true rfl (by simp)
  | cons a rest ih =>
    rw [List.forall_mem_cons]
    by_cases ha : a = .ok true
    · subst ha
      rw [← ih]
      simp [settle]
    · rw [settle_cons_of_ne ha]
      simp [ha]

theorem settle_mem (h : settle answers ≠ .ok true) : settle answers ∈ answers := by
  induction answers with
  | nil => exact absurd rfl h
  | cons a rest ih =>
    by_cases ha : a = .ok true
    · subst ha
      exact List.mem_cons_of_mem _ (ih h)
    · rw [settle_cons_of_ne ha]
      exact List.mem_cons_self

/-- Answers of which no two differ without being positive. -/
def Unanimous (answers : List (Except ε Bool)) : Prop :=
  ∀ a ∈ answers, ∀ b ∈ answers, a ≠ .ok true → b ≠ .ok true → a = b

/-- Unanimous answers settle alike in every order. -/
theorem Unanimous.settle_eq_of_perm {others : List (Except ε Bool)} (h : Unanimous answers)
    (hperm : others.Perm answers) : settle others = settle answers := by
  by_cases hall : ∀ a ∈ answers, a = .ok true
  · rw [settle_eq_true_iff.mpr hall, settle_eq_true_iff]
    intro a ha
    exact hall a (hperm.mem_iff.mp ha)
  · have hothers : ¬ ∀ a ∈ others, a = .ok true := fun hp =>
      hall fun a ha => hp a (hperm.mem_iff.mpr ha)
    rw [← settle_eq_true_iff] at hall hothers
    exact h _ (hperm.mem_iff.mp (settle_mem hothers)) _ (settle_mem hall) hothers hall

end Settle

/-! ## §2. Flights. -/

theorem Race.take_answered_of_ne {ε : Type} {race : Race ε} {a : Except ε Bool}
    (h : a ≠ .ok true) : race.take (.answered a) = ⟨true, some a⟩ := by
  match a with
  | .ok true => exact absurd rfl h
  | .ok false => rfl
  | .error e => rfl

/-- A probe: the number of its call, the name that it asks for, and the answer
that it gets if it is not called off. -/
structure Probe (ε : Type) where
  call : Nat
  name : Text
  answer : Except ε Bool

/-- The probes issued for some names. -/
def issued {ε : Type} (answer : Nat → Text → Except ε Bool) (names : List Text) :
    List (Probe ε) :=
  names.zipIdx.map fun (name, call) => ⟨call, name, answer call name⟩

/-- A flight: the probes that have not ended, the others with their ends, in the
order in which they ended, and the race so far. -/
structure Flight (ε : Type) where
  inFlight : List (Probe ε)
  landed : List (Probe ε × ProbeEnd ε) := []
  race : Race ε := {}

namespace Flight

variable {ε : Type} {probes : List (Probe ε)} {f g : Flight ε}

/-- The flight after a probe from among those in flight has ended. -/
def land (f : Flight ε) (before : List (Probe ε)) (probe : Probe ε) (after : List (Probe ε)) :
    Flight ε :=
  { inFlight := before ++ after
    landed := f.landed ++ [(probe, f.race.probeEnd probe.answer)]
    race := f.race.take (f.race.probeEnd probe.answer) }

/-- As long as nothing has decided, any probe in flight may end next. -/
inductive Step : Flight ε → Flight ε → Prop where
  | land {f : Flight ε} {before after : List (Probe ε)} {probe : Probe ε}
      (undecided : f.race.decision = none) (h : f.inFlight = before ++ probe :: after) :
      Step f (f.land before probe after)

/-- The flights that some probes can come to. -/
inductive Reaches (probes : List (Probe ε)) : Flight ε → Prop where
  | launch : Reaches probes { inFlight := probes }
  | step {f g : Flight ε} (h : Reaches probes f) (hstep : Step f g) : Reaches probes g

/-- Nothing more is waited for. -/
def IsOver (f : Flight ε) : Prop := f.race.decision ≠ none ∨ f.inFlight = []

/-! ## §3. What holds of every flight. -/

/-- Nothing has decided: whatever has ended was positive. -/
structure IsUndecided (f : Flight ε) : Prop where
  decision : f.race.decision = none
  isCalledOff : f.race.isCalledOff = false
  positive : ∀ l ∈ f.landed, l.1.answer = .ok true

/-- `probe` was the last to end, all that ended before it were positive, and its
own answer, which is not, has decided. -/
structure IsDecidedBy (f : Flight ε) (probe : Probe ε) : Prop where
  decision : f.race.decision = some probe.answer
  not_positive : probe.answer ≠ .ok true
  first : ∃ earlier, f.landed = earlier ++ [(probe, .answered probe.answer)] ∧
    ∀ l ∈ earlier, l.1.answer = .ok true

/-- No probe is lost, all that ended gave their answers, and the first answer
that is not positive has decided, if there was one. -/
structure IsSound (probes : List (Probe ε)) (f : Flight ε) : Prop where
  perm : (f.landed.map Prod.fst ++ f.inFlight).Perm probes
  answered : ∀ l ∈ f.landed, l.2 = .answered l.1.answer
  race : f.IsUndecided ∨ ∃ probe, f.IsDecidedBy probe

theorem isSound_launch : IsSound probes { inFlight := probes } where
  perm := List.Perm.refl _
  answered := by simp
  race := .inl ⟨rfl, rfl, by simp⟩

/-- **A step keeps a flight sound.** -/
theorem IsSound.step (h : IsSound probes f) (hstep : Step f g) : IsSound probes g := by
  cases hstep with
  | @land before after probe undecided hsplit =>
    have hopen : f.IsUndecided := by
      rcases h.race with hopen | ⟨other, hdecided⟩
      · exact hopen
      · rw [hdecided.decision] at undecided
        exact absurd undecided (by simp)
    -- Nothing has been called off yet, so the probe ends with its answer.
    have hend : f.race.probeEnd probe.answer = .answered probe.answer := by
      simp [Race.probeEnd, hopen.isCalledOff]
    have hland : f.land before probe after = ⟨before ++ after,
        f.landed ++ [(probe, .answered probe.answer)], f.race.take (.answered probe.answer)⟩ := by
      unfold land
      rw [hend]
    rw [hland]
    refine ⟨?_, ?_, ?_⟩
    · have hperm := h.perm
      rw [hsplit] at hperm
      refine List.Perm.trans ?_ hperm
      rw [List.map_append, List.append_assoc]
      show (f.landed.map Prod.fst ++ probe :: (before ++ after)).Perm _
      exact List.Perm.append_left _ List.perm_middle.symm
    · intro l hl
      rcases List.mem_append.mp hl with hl | hl
      · exact h.answered l hl
      · rw [List.mem_singleton.mp hl]
    · by_cases hpositive : probe.answer = .ok true
      · left
        rw [hpositive]
        refine ⟨hopen.decision, hopen.isCalledOff, ?_⟩
        intro l hl
        rcases List.mem_append.mp hl with hl | hl
        · exact hopen.positive l hl
        · rw [List.mem_singleton.mp hl, hpositive]
      · right
        rw [Race.take_answered_of_ne hpositive]
        exact ⟨probe, rfl, hpositive, f.landed, rfl, hopen.positive⟩

/-- **Every flight is sound.** -/
theorem soundness (h : Reaches probes f) : IsSound probes f := by
  induction h with
  | launch => exact isSound_launch
  | step _ hstep ih => exact ih.step hstep

/-! ## §4. Flights that are over. -/

theorem IsUndecided.inFlight_eq_nil (h : f.IsUndecided) (hover : f.IsOver) : f.inFlight = [] :=
  hover.resolve_left fun hne => hne h.decision

theorem IsUndecided.verdict_eq (h : f.IsUndecided) : f.race.verdict = .ok true := by
  unfold Race.verdict
  rw [h.decision]
  rfl

theorem IsDecidedBy.verdict_eq {probe : Probe ε} (h : f.IsDecidedBy probe) :
    f.race.verdict = probe.answer := by
  unfold Race.verdict
  rw [h.decision]
  rfl

theorem IsDecidedBy.mem (h : IsSound probes f) {probe : Probe ε} (hdecided : f.IsDecidedBy probe) :
    probe ∈ probes := by
  obtain ⟨earlier, hlanded, -⟩ := hdecided.first
  rw [← h.perm.mem_iff, hlanded]
  simp

/-- What a flight says that is over: it is positive if all its probes are, and
none has been dropped then; otherwise it says what the first probe says that
ended without being positive.  No end without an answer is ever taken. -/
structure Settles (probes : List (Probe ε)) (f : Flight ε) : Prop where
  positive_iff : f.race.verdict = .ok true ↔ ∀ probe ∈ probes, probe.answer = .ok true
  none_dropped : f.race.verdict = .ok true → f.inFlight = []
  first_refusal : f.race.verdict ≠ .ok true →
    ∃ probe ∈ probes, f.IsDecidedBy probe ∧ f.race.verdict = probe.answer
  answered : ∀ l ∈ f.landed, l.2 = .answered l.1.answer

/-- **A flight that is over settles its probes.** -/
theorem IsSound.settles (h : IsSound probes f) (hover : f.IsOver) : Settles probes f := by
  rcases h.race with hopen | ⟨probe, hdecided⟩
  · have hnil := hopen.inFlight_eq_nil hover
    refine ⟨iff_of_true hopen.verdict_eq ?_, fun _ => hnil, ?_, h.answered⟩
    · intro probe hmem
      have hperm := h.perm
      rw [hnil, List.append_nil] at hperm
      obtain ⟨l, hl, rfl⟩ := List.mem_map.mp (hperm.mem_iff.mpr hmem)
      exact hopen.positive l hl
    · intro hne
      exact absurd hopen.verdict_eq hne
  · have hmem := hdecided.mem h
    have hverdict := hdecided.verdict_eq
    have hne : f.race.verdict ≠ .ok true := by
      rw [hverdict]
      exact hdecided.not_positive
    refine ⟨iff_of_false hne ?_, fun heq => absurd heq hne, ?_, h.answered⟩
    · exact fun hall => hdecided.not_positive (hall probe hmem)
    · exact fun _ => ⟨probe, hmem, hdecided, hverdict⟩

/-- What has ended, in an order of all probes, is what that order settles. -/
theorem IsSound.verdict_eq_settle (h : IsSound probes f) (hover : f.IsOver)
    {order : List (Probe ε)} (hperm : order.Perm probes)
    (hfirst : f.landed.map Prod.fst <+: order) :
    f.race.verdict = settle (order.map Probe.answer) := by
  rcases h.race with hopen | ⟨probe, hdecided⟩
  · rw [hopen.verdict_eq, eq_comm, settle_eq_true_iff]
    intro a ha
    obtain ⟨probe, hmem, rfl⟩ := List.mem_map.mp ha
    have hall := (h.settles hover).positive_iff.mp hopen.verdict_eq
    exact hall probe (hperm.mem_iff.mp hmem)
  · -- All in front of the probe that decided was positive, and nothing behind it counts.
    obtain ⟨earlier, hlanded, hpositive⟩ := hdecided.first
    obtain ⟨later, rfl⟩ := hfirst
    rw [hlanded, hdecided.verdict_eq, List.map_append, List.map_append, List.map_append,
      List.append_assoc, settle_append_of_positive]
    · exact (settle_cons_of_ne hdecided.not_positive _).symm
    · intro a ha
      simp only [List.map_map, List.mem_map, Function.comp_apply] at ha
      obtain ⟨l, hl, rfl⟩ := ha
      exact hpositive l hl

/-! ## §5. Every order is the order of a flight. -/

/-- An undecided flight can go on in any order of what is in flight.  The induction
is on that order; a probe that decides ends the flight before the order does. -/
theorem exists_reaches_of_undecided (h : Reaches probes f) (hopen : f.IsUndecided)
    {order : List (Probe ε)} (hperm : order.Perm f.inFlight) :
    ∃ g, Reaches probes g ∧ g.IsOver ∧
      g.landed.map Prod.fst <+: f.landed.map Prod.fst ++ order := by
  induction order generalizing f with
  | nil => exact ⟨f, h, .inr hperm.symm.eq_nil, by simp⟩
  | cons probe rest ih =>
    obtain ⟨before, after, hsplit⟩ := List.append_of_mem (hperm.mem_iff.mp List.mem_cons_self)
    have hstep := Step.land hopen.decision hsplit
    have hreaches := Reaches.step h hstep
    have hlanded : (f.land before probe after).landed.map Prod.fst
        = f.landed.map Prod.fst ++ [probe] := by
      simp [land]
    rcases (soundness hreaches).race with hopen' | ⟨other, hdecided⟩
    · have hrest : rest.Perm (f.land before probe after).inFlight := by
        rw [hsplit] at hperm
        exact (hperm.trans List.perm_middle).cons_inv
      obtain ⟨g, hg, hover, hfirst⟩ := ih hreaches hopen' hrest
      refine ⟨g, hg, hover, ?_⟩
      rwa [hlanded, List.append_assoc] at hfirst
    · refine ⟨_, hreaches, .inl (by simp [hdecided.decision]), ?_⟩
      rw [hlanded]
      exact ⟨rest, by simp⟩

/-- **Probes can end in every order**, until one of them decides. -/
theorem exists_reaches {order : List (Probe ε)} (hperm : order.Perm probes) :
    ∃ f, Reaches probes f ∧ f.IsOver ∧ f.landed.map Prod.fst <+: order := by
  have hopen : IsUndecided ({ inFlight := probes } : Flight ε) := ⟨rfl, rfl, by simp⟩
  obtain ⟨f, hf, hover, hfirst⟩ := exists_reaches_of_undecided .launch hopen hperm
  exact ⟨f, hf, hover, by simpa using hfirst⟩

end Flight

end DomainScope
