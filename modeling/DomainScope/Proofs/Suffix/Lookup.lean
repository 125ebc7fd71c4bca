/-
  DomainScope.Proofs.Suffix.Lookup
  ────────────────────────────────
  **WHAT A LOOK-UP IN A RULE LIST FINDS.**

  The walk of a look-up sees the tails of a name from the shortest to the
  longest.  What it finds can be said without the walk: the shortest tail that
  is an exception, else the longest tail that a rule covers, else nothing
  (`Finds`).  The walk keeps the invariant that no exception has been met and
  that the best suffix so far is what the tail reached would find on its own
  (`finds_walk`).

  Main results
    `Finds.unique`       a name finds one suffix at most
    `lookup_eq_iff`      the look-up gives exactly the suffix found
    `Finds.count_pos`    the suffix found has a label, and none that the name has not
-/
import DomainScope.Suffix.RuleList

namespace DomainScope.RuleList

variable {kindOf? : Rule → Option SuffixKind} {ls : List Text}

/-! ## §1. Tails with a rule. -/

/-- A tail of a name that is an exception. -/
structure IsException (kindOf? : Rule → Option SuffixKind) (ls base : List Text)
    (kind : SuffixKind) : Prop where
  ne_nil : base ≠ []
  isTail : base <:+ ls
  hasKind : kindOf? ⟨.exception, base⟩ = some kind

/-- A tail of a name that an exact rule or a wildcard covers. -/
structure IsCovered (kindOf? : Rule → Option SuffixKind) (ls tail : List Text)
    (kind : SuffixKind) : Prop where
  isTail : tail <:+ ls
  hasKind : tailKind? kindOf? tail = some kind

/-- An exception that is met on a tail of a name is met on the name. -/
theorem IsException.of_suffix {rest base : List Text} {kind : SuffixKind}
    (h : IsException kindOf? rest base kind) (hrest : rest <:+ ls) :
    IsException kindOf? ls base kind :=
  ⟨h.ne_nil, h.isTail.trans hrest, h.hasKind⟩

theorem IsCovered.of_suffix {rest tail : List Text} {kind : SuffixKind}
    (h : IsCovered kindOf? rest tail kind) (hrest : rest <:+ ls) :
    IsCovered kindOf? ls tail kind :=
  ⟨h.isTail.trans hrest, h.hasKind⟩

theorem IsCovered.ne_nil {tail : List Text} {kind : SuffixKind}
    (h : IsCovered kindOf? ls tail kind) : tail ≠ [] := by
  intro heq
  subst heq
  exact absurd h.hasKind (by simp)

/-- A name without exceptions. -/
def NoException (kindOf? : Rule → Option SuffixKind) (ls : List Text) : Prop :=
  ∀ base kind, ¬ IsException kindOf? ls base kind

/-- A name without rules, exceptions aside. -/
def NoCover (kindOf? : Rule → Option SuffixKind) (ls : List Text) : Prop :=
  ∀ tail kind, ¬ IsCovered kindOf? ls tail kind

/-- What a name finds in a list. -/
inductive Finds (kindOf? : Rule → Option SuffixKind) (ls : List Text) : Suffix → Prop where
  /-- The shortest exception. -/
  | exception {base : List Text} {kind : SuffixKind} (h : IsException kindOf? ls base kind)
      (shortest : ∀ other k, IsException kindOf? ls other k → base.length ≤ other.length) :
      Finds kindOf? ls (exceptionSuffix base.tail kind)
  /-- The longest tail covered. -/
  | covered {tail : List Text} {kind : SuffixKind} (none : NoException kindOf? ls)
      (h : IsCovered kindOf? ls tail kind)
      (longest : ∀ other k, IsCovered kindOf? ls other k → other.length ≤ tail.length) :
      Finds kindOf? ls ⟨tail.length, kind⟩
  /-- Nothing. -/
  | nothing (none : NoException kindOf? ls) (h : NoCover kindOf? ls) : Finds kindOf? ls .unmanaged

/-! ## §2. One tail more. -/

theorem isTail_cons_iff {tail : List Text} {label : Text} :
    tail <:+ label :: ls ↔ tail = label :: ls ∨ tail <:+ ls :=
  List.suffix_cons_iff

theorem NoException.cons {label : Text} (h : NoException kindOf? ls)
    (hnone : kindOf? ⟨.exception, label :: ls⟩ = none) :
    NoException kindOf? (label :: ls) := by
  intro base kind he
  rcases isTail_cons_iff.mp he.isTail with rfl | ht
  · exact absurd he.hasKind (by simp [hnone])
  · exact h base kind ⟨he.ne_nil, ht, he.hasKind⟩

/-- A tail covered anew is the longest. -/
theorem Finds.cons_covered {label : Text} {kind : SuffixKind}
    (h : NoException kindOf? (label :: ls)) (hk : tailKind? kindOf? (label :: ls) = some kind) :
    Finds kindOf? (label :: ls) ⟨(label :: ls).length, kind⟩ :=
  .covered h ⟨List.suffix_rfl, hk⟩ fun _ _ ho => ho.isTail.length_le

/-- A tail that no rule covers finds what its own tail finds. -/
theorem Finds.cons_uncovered {label : Text} {best : Suffix}
    (hls : NoException kindOf? ls) (h : NoException kindOf? (label :: ls))
    (hk : tailKind? kindOf? (label :: ls) = none) (hbest : Finds kindOf? ls best) :
    Finds kindOf? (label :: ls) best := by
  have hback : ∀ other k, IsCovered kindOf? (label :: ls) other k →
      IsCovered kindOf? ls other k := by
    intro other k ho
    rcases isTail_cons_iff.mp ho.isTail with rfl | ht
    · exact absurd ho.hasKind (by simp [hk])
    · exact ⟨ht, ho.hasKind⟩
  cases hbest with
  | exception he => exact absurd he (hls _ _)
  | covered _ hc longest =>
    exact .covered h ⟨hc.isTail.trans (List.suffix_cons label ls), hc.hasKind⟩
      fun other k ho => longest other k (hback other k ho)
  | nothing _ hn => exact .nothing h fun tail k ht => hn tail k (hback tail k ht)

/-- An exception that is met first is the shortest. -/
theorem Finds.of_first_exception {front before : List Text} {label : Text} {kind : SuffixKind}
    (hbefore : NoException kindOf? before)
    (hk : kindOf? ⟨.exception, label :: before⟩ = some kind) :
    Finds kindOf? (front ++ label :: before) (exceptionSuffix before kind) := by
  have htail : label :: before <:+ front ++ label :: before := List.suffix_append _ _
  refine .exception ⟨by simp, htail, hk⟩ ?_
  intro other k ho
  rcases Nat.lt_or_ge other.length (label :: before).length with hlt | hge
  · have hshort := List.suffix_of_suffix_length_le ho.isTail htail (Nat.le_of_lt hlt)
    rcases isTail_cons_iff.mp hshort with rfl | ht
    · exact absurd hlt (Nat.lt_irrefl _)
    · exact absurd ⟨ho.ne_nil, ht, ho.hasKind⟩ (hbefore other k)
  · exact hge

/-! ## §3. The walk. -/

section

variable {before rest : List Text} {label : Text} {kind : SuffixKind} {best : Suffix}

/-- An exception ends the walk. -/
theorem walk_cons_of_exception (h : kindOf? ⟨.exception, label :: before⟩ = some kind) :
    walk kindOf? before best (label :: rest) = exceptionSuffix before kind := by
  rw [walk, h]

/-- A tail that a rule covers is the best so far. -/
theorem walk_cons_of_covered (hnone : kindOf? ⟨.exception, label :: before⟩ = none)
    (h : tailKind? kindOf? (label :: before) = some kind) :
    walk kindOf? before best (label :: rest) =
      walk kindOf? (label :: before) ⟨(label :: before).length, kind⟩ rest := by
  rw [walk, hnone]
  simp only [h]

/-- A tail without rules is passed over. -/
theorem walk_cons_of_uncovered (hnone : kindOf? ⟨.exception, label :: before⟩ = none)
    (h : tailKind? kindOf? (label :: before) = none) :
    walk kindOf? before best (label :: rest) = walk kindOf? (label :: before) best rest := by
  rw [walk, hnone]
  simp only [h]

end

/-- **The walk finds what the whole name finds**, if so far it has met no
exception and its best suffix is what the tail reached finds. -/
theorem finds_walk {rest before : List Text} {best : Suffix}
    (hbefore : NoException kindOf? before) (hbest : Finds kindOf? before best) :
    Finds kindOf? (rest.reverse ++ before) (walk kindOf? before best rest) := by
  induction rest generalizing before best with
  | nil => exact hbest
  | cons label rest ih =>
    rw [List.reverse_cons, List.append_assoc]
    show Finds kindOf? (rest.reverse ++ label :: before) _
    cases hexc : kindOf? ⟨.exception, label :: before⟩ with
    | some kind =>
      rw [walk_cons_of_exception hexc]
      exact .of_first_exception hbefore hexc
    | none =>
      have hhere := hbefore.cons hexc
      cases hk : tailKind? kindOf? (label :: before) with
      | some kind =>
        rw [walk_cons_of_covered hexc hk]
        exact ih hhere (.cons_covered hhere hk)
      | none =>
        rw [walk_cons_of_uncovered hexc hk]
        exact ih hhere (.cons_uncovered hbefore hhere hk hbest)

theorem finds_lookup (list : RuleList) (ls : List Text) :
    Finds list.kindOf? ls (list.lookup ls) := by
  have hnone : NoException list.kindOf? [] := by
    intro base kind h
    exact h.ne_nil (List.suffix_nil.mp h.isTail)
  have hstart : Finds list.kindOf? [] .unmanaged := by
    refine .nothing hnone ?_
    intro tail kind h
    exact h.ne_nil (List.suffix_nil.mp h.isTail)
  have h := @finds_walk list.kindOf? ls.reverse [] .unmanaged hnone hstart
  rwa [List.reverse_reverse, List.append_nil] at h

/-! ## §4. One suffix for a name. -/

theorem IsException.eq_of_length {base base' : List Text} {kind kind' : SuffixKind}
    (h : IsException kindOf? ls base kind) (h' : IsException kindOf? ls base' kind')
    (hlen : base.length = base'.length) : base = base' ∧ kind = kind' := by
  obtain rfl := suffix_eq_of_length h.isTail h'.isTail hlen
  have hkind := h.hasKind.symm.trans h'.hasKind
  exact ⟨rfl, Option.some.inj hkind⟩

theorem IsCovered.eq_of_length {tail tail' : List Text} {kind kind' : SuffixKind}
    (h : IsCovered kindOf? ls tail kind) (h' : IsCovered kindOf? ls tail' kind')
    (hlen : tail.length = tail'.length) : tail = tail' ∧ kind = kind' := by
  obtain rfl := suffix_eq_of_length h.isTail h'.isTail hlen
  have hkind := h.hasKind.symm.trans h'.hasKind
  exact ⟨rfl, Option.some.inj hkind⟩

theorem Finds.unique {s s' : Suffix} (h : Finds kindOf? ls s) (h' : Finds kindOf? ls s') :
    s = s' := by
  cases h with
  | exception he shortest =>
    cases h' with
    | exception he' shortest' =>
      have hlen := Nat.le_antisymm (shortest _ _ he') (shortest' _ _ he)
      obtain ⟨rfl, rfl⟩ := he.eq_of_length he' hlen
      rfl
    | covered hno => exact absurd he (hno _ _)
    | nothing hno => exact absurd he (hno _ _)
  | covered hno hc longest =>
    cases h' with
    | exception he' => exact absurd he' (hno _ _)
    | covered _ hc' longest' =>
      have hlen := Nat.le_antisymm (longest' _ _ hc) (longest _ _ hc')
      obtain ⟨rfl, rfl⟩ := hc.eq_of_length hc' hlen
      rfl
    | nothing _ hn => exact absurd hc (hn _ _)
  | nothing hno hn =>
    cases h' with
    | exception he' => exact absurd he' (hno _ _)
    | covered _ hc' => exact absurd hc' (hn _ _)
    | nothing => rfl

/-- **The look-up gives exactly the suffix found.** -/
theorem lookup_eq_iff {list : RuleList} {ls : List Text} {s : Suffix} :
    list.lookup ls = s ↔ Finds list.kindOf? ls s := by
  constructor
  · intro heq
    subst heq
    exact finds_lookup list ls
  · exact (finds_lookup list ls).unique

/-! ## §5. The number of labels found. -/

theorem exceptionSuffix_count (behind : List Text) (kind : SuffixKind) :
    (exceptionSuffix behind kind).count = max 1 behind.length := by
  unfold exceptionSuffix
  cases behind with
  | nil => rfl
  | cons label rest =>
    simp only [List.isEmpty_cons, Bool.false_eq_true, if_false, List.length_cons]
    omega

theorem Finds.count_pos {s : Suffix} (h : Finds kindOf? ls s) : 1 ≤ s.count := by
  cases h with
  | exception =>
    rw [exceptionSuffix_count]
    exact Nat.le_max_left 1 _
  | covered _ hc => exact List.length_pos_iff.mpr hc.ne_nil
  | nothing => exact Nat.le_refl 1

theorem Finds.count_le {s : Suffix} (hls : ls ≠ []) (h : Finds kindOf? ls s) :
    s.count ≤ ls.length := by
  have hpos := List.length_pos_iff.mpr hls
  cases h with
  | @exception base kind he =>
    have hle := he.isTail.length_le
    rw [exceptionSuffix_count, List.length_tail]
    omega
  | covered _ hc => exact hc.isTail.length_le
  | nothing => exact hpos

/-! ## §6. What a suffix found tells of the rules. -/

/-- An exception is met, or the suffix is as long as any tail covered. -/
theorem Finds.bounds {s : Suffix} (h : Finds kindOf? ls s) :
    (∃ base kind, IsException kindOf? ls base kind ∧ base.length ≤ s.count + 1) ∨
      (NoException kindOf? ls ∧
        ∀ tail kind, IsCovered kindOf? ls tail kind → tail.length ≤ s.count) := by
  cases h with
  | @exception base kind he =>
    refine .inl ⟨base, kind, he, ?_⟩
    rw [exceptionSuffix_count, List.length_tail]
    omega
  | covered hno hc longest => exact .inr ⟨hno, longest⟩
  | nothing hno hn => exact .inr ⟨hno, fun tail kind hc => absurd hc (hn tail kind)⟩

/-- Where there is an exception, one that is as short decides. -/
theorem Finds.of_exception {s : Suffix} (h : Finds kindOf? ls s) {base : List Text}
    {kind : SuffixKind} (he : IsException kindOf? ls base kind) :
    ∃ first k, IsException kindOf? ls first k ∧ first.length ≤ base.length ∧
      s = exceptionSuffix first.tail k := by
  cases h with
  | @exception first k hfirst shortest => exact ⟨first, k, hfirst, shortest base kind he, rfl⟩
  | covered hno => exact absurd he (hno base kind)
  | nothing hno => exact absurd he (hno base kind)

/-- A suffix that somebody manages is what an exception leaves, or a tail that
a rule covers. -/
theorem Finds.managed_cases {s : Suffix} (h : Finds kindOf? ls s) (hs : s.kind ≠ .unmanaged) :
    (∃ base, IsException kindOf? ls base s.kind ∧ base.length = s.count + 1 ∧
        ∀ other kind, IsException kindOf? ls other kind → base.length ≤ other.length) ∨
      (NoException kindOf? ls ∧ ∃ tail, IsCovered kindOf? ls tail s.kind ∧ tail.length = s.count ∧
        ∀ other kind, IsCovered kindOf? ls other kind → other.length ≤ tail.length) := by
  cases h with
  | @exception base kind he shortest =>
    obtain ⟨label, behind, rfl⟩ := List.exists_cons_of_ne_nil he.ne_nil
    cases behind with
    | nil => exact absurd rfl hs
    | cons next behind => exact .inl ⟨_, he, rfl, shortest⟩
  | covered hno hc longest => exact .inr ⟨hno, _, hc, rfl, longest⟩
  | nothing => exact absurd rfl hs

end DomainScope.RuleList
