/-
  DomainScope.Proofs.Suffix.Sections
  ──────────────────────────────────
  **THE ICANN RULES OF A LIST.**

  A history that gives each rule one of the two sections makes two lists: the
  one of all its rules, and the one of its ICANN rules.  The second shows the
  rules that the first shows as ICANN rules and no others, so its exceptions
  and the tails it covers are among those of the first.

  Main results
    `kindOf?_insertAll_iff`   a list shows the section that a rule is given
    `isPart_icannEntries`     the ICANN rules of a history are part of all
-/
import DomainScope.Proofs.Suffix.History
import DomainScope.Proofs.Suffix.Lookup

namespace DomainScope.RuleList

/-! ## §1. Histories with two sections. -/

/-- Each rule of a history stands in the ICANN section or in the private one,
and never in both. -/
structure Sectioned (history : List (Text × SuffixKind)) : Prop where
  listed : ∀ entry ∈ history, entry.2 ≠ .unmanaged
  apart : ∀ entry ∈ history, ∀ other ∈ history, ∀ rule, Reads entry.1 rule → Reads other.1 rule →
    entry.2 = other.2

theorem Sectioned.of_forall {history : List (Text × SuffixKind)}
    (listed : ∀ entry ∈ history, entry.2 ≠ .unmanaged)
    (apart : ∀ entry ∈ history, ∀ other ∈ history,
      Rule.read? entry.1 = Rule.read? other.1 → entry.2 = other.2) : Sectioned history :=
  ⟨listed, fun entry hmem other hother _ hreads hreads' =>
    apart entry hmem other hother (hreads.trans hreads'.symm)⟩

/-- The ICANN rules of a history, in order. -/
def icannEntries (history : List (Text × SuffixKind)) : List (Text × SuffixKind) :=
  history.filter fun entry => entry.2 = .icann

/-- The entries of the ICANN section, and no others. -/
theorem mem_icannEntries {history : List (Text × SuffixKind)} {written : Text} {kind : SuffixKind} :
    (written, kind) ∈ icannEntries history ↔ (written, kind) ∈ history ∧ kind = .icann := by
  simp [icannEntries]

theorem Sectioned.icannEntries {history : List (Text × SuffixKind)} (h : Sectioned history) :
    Sectioned (icannEntries history) := by
  have hsub : ∀ entry ∈ RuleList.icannEntries history, entry ∈ history :=
    fun entry hmem => (mem_icannEntries.mp hmem).1
  constructor
  · exact fun entry hmem => h.listed entry (hsub entry hmem)
  · exact fun entry hmem other hother => h.apart entry (hsub entry hmem) other (hsub other hother)

/-- A rule that is written is given some kind last. -/
theorem exists_givenLast {denotes : Text → Rule → Prop} {history : List (Text × SuffixKind)}
    {rule : Rule} (h : ∃ entry ∈ history, denotes entry.1 rule) :
    ∃ kind, GivenLast denotes history rule kind := by
  induction history with
  | nil =>
    obtain ⟨entry, hmem, -⟩ := h
    exact absurd hmem List.not_mem_nil
  | cons first history ih =>
    obtain ⟨written, given⟩ := first
    by_cases htail : ∃ entry ∈ history, denotes entry.1 rule
    · obtain ⟨kind, hkind⟩ := ih htail
      exact ⟨kind, givenLast_cons_iff.mpr (.inl hkind)⟩
    · obtain ⟨entry, hmem, hdenotes⟩ := h
      rcases List.mem_cons.mp hmem with rfl | hmem
      · refine ⟨given, givenLast_cons_iff.mpr (.inr ⟨hdenotes, rfl, ?_⟩)⟩
        exact fun entry hmem hd => htail ⟨entry, hmem, hd⟩
      · exact absurd ⟨entry, hmem, hdenotes⟩ htail

/-- A list shows the kind that a rule is given, if it is given no other. -/
theorem kindOf?_insertAll_iff_of_apart {history : List (Text × SuffixKind)}
    (apart : ∀ entry ∈ history, ∀ other ∈ history, ∀ rule, Reads entry.1 rule → Reads other.1 rule →
      entry.2 = other.2) {rule : Rule} {kind : SuffixKind} :
    (empty.insertAll history).kindOf? rule = some kind ↔
      ∃ written, (written, kind) ∈ history ∧ Reads written rule := by
  rw [kindOf?_insertAll, kindOf?_empty]
  constructor
  · intro hcases
    rcases hcases with ⟨before, written, after, rfl, hreads, -⟩ | ⟨hnone, -⟩
    · exact ⟨written, by simp, hreads⟩
    · exact absurd hnone (by simp)
  · -- The kind given last is the kind given anywhere.
    intro hyp
    obtain ⟨written, hmem, hreads⟩ := hyp
    obtain ⟨last, hlast⟩ := exists_givenLast ⟨(written, kind), hmem, hreads⟩
    obtain ⟨before, other, after, hsplit, hother, -⟩ := id hlast
    have hsame : kind = last :=
      apart (written, kind) hmem (other, last) (by simp [hsplit]) rule hreads hother
    rw [hsame]
    exact .inl hlast

/-- **A list shows the section that a rule is given**, wherever in the history
it is given. -/
theorem kindOf?_insertAll_iff {history : List (Text × SuffixKind)} (h : Sectioned history)
    {rule : Rule} {kind : SuffixKind} :
    (empty.insertAll history).kindOf? rule = some kind ↔
      ∃ written, (written, kind) ∈ history ∧ Reads written rule :=
  kindOf?_insertAll_iff_of_apart h.apart

/-! ## §2. A list and its ICANN rules. -/

/-- What a list shows, and what the list of its ICANN rules shows. -/
structure IsPart (part whole : Rule → Option SuffixKind) : Prop where
  iff : ∀ {rule kind}, part rule = some kind ↔ kind = .icann ∧ whole rule = some .icann
  listed : ∀ rule, whole rule ≠ some .unmanaged

/-- The rules of the ICANN section are a part of the whole list, if no rule stands in
both sections. -/
theorem isPart_icannEntries {history : List (Text × SuffixKind)} (h : Sectioned history) :
    IsPart (empty.insertAll (icannEntries history)).kindOf? (empty.insertAll history).kindOf? := by
  constructor
  · intro rule kind
    rw [kindOf?_insertAll_iff h.icannEntries, kindOf?_insertAll_iff h]
    constructor
    · intro hyp
      obtain ⟨written, hmem, hreads⟩ := hyp
      obtain ⟨hmem, rfl⟩ := mem_icannEntries.mp hmem
      exact ⟨rfl, written, hmem, hreads⟩
    · intro hyp
      obtain ⟨rfl, written, hmem, hreads⟩ := hyp
      exact ⟨written, mem_icannEntries.mpr ⟨hmem, rfl⟩, hreads⟩
  · intro rule hkind
    obtain ⟨written, hmem, -⟩ := (kindOf?_insertAll_iff h).mp hkind
    exact h.listed _ hmem rfl

namespace IsPart

variable {part whole : Rule → Option SuffixKind} {ls : List Text}

theorem isException_iff (h : IsPart part whole) {base : List Text} {kind : SuffixKind} :
    IsException part ls base kind ↔ kind = .icann ∧ IsException whole ls base .icann := by
  constructor
  · intro hyp
    obtain ⟨hne, htail, hkind⟩ := hyp
    obtain ⟨rfl, hwhole⟩ := h.iff.mp hkind
    exact ⟨rfl, hne, htail, hwhole⟩
  · intro hyp
    obtain ⟨rfl, hne, htail, hkind⟩ := hyp
    exact ⟨hne, htail, h.iff.mpr ⟨rfl, hkind⟩⟩

/-- Every exception is one of ICANN or a private one. -/
theorem exception_cases (h : IsPart part whole) {base : List Text} {kind : SuffixKind}
    (he : IsException whole ls base kind) : kind = .icann ∨ kind = .privatelyOwned := by
  cases kind with
  | icann => exact .inl rfl
  | privatelyOwned => exact .inr rfl
  | unmanaged => exact absurd he.hasKind (h.listed _)

/-- What the whole list covers is of one of the two kinds listed. -/
theorem cover_cases (h : IsPart part whole) {tail : List Text} {kind : SuffixKind}
    (hc : IsCovered whole ls tail kind) : kind = .icann ∨ kind = .privatelyOwned := by
  cases kind with
  | icann => exact .inl rfl
  | privatelyOwned => exact .inr rfl
  | unmanaged =>
    have hkind := hc.hasKind
    obtain ⟨label, base, rfl⟩ := List.exists_cons_of_ne_nil hc.ne_nil
    rw [tailKind?_cons, Option.or_eq_some_iff] at hkind
    rcases hkind with hkind | ⟨-, hkind⟩
    · exact absurd hkind (h.listed _)
    · exact absurd hkind (h.listed _)

/-- A tail that the whole list covers for ICANN is covered by the part. -/
theorem isCovered_of_icann (h : IsPart part whole) {tail : List Text}
    (hc : IsCovered whole ls tail .icann) : IsCovered part ls tail .icann := by
  have hkind := hc.hasKind
  obtain ⟨label, base, rfl⟩ := List.exists_cons_of_ne_nil hc.ne_nil
  refine ⟨hc.isTail, ?_⟩
  rw [tailKind?_cons, Option.or_eq_some_iff] at hkind ⊢
  rcases hkind with hkind | ⟨hnone, hkind⟩
  · exact .inl (h.iff.mpr ⟨rfl, hkind⟩)
  · -- Without a wildcard in the whole list there is none in the part.
    refine .inr ⟨?_, h.iff.mpr ⟨rfl, hkind⟩⟩
    rw [Option.eq_none_iff_forall_ne_some]
    intro kind hpart
    obtain ⟨rfl, hwhole⟩ := h.iff.mp hpart
    exact absurd (hnone.symm.trans hwhole) (by simp)

/-- A tail that the part covers is covered by the whole list for ICANN, unless
a private wildcard covers it there. -/
theorem isCovered_whole (h : IsPart part whole) {tail : List Text} {kind : SuffixKind}
    (hc : IsCovered part ls tail kind) :
    kind = .icann ∧
      (whole ⟨.wildcard, tail.tail⟩ ≠ some .privatelyOwned → IsCovered whole ls tail .icann) ∧
        (whole ⟨.wildcard, tail.tail⟩ = some .privatelyOwned →
          IsCovered whole ls tail .privatelyOwned) := by
  have hkind := hc.hasKind
  obtain ⟨label, base, rfl⟩ := List.exists_cons_of_ne_nil hc.ne_nil
  rw [tailKind?_cons, Option.or_eq_some_iff] at hkind
  have hwhole : kind = .icann ∧
      (whole ⟨.wildcard, base⟩ = some .icann ∨ whole ⟨.exact, label :: base⟩ = some .icann) := by
    rcases hkind with hkind | ⟨-, hkind⟩
    · exact ⟨(h.iff.mp hkind).1, .inl (h.iff.mp hkind).2⟩
    · exact ⟨(h.iff.mp hkind).1, .inr (h.iff.mp hkind).2⟩
  obtain ⟨rfl, hrule⟩ := hwhole
  refine ⟨rfl, ?_, ?_⟩
  · -- A wildcard decides before an exact rule; without a private one the ICANN rule counts.
    intro hwild
    refine ⟨hc.isTail, ?_⟩
    rw [tailKind?_cons, Option.or_eq_some_iff]
    cases hk : whole ⟨.wildcard, base⟩ with
    | none => exact .inr ⟨rfl, hrule.resolve_left (by simp [hk])⟩
    | some k =>
      cases k with
      | icann => exact .inl rfl
      | privatelyOwned => exact absurd hk hwild
      | unmanaged => exact absurd hk (h.listed _)
  · intro hwild
    refine ⟨hc.isTail, ?_⟩
    rw [tailKind?_cons, Option.or_eq_some_iff]
    exact .inl hwild

end IsPart

end DomainScope.RuleList
