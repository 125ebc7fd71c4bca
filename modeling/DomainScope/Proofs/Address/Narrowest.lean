/-
  DomainScope.Proofs.Address.Narrowest
  ────────────────────────────────────
  **WHICH OF SEVERAL RANGES IS REPORTED.**

  Two ranges that hold one address are nested: the one with fewer leading bits
  holds all addresses of the other (`covers_of_holds`).  An address is reported
  with the first row of its registry that holds it, so a row that stands below
  one that covers it is never reported, and where no such row holds an address
  the first row that does is the narrowest one.

  Where rows of a registry overlap, the wide one stands first (`WidestFirst`).
  So an address is reported with the widest row that holds it, and that is the
  narrowest as well only if it is the only one.  There are two rows below wider
  ones, both of IPv4: the test network among the multicast addresses and the
  broadcast address.

  Main results
    `bits_le_of_find?`         where the first row is the narrowest
    `find?_ne_of_isShadowed`   rows that are never reported
    `isNarrowest_find?_iff`    both at once, where wide rows stand first
    `range?_isNarrowest_iff`   the registries
-/
import DomainScope.Proofs.Address.Ranges
import Mathlib.Data.List.Nodup

namespace DomainScope

/-- Values whose networks begin alike do so with more bits left for hosts. -/
theorem Network.firstValue_eq_of_le {m n hostBits more : Nat} (hle : hostBits ≤ more)
    (heq : firstValue m hostBits = firstValue n hostBits) :
    firstValue m more = firstValue n more := by
  rw [firstValue_eq_iff] at heq ⊢
  intro i hi
  exact heq i (Nat.le_trans hle hi)

namespace ReservedRange

/-! ## §1. Nested ranges. -/

/-- A range with fewer leading bits that holds all addresses of another one. -/
structure Covers (wider range : ReservedRange) : Prop where
  bits_lt : wider.bits < range.bits
  holds : ∀ a, range.holds a = true → wider.holds a = true

section Nested

variable {wider range : ReservedRange} {a : Address}

/-- A range holds its own network. -/
theorem holds_network (h : range.bits ≤ range.network.family.width) :
    range.holds range.network = true :=
  (holds_iff h range.network).mpr ⟨rfl, rfl⟩

variable (hwider : wider.bits ≤ wider.network.family.width)
  (hrange : range.bits ≤ range.network.family.width) (hle : wider.bits ≤ range.bits)

include hwider hrange hle

/-- Of two ranges that hold one address, the wider one holds the network of the
other. -/
theorem holds_network_of_holds (hw : wider.holds a = true) (hr : range.holds a = true) :
    wider.holds range.network = true := by
  obtain ⟨hfamily, hfirst⟩ := (holds_iff hwider a).mp hw
  obtain ⟨hfamily', hfirst'⟩ := (holds_iff hrange a).mp hr
  have hsame : range.network.family = wider.network.family := hfamily'.symm.trans hfamily
  refine (holds_iff hwider range.network).mpr ⟨hsame, ?_⟩
  rw [← hfirst]
  refine (Network.firstValue_eq_of_le ?_ hfirst').symm
  rw [hsame]
  exact Nat.sub_le_sub_left hle _

/-- A range that holds the network of a narrower one holds what that one holds. -/
theorem holds_of_holds_network (hnet : wider.holds range.network = true)
    (hr : range.holds a = true) : wider.holds a = true := by
  obtain ⟨hfamily, hfirst⟩ := (holds_iff hwider range.network).mp hnet
  obtain ⟨hfamily', hfirst'⟩ := (holds_iff hrange a).mp hr
  refine (holds_iff hwider a).mpr ⟨hfamily'.trans hfamily, ?_⟩
  rw [← hfirst]
  refine Network.firstValue_eq_of_le ?_ hfirst'
  rw [hfamily]
  exact Nat.sub_le_sub_left hle _

end Nested

section Covering

variable {wider range : ReservedRange} {a : Address}
  (hwider : wider.bits ≤ wider.network.family.width)
  (hrange : range.bits ≤ range.network.family.width)

include hwider hrange

/-- It is enough to look at the network. -/
theorem covers_iff :
    Covers wider range ↔ wider.bits < range.bits ∧ wider.holds range.network = true := by
  constructor
  · intro h
    exact ⟨h.bits_lt, h.holds _ (holds_network hrange)⟩
  · intro hyp
    obtain ⟨hlt, hnet⟩ := hyp
    exact ⟨hlt, fun a hr => holds_of_holds_network hwider hrange (Nat.le_of_lt hlt) hnet hr⟩

/-- **Ranges that hold one address are nested.** -/
theorem covers_of_holds (hlt : wider.bits < range.bits) (hw : wider.holds a = true)
    (hr : range.holds a = true) : Covers wider range :=
  (covers_iff hwider hrange).mpr
    ⟨hlt, holds_network_of_holds hwider hrange (Nat.le_of_lt hlt) hw hr⟩

end Covering

/-! ## §2. Rows below others. -/

/-- No row has more leading bits among those that hold an address. -/
def IsNarrowest (rows : List ReservedRange) (a : Address) (range : ReservedRange) : Prop :=
  ∀ other ∈ rows, other.holds a = true → other.bits ≤ range.bits

/-- A row stands below one that covers it. -/
def IsShadowed (rows : List ReservedRange) (range : ReservedRange) : Prop :=
  ∃ wider, [wider, range].Sublist rows ∧ Covers wider range

/-- The rows that stand below one that covers them. -/
def shadowed : List ReservedRange → List ReservedRange
  | [] => []
  | wider :: rows =>
    rows.filter (fun range => wider.bits < range.bits ∧ wider.holds range.network) ++ shadowed rows

/-- Of two rows that hold one address the upper one has fewer leading bits. -/
def WidestFirst (rows : List ReservedRange) : Prop :=
  rows.Pairwise fun upper lower => lower.bits ≤ upper.bits → ¬ lower.holds upper.network

instance (rows : List ReservedRange) : Decidable (WidestFirst rows) :=
  inferInstanceAs (Decidable (rows.Pairwise _))

section Rows

variable {rows : List ReservedRange} {range : ReservedRange} {a : Address}

theorem IsShadowed.mem (h : IsShadowed rows range) : range ∈ rows := by
  obtain ⟨wider, hbelow, -⟩ := h
  exact hbelow.subset (by simp)

theorem mem_shadowed_iff (hrows : ∀ row ∈ rows, row.bits ≤ row.network.family.width) :
    range ∈ shadowed rows ↔ IsShadowed rows range := by
  induction rows with
  | nil => simp [shadowed, IsShadowed]
  | cons row rows ih =>
    have hrow := hrows row List.mem_cons_self
    have hrest : ∀ other ∈ rows, other.bits ≤ other.network.family.width := fun other hmem =>
      hrows other (List.mem_cons_of_mem _ hmem)
    rw [shadowed, List.mem_append, ih hrest, List.mem_filter, decide_eq_true_iff]
    unfold IsShadowed
    simp only [List.cons_sublist_cons', List.singleton_sublist, or_and_right, exists_or]
    rw [or_comm]
    refine or_congr Iff.rfl ?_
    constructor
    · intro hyp
      obtain ⟨hmem, hcovers⟩ := hyp
      exact ⟨row, ⟨rfl, hmem⟩, (covers_iff hrow (hrest range hmem)).mpr hcovers⟩
    · intro hyp
      obtain ⟨wider, ⟨rfl, hmem⟩, hcovers⟩ := hyp
      exact ⟨hmem, (covers_iff hrow (hrest range hmem)).mp hcovers⟩

/-! ## §3. The first row that holds an address. -/

theorem holds_of_find? (h : rows.find? (·.holds a) = some range) : range.holds a = true :=
  (List.find?_eq_some_iff_append.mp h).1

theorem exists_find? (hmem : range ∈ rows) (h : range.holds a = true) :
    ∃ first, rows.find? (·.holds a) = some first :=
  Option.isSome_iff_exists.mp (List.find?_isSome.mpr ⟨range, hmem, h⟩)

/-- Every other row that holds the address stands below the first one. -/
theorem sublist_of_find? (h : rows.find? (·.holds a) = some range) {other : ReservedRange}
    (hmem : other ∈ rows) (hother : other.holds a = true) :
    other = range ∨ [range, other].Sublist rows := by
  obtain ⟨-, above, below, rfl, habove⟩ := List.find?_eq_some_iff_append.mp h
  rcases List.mem_append.mp hmem with hmem | hmem
  · have hnot := habove other hmem
    rw [hother] at hnot
    cases hnot
  · rcases List.mem_cons.mp hmem with rfl | hmem
    · exact .inl rfl
    · have hpair : [range, other].Sublist (range :: below) :=
        (List.singleton_sublist.mpr hmem).cons_cons range
      exact .inr (hpair.trans (List.sublist_append_right above _))

/-- A row is not the first one that holds an address if one above it holds it. -/
theorem find?_ne_of_sublist (hnodup : rows.Nodup) {upper : ReservedRange}
    (hbelow : [upper, range].Sublist rows) (hupper : upper.holds a = true) :
    rows.find? (·.holds a) ≠ some range := by
  induction rows with
  | nil => exact absurd hbelow (by simp)
  | cons row rows ih =>
    obtain ⟨hnew, hnodup⟩ := List.nodup_cons.mp hnodup
    have hmem : range ∈ rows := by
      rcases List.cons_sublist_cons'.mp hbelow with hbelow | ⟨-, hbelow⟩
      · exact hbelow.subset (by simp)
      · exact List.singleton_sublist.mp hbelow
    rw [List.find?_cons]
    split
    · -- The head is reported, and the row is not the head.
      intro heq
      cases heq
      exact hnew hmem
    next hhead =>
      rcases List.cons_sublist_cons'.mp hbelow with hbelow | ⟨rfl, -⟩
      · exact ih hnodup hbelow
      · rw [hupper] at hhead
        cases hhead

variable (hrows : ∀ row ∈ rows, row.bits ≤ row.network.family.width)

include hrows

/-- **The first row is the narrowest**, if no row below a wider one holds the
address. -/
theorem bits_le_of_find? (h : rows.find? (·.holds a) = some range)
    (hnone : ∀ row ∈ shadowed rows, ¬ row.holds a) : IsNarrowest rows a range := by
  intro other hmem hother
  rcases sublist_of_find? h hmem hother with rfl | hbelow
  · exact Nat.le_refl _
  · by_contra hlt
    have hrange := hrows range (List.mem_of_find?_eq_some h)
    have hcovers := covers_of_holds hrange (hrows other hmem) (Nat.lt_of_not_le hlt)
      (holds_of_find? h) hother
    exact hnone other ((mem_shadowed_iff hrows).mpr ⟨range, hbelow, hcovers⟩) hother

omit hrows in
/-- **A row below one that covers it is never the first.** -/
theorem find?_ne_of_isShadowed (hnodup : rows.Nodup) (h : IsShadowed rows range) (a : Address) :
    rows.find? (·.holds a) ≠ some range := by
  intro heq
  obtain ⟨wider, hbelow, hcovers⟩ := h
  exact find?_ne_of_sublist hnodup hbelow (hcovers.holds a (holds_of_find? heq)) heq

/-- Where wide rows stand first, the first row covers all others that hold the
address. -/
theorem WidestFirst.covers (hfirst : WidestFirst rows)
    (h : rows.find? (·.holds a) = some range) {other : ReservedRange} (hmem : other ∈ rows)
    (hother : other.holds a = true) :
    other = range ∨ [range, other].Sublist rows ∧ Covers range other := by
  refine (sublist_of_find? h hmem hother).imp_right fun hbelow => ⟨hbelow, ?_⟩
  have hrange := hrows range (List.mem_of_find?_eq_some h)
  have hholds := holds_of_find? h
  by_cases hlt : range.bits < other.bits
  · exact covers_of_holds hrange (hrows other hmem) hlt hholds hother
  · have hle : other.bits ≤ range.bits := Nat.le_of_not_lt hlt
    have hnet := holds_network_of_holds (hrows other hmem) hrange hle hother hholds
    exact absurd hnet (List.pairwise_iff_forall_sublist.mp hfirst hbelow hle)

variable (hnodup : rows.Nodup) (hfirst : WidestFirst rows)

include hnodup hfirst

/-- **Where wide rows stand first, the first row is the narrowest one exactly if
no row below a wider one holds the address.** -/
theorem isNarrowest_find?_iff (a : Address) :
    (∀ range, rows.find? (·.holds a) = some range → IsNarrowest rows a range) ↔
      ∀ row ∈ shadowed rows, ¬ row.holds a := by
  constructor
  · intro hnarrow row hmem hholds
    have hshadowed := (mem_shadowed_iff hrows).mp hmem
    have hrow := hshadowed.mem
    obtain ⟨range, hrange⟩ := exists_find? hrow hholds
    rcases hfirst.covers hrows hrange hrow hholds with rfl | ⟨-, hcovers⟩
    · exact find?_ne_of_isShadowed hnodup hshadowed a hrange
    · exact absurd hcovers.bits_lt (Nat.not_lt.mpr (hnarrow range hrange row hrow hholds))
  · intro hnone range h
    exact bits_le_of_find? hrows h hnone

/-- Where wide rows stand first, the rows that are never reported are those below
one that covers them. -/
theorem isShadowed_iff_find?_ne (hmem : range ∈ rows) :
    IsShadowed rows range ↔ ∀ a, rows.find? (·.holds a) ≠ some range := by
  constructor
  · exact find?_ne_of_isShadowed hnodup
  · intro hnever
    have hself := holds_network (hrows range hmem)
    obtain ⟨first, hreported⟩ := exists_find? hmem hself
    rcases hfirst.covers hrows hreported hmem hself with rfl | hbelow
    · exact absurd hreported (hnever _)
    · exact ⟨first, hbelow⟩

end Rows

end ReservedRange

/-! ## §4. The registries. -/

namespace Reserved

open ReservedRange

/-- The rows of the registries below wider ones. -/
def lowerRows : Family → List ReservedRange
  | .v4 =>
    [range4 233 252 0 0 24 "Documentation (MCAST-TEST-NET)",
      range4 255 255 255 255 32 "Limited Broadcast"]
  | .v6 => []

theorem shadowed_table (f : Family) : shadowed (table f) = lowerRows f := by
  cases f <;> decide +kernel

theorem widestFirst_table (f : Family) : WidestFirst (table f) := by
  cases f <;> decide +kernel

/-- No two rows have the same network. -/
theorem nodup_table (f : Family) : (table f).Nodup := by
  refine List.Nodup.of_map ReservedRange.network ?_
  cases f <;> decide +kernel

theorem family_of_mem_table {f : Family} : ∀ range ∈ table f, range.network.family = f := by
  cases f <;> decide

/-- A row of a registry is reported if it is the first one in its registry. -/
theorem range?_eq_some_iff {f : Family} {range : ReservedRange} (hmem : range ∈ table f)
    (a : Address) : range? a = some range ↔ (table f).find? (·.holds a) = some range := by
  have hfits := bits_le_of_mem_table range hmem
  have hfamily : range.holds a = true → a.family = f := fun h =>
    ((holds_iff hfits a).mp h).1.trans (family_of_mem_table range hmem)
  unfold range?
  constructor
  · intro h
    rwa [hfamily (holds_of_find? h)] at h
  · intro h
    rwa [hfamily (holds_of_find? h)]

/-- **An address is reported with its narrowest range** exactly if it lies in no
row below a wider one, and these are the rows of its registry that are never
reported. -/
theorem range?_isNarrowest_iff (f : Family) :
    (∀ a, a.family = f →
      ((∀ range, range? a = some range → IsNarrowest (table f) a range) ↔
        ∀ row ∈ lowerRows f, ¬ row.holds a)) ∧
    ∀ range ∈ table f,
      (IsShadowed (table f) range ↔ range ∈ lowerRows f) ∧
      (range ∈ lowerRows f ↔ ∀ a, range? a ≠ some range) := by
  have hrows : ∀ row ∈ table f, row.bits ≤ row.network.family.width := bits_le_of_mem_table
  constructor
  · rintro a rfl
    rw [← shadowed_table]
    exact isNarrowest_find?_iff hrows (nodup_table _) (widestFirst_table _) a
  · intro range hmem
    have hlower : IsShadowed (table f) range ↔ range ∈ lowerRows f := by
      rw [← shadowed_table, mem_shadowed_iff hrows]
    refine ⟨hlower, ?_⟩
    rw [← hlower, isShadowed_iff_find?_ne hrows (nodup_table f) (widestFirst_table f) hmem]
    exact forall_congr' fun a => not_congr (range?_eq_some_iff hmem a).symm

/-- A private address has its narrowest range, and no address is reported with
the row of the broadcast address. -/
theorem range?_isNarrowest_private :
    range? (.v4 0xC0A8000A) = some (range4 192 168 0 0 16 "Private-Use") ∧
      IsNarrowest table4 (.v4 0xC0A8000A) (range4 192 168 0 0 16 "Private-Use") ∧
      range4 255 255 255 255 32 "Limited Broadcast" ∈ table4 ∧
      ∀ a, range? a ≠ some (range4 255 255 255 255 32 "Limited Broadcast") := by
  obtain ⟨hnarrow, hrows⟩ := range?_isNarrowest_iff .v4
  have hrange : range? (.v4 0xC0A8000A) = some (range4 192 168 0 0 16 "Private-Use") := by
    decide +kernel
  have hapart : ∀ row ∈ lowerRows .v4, ¬ row.holds (.v4 0xC0A8000A) := by decide +kernel
  have hmem : range4 255 255 255 255 32 "Limited Broadcast" ∈ table4 := by decide +kernel
  have hnever := (hrows _ hmem).2.mp (by decide +kernel)
  exact ⟨hrange, (hnarrow (.v4 0xC0A8000A) rfl).mpr hapart _ hrange, hmem, hnever⟩

/-- The broadcast address and an address of the test network for multicast are
reported with the wide rows above their own, which no address is reported with. -/
theorem not_isNarrowest_broadcast :
    (range? (.v4 0xFFFFFFFF) = some (range4 240 0 0 0 4 "Reserved") ∧
      ¬ IsNarrowest table4 (.v4 0xFFFFFFFF) (range4 240 0 0 0 4 "Reserved") ∧
      IsShadowed table4 (range4 255 255 255 255 32 "Limited Broadcast")) ∧
    range? (.v4 0xE9FC0007) = some (range4 224 0 0 0 4 "Multicast") ∧
      ¬ IsNarrowest table4 (.v4 0xE9FC0007) (range4 224 0 0 0 4 "Multicast") ∧
      IsShadowed table4 (range4 233 252 0 0 24 "Documentation (MCAST-TEST-NET)") := by
  have hlower : ∀ row ∈ lowerRows .v4, IsShadowed table4 row := by
    intro row hmem
    rw [← shadowed_table] at hmem
    exact (mem_shadowed_iff bits_le_of_mem_table).mp hmem
  unfold IsNarrowest
  exact ⟨⟨by decide +kernel, by decide +kernel, hlower _ (by decide +kernel)⟩,
    by decide +kernel, by decide +kernel, hlower _ (by decide +kernel)⟩

end Reserved

end DomainScope
