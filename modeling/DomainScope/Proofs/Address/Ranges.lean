/-
  DomainScope.Proofs.Address.Ranges
  ─────────────────────────────────
  **A RANGE HOLDS WHAT ITS NETWORK SPANS.**

  A range compares leading bits under a mask moved to the left; a network clears
  the bits left for hosts under a mask moved to the right, and runs on from
  there.  Read bit by bit both say the same: two addresses share their leading
  bits exactly if their networks begin with the same address, and exactly if one
  lies between the first and the last address of the network of the other.

  Main results
    `holdsWord_eq`       the test on words has a result, and it is the same
    `holds_iff`          the test compares first addresses of networks
    `holds_iff_spanned`  a range and its network, and the registries
-/
import DomainScope.Address.Masked
import DomainScope.Proofs.Address.Hosts

namespace DomainScope

/-! ## §1. Networks of one value and of another. -/

namespace Network

variable {m n hostBits : Nat}

/-- Networks begin with the same value if the values share the leading bits. -/
theorem firstValue_eq_iff :
    firstValue m hostBits = firstValue n hostBits ↔
      ∀ i, hostBits ≤ i → m.testBit i = n.testBit i := by
  constructor
  · intro heq i hi
    have hsame := congrArg (fun value => value.testBit i) heq
    simpa [testBit_firstValue, hi] using hsame
  · intro hall
    refine Nat.eq_of_testBit_eq fun i => ?_
    rw [testBit_firstValue, testBit_firstValue]
    by_cases hi : hostBits ≤ i
    · rw [hall i hi]
    · simp [hi]

/-- They do if one value lies in the network of the other. -/
theorem firstValue_eq_iff_between :
    firstValue m hostBits = firstValue n hostBits ↔
      firstValue n hostBits ≤ m ∧ m ≤ lastValue n hostBits := by
  have hpos := Nat.two_pow_pos hostBits
  have hsplit := Nat.div_add_mod m (2 ^ hostBits)
  have hmod := Nat.mod_lt m hpos
  rw [lastValue_eq, firstValue_eq, firstValue_eq]
  constructor
  · intro heq
    omega
  · intro hyp
    obtain ⟨hle, hge⟩ := hyp
    have hquotient : m / 2 ^ hostBits = n / 2 ^ hostBits := by
      refine Nat.div_eq_of_lt_le ?_ ?_
      · rw [Nat.mul_comm]
        exact hle
      · rw [Nat.succ_mul, Nat.mul_comm]
        omega
    rw [hquotient]

end Network

/-! ## §2. Masks of leading bits. -/

section Masks

variable {w bits : Nat}

/-- The mask keeps the bits above those that are left for hosts. -/
theorem getLsbD_leadingMask (h : bits ≤ w) (i : Nat) :
    (leadingMask w bits).getLsbD i = (decide (i < w) && decide (w - bits ≤ i)) := by
  unfold leadingMask
  by_cases hzero : bits = 0
  · subst hzero
    rw [if_pos (.inl rfl), Nat.sub_zero]
    show (0#w).getLsbD i = _
    rw [BitVec.getLsbD_zero]
    by_cases hi : i < w
    · simp [hi]
    · simp [hi]
  · rw [if_neg (by omega), BitVec.getLsbD_shiftLeft, BitVec.getLsbD_allOnes]
    by_cases hi : i < w
    · have hlow : i - (w - bits) < w := by omega
      have hhigh : ¬ i < w - bits ↔ w - bits ≤ i := Nat.not_lt
      rw [decide_eq_true hi, decide_eq_true hlow, Bool.true_and, Bool.true_and, Bool.and_true,
        ← decide_not, decide_eq_decide]
      exact hhigh
    · simp [hi]

theorem getLsbD_and_leadingMask (h : bits ≤ w) (a : BitVec w) {i : Nat} (hi : i < w) :
    (a &&& leadingMask w bits).getLsbD i = (decide (w - bits ≤ i) && a.toNat.testBit i) := by
  rw [BitVec.getLsbD_and, getLsbD_leadingMask h, decide_eq_true hi, Bool.true_and, Bool.and_comm,
    BitVec.testBit_toNat]

/-- **Words agree under the mask if their networks begin with the same value.** -/
theorem and_leadingMask_eq_iff (h : bits ≤ w) {a b : BitVec w} :
    a &&& leadingMask w bits = b &&& leadingMask w bits ↔
      Network.firstValue a.toNat (w - bits) = Network.firstValue b.toNat (w - bits) := by
  rw [Network.firstValue_eq_iff]
  constructor
  · intro heq i hi
    by_cases hw : i < w
    · have hsame := congrArg (fun c => c.getLsbD i) heq
      simp only [getLsbD_and_leadingMask h _ hw, decide_eq_true hi, Bool.true_and] at hsame
      exact hsame
    · -- Beyond its size a word has no bits.
      rw [BitVec.testBit_toNat, BitVec.testBit_toNat, BitVec.getLsbD_of_ge a i (Nat.not_lt.mp hw),
        BitVec.getLsbD_of_ge b i (Nat.not_lt.mp hw)]
  · intro hall
    refine BitVec.eq_of_getLsbD_eq fun i hi => ?_
    rw [getLsbD_and_leadingMask h _ hi, getLsbD_and_leadingMask h _ hi]
    by_cases hle : w - bits ≤ i
    · rw [hall i hle]
    · simp [hle]

/-- The mask on words: nothing is left of it where it moves by the whole size. -/
theorem leadingWord_ofNat (hw : w < 2 ^ 32) (h : bits ≤ w) (hbyte : bits < 2 ^ 8) :
    leadingWord w (BitVec.ofNat 8 bits) = some (leadingMask w bits) := by
  have hcast : (BitVec.ofNat 8 bits).setWidth 32 = BitVec.ofNat 32 bits :=
    BitVec.setWidth_ofNat_of_le_of_lt (by decide) hbyte
  unfold leadingWord
  rw [hcast, subWord_ofNat h hw]
  show some ((raiseWord (BitVec.allOnes w) (BitVec.ofNat 32 (w - bits))).getD 0) = _
  unfold raiseWord leadingMask
  rw [toNat_ofNat_of_lt (by omega)]
  by_cases hzero : bits = 0
  · rw [if_neg (by omega), if_pos (.inl hzero)]
    rfl
  · rw [if_pos (by omega), if_neg (by omega)]
    rfl

end Masks

/-! ## §3. Ranges. -/

theorem Address.ext_iff_value {a b : Address} : a = b ↔ a.family = b.family ∧ a.value = b.value := by
  constructor
  · intro heq
    subst heq
    exact ⟨rfl, rfl⟩
  · intro hyp
    rw [← ofValue_value a, ← ofValue_value b, hyp.1, hyp.2]

namespace ReservedRange

/-- **The test compares the first values of two networks**, for addresses of
one family. -/
theorem holds_iff {range : ReservedRange} (h : range.bits ≤ range.network.family.width)
    (a : Address) :
    range.holds a = true ↔ a.family = range.network.family ∧
      Network.firstValue a.value (range.network.family.width - range.bits)
        = Network.firstValue range.network.value (range.network.family.width - range.bits) := by
  obtain ⟨network, bits, description⟩ := range
  cases network with
  | v4 net =>
    cases a with
    | v4 host =>
      show decide (_ &&& leadingMask 32 bits = _ &&& leadingMask 32 bits) = true ↔ _
      rw [decide_eq_true_iff, @and_leadingMask_eq_iff 32 _ h, eq_comm]
      exact (and_iff_right rfl).symm
    | v6 host => simp [holds, Address.family]
  | v6 net =>
    cases a with
    | v4 host => simp [holds, Address.family]
    | v6 host =>
      show decide (_ &&& leadingMask 128 bits = _ &&& leadingMask 128 bits) = true ↔ _
      rw [decide_eq_true_iff, @and_leadingMask_eq_iff 128 _ h, eq_comm]
      exact (and_iff_right rfl).symm

/-- **The test on words has a result**, and it is that of the test on values. -/
theorem holdsWord_eq {range : ReservedRange} (h : range.bits ≤ range.network.family.width)
    (a : Address) : range.holdsWord a = some (range.holds a) := by
  obtain ⟨network, bits, description⟩ := range
  unfold holdsWord Address.sharesLeading
  cases network with
  | v4 net =>
    have hle : bits ≤ 32 := h
    have hmask := @leadingWord_ofNat 32 bits (by decide) hle (by omega)
    cases a with
    | v4 host =>
      simp only [hmask]
      rfl
    | v6 host => rfl
  | v6 net =>
    have hle : bits ≤ 128 := h
    have hmask := @leadingWord_ofNat 128 bits (by decide) hle (by omega)
    cases a with
    | v4 host => rfl
    | v6 host =>
      simp only [hmask]
      rfl

end ReservedRange

/-! ## §4. Networks. -/

/-- An address lies in a network: it is the one address of it, or between the
first and the last. -/
def WordNetwork.Has (net : WordNetwork) (a : Address) : Prop :=
  match net.last with
  | none => a = net.first
  | some last => a.family = net.first.family ∧ net.first.value ≤ a.value ∧ a.value ≤ last.value

theorem Address.ofValue_inj_of_lt {f : Family} {m n : Nat} (hm : m < 2 ^ f.width)
    (hn : n < 2 ^ f.width) : Address.ofValue f m = Address.ofValue f n ↔ m = n := by
  rw [ext_iff_value, value_ofValue_of_lt hm, value_ofValue_of_lt hn, family_ofValue, family_ofValue]
  exact and_iff_right rfl

/-- **The network around an address**: where it begins, and which addresses lie in
it. -/
theorem WordNetwork.exists_of {network : Address} {bits : Nat} (h : bits ≤ network.family.width) :
    ∃ net, WordNetwork.of network (BitVec.ofNat 8 bits) = some (.ok net) ∧
      net.first = .ofValue network.family
        (Network.firstValue network.value (network.family.width - bits)) ∧
      ∀ a, net.Has a ↔ a.family = network.family ∧
        Network.firstValue a.value (network.family.width - bits)
          = Network.firstValue network.value (network.family.width - bits) := by
  obtain ⟨net, hok, hfirst, hlast, -⟩ := Network.of_ok h
  have hwidth := network.family.width_le
  have hbits : (BitVec.ofNat 8 bits).toNat = bits := toNat_ofNat_of_lt (by omega)
  have hlt := Network.lastValue_lt network.value_lt (Nat.sub_le network.family.width bits)
  have hsum := Network.lastValue_eq network.value (network.family.width - bits)
  have hvalue : net.first.value = Network.firstValue network.value (network.family.width - bits) := by
    rw [hfirst, Address.value_ofValue_of_lt (by omega)]
  have hfamily : net.first.family = network.family := by
    rw [hfirst, Address.family_ofValue]
  refine ⟨net.toWords, ?_, hfirst, ?_⟩
  · rw [WordNetwork.of_eq, hbits, hok]
    rfl
  · intro a
    show (match net.last with
      | none => a = net.first
      | some last => a.family = net.first.family ∧ net.first.value ≤ a.value ∧
          a.value ≤ last.value) ↔ _
    rw [hlast]
    by_cases hzero : network.family.width - bits = 0
    · -- All bits are shared, and each value is the first one of its network.
      rw [if_pos hzero, hzero]
      show a = net.first ↔ _
      rw [Address.ext_iff_value, hfamily, hvalue, hzero, Network.firstValue_eq,
        Network.firstValue_eq]
      simp
    · rw [if_neg hzero]
      show a.family = net.first.family ∧ net.first.value ≤ a.value ∧ a.value ≤ _ ↔ _
      rw [Address.value_ofValue_of_lt hlt, hfamily, hvalue, Network.firstValue_eq_iff_between]

/-! ## §5. Ranges and networks. -/

namespace ReservedRange

/-- **A range and the network of its addresses.** -/
theorem exists_network {range : ReservedRange} (h : range.bits ≤ range.network.family.width)
    (a : Address) :
    ∃ net, WordNetwork.of range.network (BitVec.ofNat 8 range.bits) = some (.ok net) ∧
      (range.holds a = true ↔ a.family = range.network.family ∧
        ∃ other, WordNetwork.of a (BitVec.ofNat 8 range.bits) = some (.ok other) ∧
          other.first = net.first) ∧
      (range.holds a = true ↔ net.Has a) := by
  obtain ⟨net, hnet, hfirst, hhas⟩ := WordNetwork.exists_of h
  refine ⟨net, hnet, ?_, by rw [holds_iff h, hhas]⟩
  rw [holds_iff h, hfirst]
  refine and_congr_right fun hfamily => ?_
  -- In one family the networks of both addresses exist, and their first values fit it.
  have hbits : range.bits ≤ a.family.width := by rw [hfamily]; exact h
  obtain ⟨other, hother, hbegins, -⟩ := WordNetwork.exists_of hbits
  have hlt : ∀ value, value < 2 ^ range.network.family.width →
      Network.firstValue value (range.network.family.width - range.bits)
        < 2 ^ range.network.family.width := fun value hvalue =>
    Nat.lt_of_le_of_lt (Nat.sub_le _ _) hvalue
  have hsame : other.first = .ofValue range.network.family
        (Network.firstValue range.network.value (range.network.family.width - range.bits)) ↔
      Network.firstValue a.value (range.network.family.width - range.bits)
        = Network.firstValue range.network.value (range.network.family.width - range.bits) := by
    rw [hbegins, hfamily]
    exact Address.ofValue_inj_of_lt (hlt _ (hfamily ▸ a.value_lt)) (hlt _ range.network.value_lt)
  rw [hother, ← hsame]
  constructor
  · exact fun heq => ⟨other, rfl, heq⟩
  · intro hyp
    obtain ⟨other', heq, hbegins'⟩ := hyp
    cases heq
    exact hbegins'

/-- The ranges of the registries have no more leading bits than their addresses. -/
theorem bits_le_of_mem_table {f : Family} :
    ∀ range ∈ Reserved.table f, range.bits ≤ range.network.family.width := by
  cases f <;> decide

/-- **A range holds the addresses that its network spans**, and an address is
reserved if it lies in the network of some range of its family. -/
theorem holds_iff_spanned :
    (∀ (range : ReservedRange) (a : Address), range.bits ≤ range.network.family.width →
      range.holdsWord a = some (range.holds a) ∧
      ∃ net, WordNetwork.of range.network (BitVec.ofNat 8 range.bits) = some (.ok net) ∧
        (range.holds a = true ↔ a.family = range.network.family ∧
          ∃ other, WordNetwork.of a (BitVec.ofNat 8 range.bits) = some (.ok other) ∧
            other.first = net.first) ∧
        (range.holds a = true ↔ net.Has a)) ∧
    ∀ a : Address, Reserved.isReserved a = true ↔
      ∃ range ∈ Reserved.table a.family, ∃ net,
        WordNetwork.of range.network (BitVec.ofNat 8 range.bits) = some (.ok net) ∧ net.Has a := by
  refine ⟨fun range a h => ⟨holdsWord_eq h a, exists_network h a⟩, ?_⟩
  intro a
  have hheld : Reserved.isReserved a = true ↔ ∃ range ∈ Reserved.table a.family, range.holds a := by
    unfold Reserved.isReserved Reserved.range?
    rw [List.find?_isSome]
  rw [hheld]
  refine exists_congr fun range => and_congr_right fun hmem => ?_
  obtain ⟨net, hnet, -, hhas⟩ := exists_network (bits_le_of_mem_table range hmem) a
  rw [hnet, hhas]
  constructor
  · exact fun h => ⟨net, rfl, h⟩
  · intro hyp
    obtain ⟨net', heq, h⟩ := hyp
    cases heq
    exact h

/-- Ranges given by addresses with low bits set: eight leading bits, and none. -/
theorem holds_iff_spanned_low_bits :
    (∃ net, WordNetwork.of (.v4 0x0A010203) 8 = some (.ok net) ∧ net.Has (.v4 0x0AC80001)) ∧
      ¬ (∃ net, WordNetwork.of (.v4 0x0A010203) 8 = some (.ok net) ∧ net.Has (.v4 0x0BC80001)) ∧
      (∃ net, WordNetwork.of (.v6 1) 0 = some (.ok net) ∧ net.Has (.v6 (BitVec.allOnes 128))) ∧
      Reserved.isReserved (.v4 0x0AC80001) = true := by
  have hranges := holds_iff_spanned.1
  obtain ⟨-, net, hnet, -, hhas⟩ := hranges (Reserved.range4 10 1 2 3 8 "") (.v4 0x0AC80001)
    (by decide)
  obtain ⟨-, net', hnet', -, hhas'⟩ := hranges (Reserved.range4 10 1 2 3 8 "") (.v4 0x0BC80001)
    (by decide)
  obtain ⟨-, all, hall, -, hhasAll⟩ := hranges (Reserved.range6 [0, 0, 0, 0, 0, 0, 0, 1] 0 "")
    (.v6 (BitVec.allOnes 128)) (by decide)
  refine ⟨⟨net, hnet, hhas.mp (by decide)⟩, ?_, ⟨all, hall, hhasAll.mp (by decide)⟩, ?_⟩
  · intro hyp
    obtain ⟨other, hother, h⟩ := hyp
    cases hother.symm.trans hnet'
    exact absurd (hhas'.mpr h) (by decide)
  · exact (holds_iff_spanned.2 (.v4 0x0AC80001)).mpr
      ⟨Reserved.range4 10 0 0 0 8 "Private-Use", by decide, by
        obtain ⟨-, net, hnet, -, hhas⟩ := hranges (Reserved.range4 10 0 0 0 8 "Private-Use")
          (.v4 0x0AC80001) (by decide)
        exact ⟨net, hnet, hhas.mp (by decide)⟩⟩

end ReservedRange

end DomainScope
