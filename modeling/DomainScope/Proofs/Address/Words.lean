/-
  DomainScope.Proofs.Address.Words
  ────────────────────────────────
  **NO STEP ON WORDS MISSES.**

  A network computed on words is the network computed on values: the mask of
  the bits left for hosts is `2 ^ h - 1` for every `h` from 0 to 128, clearing
  it rounds a value down to a multiple of `2 ^ h`, and setting it again adds
  `2 ^ h - 1`.  As no address of a network lies beyond the greatest address of
  its family, no sum and no difference on the way leaves its word.

  Main results
    `following_eq`    the address that follows
    `call_toWords`    one call for the next usable address
    `of_eq`           the network around an address
-/
import DomainScope.Address.Word
import Mathlib.Data.Nat.Bitwise

namespace DomainScope

/-! ## §1. Steps that have a result. -/

section Steps

variable {w m n : Nat}

theorem toNat_ofNat_of_lt (h : n < 2 ^ w) : (BitVec.ofNat w n).toNat = n := by
  rw [BitVec.toNat_ofNat, Nat.mod_eq_of_lt h]

theorem ofNat_inj_of_lt (hm : m < 2 ^ w) (hn : n < 2 ^ w) :
    BitVec.ofNat w m = BitVec.ofNat w n ↔ m = n := by
  rw [← BitVec.toNat_inj, toNat_ofNat_of_lt hm, toNat_ofNat_of_lt hn]

/-- A sum that fits a word is that of the numbers. -/
theorem addWord_ofNat (h : m + n < 2 ^ w) :
    addWord (BitVec.ofNat w m) (BitVec.ofNat w n) = some (BitVec.ofNat w (m + n)) := by
  have hm : m < 2 ^ w := Nat.lt_of_le_of_lt (Nat.le_add_right m n) h
  have hn : n < 2 ^ w := Nat.lt_of_le_of_lt (Nat.le_add_left n m) h
  unfold addWord
  rw [toNat_ofNat_of_lt hm, toNat_ofNat_of_lt hn, if_pos h, BitVec.ofNat_add]

/-- A difference that does not go below zero is that of the numbers. -/
theorem subWord_ofNat (hle : n ≤ m) (h : m < 2 ^ w) :
    subWord (BitVec.ofNat w m) (BitVec.ofNat w n) = some (BitVec.ofNat w (m - n)) := by
  have hn : n < 2 ^ w := Nat.lt_of_le_of_lt hle h
  unfold subWord
  rw [toNat_ofNat_of_lt h, toNat_ofNat_of_lt hn, if_pos hle,
    BitVec.ofNat_sub_ofNat_of_le m n hn hle]

end Steps

/-! ## §2. Addresses. -/

theorem Family.byte_eq (f : Family) : f.byte = BitVec.ofNat 8 f.width := by
  cases f <;> rfl

theorem Family.toNat_byte (f : Family) : f.byte.toNat = f.width := by
  cases f <;> rfl

/-- No address has more than 128 bits. -/
theorem Family.width_le (f : Family) : f.width ≤ 128 := by
  cases f <;> decide

namespace Address

/-- The greatest value of a family has all its bits. -/
theorem greatest_eq (f : Family) : greatest f = 2 ^ f.width - 1 := by
  unfold greatest
  rw [Nat.one_shiftLeft]

/-- A value that fits the family is that of its address. -/
theorem value_ofValue_of_lt {f : Family} {n : Nat} (h : n < 2 ^ f.width) :
    (ofValue f n).value = n := by
  refine value_ofValue ?_
  rw [greatest_eq]
  exact Nat.le_sub_one_of_lt h

/-- Every address of either family fits a word. -/
theorem greatest_lt (f : Family) : greatest f < 2 ^ 128 := by
  have hwidth : 2 ^ f.width ≤ 2 ^ 128 := Nat.pow_le_pow_right (by decide) f.width_le
  have hpos : 0 < 2 ^ f.width := Nat.two_pow_pos f.width
  rw [greatest_eq]
  omega

theorem value_lt (a : Address) : a.value < 2 ^ a.family.width := by
  have hle := a.value_le
  have hpos : 0 < 2 ^ a.family.width := Nat.two_pow_pos _
  rw [greatest_eq] at hle
  omega

theorem word_eq (a : Address) : a.word = BitVec.ofNat 128 a.value := by
  cases a with
  | v4 bits => exact (BitVec.ofNat_toNat 128 bits).symm
  | v6 bits => exact (BitVec.setWidth_eq bits).symm.trans (BitVec.ofNat_toNat 128 bits).symm

/-- On words an address is made from the same value as on numbers. -/
theorem ofWord_byte (f : Family) (n : Nat) :
    ofWord f.byte (BitVec.ofNat 128 n) = ofValue f n := by
  cases f with
  | v4 =>
    show Address.v4 ((BitVec.ofNat 128 n).setWidth 32) = .v4 (BitVec.ofNat 32 n)
    rw [BitVec.setWidth_ofNat_of_le (by decide)]
  | v6 => rfl

theorem greatestWord_byte (f : Family) :
    greatestWord f.byte = some (BitVec.ofNat 128 (greatest f)) := by
  cases f <;> rfl

/-- **The address that follows, on words.** -/
theorem following_eq (a : Address) : a.following = some a.next? := by
  have hle := a.value_le
  have hlt := greatest_lt a.family
  unfold following next?
  simp only [greatestWord_byte, word_eq, Option.bind_eq_bind, Option.bind_some]
  by_cases hlast : a.value = greatest a.family
  · rw [if_pos (by rw [hlast]), if_pos hlast]
  · -- Below the greatest address of either family one more fits the word.
    have hne : BitVec.ofNat 128 a.value ≠ BitVec.ofNat 128 (greatest a.family) := by
      intro heq
      have hvalues := congrArg BitVec.toNat heq
      rw [toNat_ofNat_of_lt (Nat.lt_of_le_of_lt hle hlt), toNat_ofNat_of_lt hlt] at hvalues
      exact hlast hvalues
    have hnext : a.value + 1 < 2 ^ 128 := by omega
    rw [if_neg hne, if_neg hlast]
    show (addWord (BitVec.ofNat 128 a.value) (BitVec.ofNat 128 1)).map _ = _
    rw [addWord_ofNat hnext]
    show some (some (ofWord _ _)) = _
    rw [ofWord_byte]

end Address

/-! ## §3. Usable addresses. -/

namespace HostRange

/-- A range in words. -/
def toWords (r : HostRange) : WordRange :=
  ⟨BitVec.ofNat 128 r.next, BitVec.ofNat 128 r.stop, r.family.byte⟩

variable {r : HostRange}

theorem remaining_toWords (h : r.stop < 2 ^ 128) :
    r.toWords.remaining = some (BitVec.ofNat 128 r.remaining) :=
  subWord_ofNat r.next_le_stop h

/-- **One call for the next address, on words.** -/
theorem call_toWords (h : r.stop < 2 ^ 128) :
    r.toWords.call =
      some (r.pop?.map Prod.fst, ((r.pop?.map Prod.snd).getD r).toWords) := by
  have hnext : r.next < 2 ^ 128 := Nat.lt_of_le_of_lt r.next_le_stop h
  have hle : r.toWords.stop ≤ r.toWords.next ↔ r.stop ≤ r.next := by
    rw [BitVec.le_def]
    show (BitVec.ofNat 128 r.stop).toNat ≤ (BitVec.ofNat 128 r.next).toNat ↔ _
    rw [toNat_ofNat_of_lt h, toNat_ofNat_of_lt hnext]
  unfold WordRange.call pop?
  by_cases hlt : r.next < r.stop
  · have hsum : r.next + 1 < 2 ^ 128 := by omega
    rw [if_neg (by rw [hle]; omega), dif_pos hlt]
    show (addWord (BitVec.ofNat 128 r.next) (BitVec.ofNat 128 1)).map _ = _
    rw [addWord_ofNat hsum]
    show some (some (Address.ofWord r.family.byte (BitVec.ofNat 128 r.next)), _) = _
    rw [Address.ofWord_byte]
    rfl
  · rw [if_pos (hle.mpr (Nat.le_of_not_lt hlt)), dif_neg hlt]
    rfl

/-- **The bounds on the number of addresses left, on words.** -/
theorem sizeHint_toWords (h : r.stop < 2 ^ 128) :
    r.toWords.sizeHint.map (fun bounds => (bounds.1.toNat, bounds.2.map BitVec.toNat))
      = some r.sizeBounds := by
  have hleft : r.remaining < 2 ^ 128 := Nat.lt_of_le_of_lt (Nat.sub_le r.stop r.next) h
  unfold WordRange.sizeHint sizeBounds
  rw [remaining_toWords h, Nat.one_shiftLeft, Option.map_some, toNat_ofNat_of_lt hleft]
  by_cases hword : r.remaining < 2 ^ 64
  · have hcut : ((BitVec.ofNat 128 r.remaining).setWidth 64).toNat = r.remaining := by
      rw [BitVec.toNat_setWidth, toNat_ofNat_of_lt hleft, Nat.mod_eq_of_lt hword]
    rw [if_pos hword, if_pos hword]
    show some (_, some _) = _
    rw [hcut]
  · rw [if_neg hword, if_neg hword]
    rfl

end HostRange

/-! ## §4. Masks. -/

namespace Network

/-- The first value of a network has no bits below those shared. -/
theorem firstValue_eq (value hostBits : Nat) :
    firstValue value hostBits = 2 ^ hostBits * (value / 2 ^ hostBits) := by
  have hdiv := Nat.div_add_mod value (2 ^ hostBits)
  unfold firstValue
  rw [Nat.one_shiftLeft]
  omega

/-- The last one has all of them. -/
theorem lastValue_eq (value hostBits : Nat) :
    lastValue value hostBits = firstValue value hostBits + (2 ^ hostBits - 1) := by
  unfold lastValue
  rw [Nat.one_shiftLeft]

/-- The first value has the bits that the network shares. -/
theorem testBit_firstValue (value hostBits i : Nat) :
    (firstValue value hostBits).testBit i = (decide (hostBits ≤ i) && value.testBit i) := by
  rw [firstValue_eq, Nat.testBit_two_pow_mul, Nat.testBit_div_two_pow]
  by_cases h : hostBits ≤ i
  · rw [Nat.sub_add_cancel h]
  · simp [h]

/-- So the mask turns the first value into the last. -/
theorem firstValue_or (value hostBits : Nat) :
    firstValue value hostBits ||| (2 ^ hostBits - 1) = lastValue value hostBits := by
  have hlt : 2 ^ hostBits - 1 < 2 ^ hostBits := Nat.sub_one_lt (Nat.two_pow_pos hostBits).ne'
  rw [lastValue_eq, firstValue_eq, Nat.two_pow_add_eq_or_of_lt hlt]

/-- A network lies within its family. -/
theorem lastValue_lt {value hostBits width : Nat} (hvalue : value < 2 ^ width)
    (hbits : hostBits ≤ width) : lastValue value hostBits < 2 ^ width := by
  have hdiv : value / 2 ^ hostBits < 2 ^ (width - hostBits) := by
    rw [Nat.div_lt_iff_lt_mul (Nat.two_pow_pos hostBits), ← Nat.pow_add, Nat.sub_add_cancel hbits]
    exact hvalue
  have hpos := Nat.two_pow_pos hostBits
  have hsplit : 2 ^ width = 2 ^ hostBits * 2 ^ (width - hostBits) := by
    rw [← Nat.pow_add, Nat.add_sub_cancel' hbits]
  calc lastValue value hostBits
      < 2 ^ hostBits * (value / 2 ^ hostBits) + 2 ^ hostBits := by
        rw [lastValue_eq, firstValue_eq]
        omega
    _ = 2 ^ hostBits * (value / 2 ^ hostBits + 1) := (Nat.mul_succ _ _).symm
    _ ≤ 2 ^ hostBits * 2 ^ (width - hostBits) := Nat.mul_le_mul_left _ hdiv
    _ = 2 ^ width := hsplit.symm

/-- With a bit left for hosts, a network has more than one address. -/
theorem firstValue_lt (value : Nat) {hostBits : Nat} (h : hostBits ≠ 0) :
    firstValue value hostBits < lastValue value hostBits := by
  have htwo : 2 ≤ 2 ^ hostBits := Nat.le_self_pow h 2
  rw [lastValue_eq]
  omega

end Network

namespace WordNetwork

open Network

/-- The mask of all numbers of bits, none and all included. -/
theorem hostMask_ofNat {hostBits : Nat} (h : hostBits ≤ 128) :
    hostMask (BitVec.ofNat 32 hostBits) = some (BitVec.ofNat 128 (2 ^ hostBits - 1)) := by
  unfold hostMask
  have hspare : subWord 128 (BitVec.ofNat 32 hostBits) = some (BitVec.ofNat 32 (128 - hostBits)) :=
    subWord_ofNat h (by decide)
  rw [hspare]
  show some ((shiftWord (BitVec.allOnes 128) (BitVec.ofNat 32 (128 - hostBits))).getD 0) = _
  unfold shiftWord
  rw [toNat_ofNat_of_lt (by omega)]
  congr 1
  by_cases hzero : hostBits = 0
  · subst hzero
    rfl
  · rw [if_pos (by omega), Option.getD_some]
    refine BitVec.eq_of_getLsbD_eq fun i hi => ?_
    rw [BitVec.getLsbD_ushiftRight, BitVec.getLsbD_allOnes, BitVec.getLsbD_ofNat,
      Nat.testBit_two_pow_sub_one]
    simp only [hi, decide_true, Bool.true_and, decide_eq_decide]
    omega

theorem and_not_mask {value hostBits : Nat} :
    BitVec.ofNat 128 value &&& ~~~BitVec.ofNat 128 (2 ^ hostBits - 1)
      = BitVec.ofNat 128 (firstValue value hostBits) := by
  refine BitVec.eq_of_getLsbD_eq fun i hi => ?_
  rw [BitVec.getLsbD_and, BitVec.getLsbD_not, BitVec.getLsbD_ofNat, BitVec.getLsbD_ofNat,
    BitVec.getLsbD_ofNat, Nat.testBit_two_pow_sub_one, testBit_firstValue]
  simp only [hi, decide_true, Bool.true_and]
  by_cases h : i < hostBits
  · simp [h]
  · simp [h, Nat.le_of_not_lt h]

theorem or_mask {value hostBits : Nat} :
    BitVec.ofNat 128 (firstValue value hostBits) ||| BitVec.ofNat 128 (2 ^ hostBits - 1)
      = BitVec.ofNat 128 (lastValue value hostBits) := by
  rw [← BitVec.ofNat_or, firstValue_or]

end WordNetwork

/-! ## §5. Networks. -/

/-- A network in words. -/
def Network.toWords (net : Network) : WordNetwork :=
  ⟨net.first, net.last, net.usable.map HostRange.toWords⟩

namespace WordNetwork

/-- More leading bits than an address has are refused. -/
theorem of_eq_tooLong {a : Address} {bits : Byte} (h : a.family.width < bits.toNat) :
    of a bits = some (.error (.tooLong bits.toNat a.family.width)) := by
  have hlong : a.family.byte < bits := by
    rw [BitVec.lt_def, Family.toNat_byte]
    exact h
  unfold of
  rw [if_pos hlong, Family.toNat_byte]

/-- The number of bits left for hosts, as a word of 8 bits and as one of 32. -/
theorem hostBits_eq {f : Family} {bits : Byte} (h : bits.toNat ≤ f.width) :
    (subWord f.byte bits).map (BitVec.setWidth 32) =
      some (BitVec.ofNat 32 (f.width - bits.toNat)) := by
  have hwidth := f.width_le
  have hbits : bits = BitVec.ofNat 8 bits.toNat := by
    rw [BitVec.ofNat_toNat, BitVec.setWidth_eq]
  rw [hbits, Family.byte_eq, subWord_ofNat (by omega) (by omega), ← hbits, Option.map_some,
    BitVec.setWidth_ofNat_of_le_of_lt (by decide) (by omega)]

/-- **The network around an address, on words.** -/
theorem of_eq (a : Address) (bits : Byte) :
    of a bits = some ((Network.of a bits.toNat).map Network.toWords) := by
  by_cases hlong : a.family.width < bits.toNat
  · rw [of_eq_tooLong hlong]
    unfold Network.of
    rw [if_pos hlong]
    rfl
  · have hle : a.family.width - bits.toNat ≤ a.family.width := Nat.sub_le _ _
    have hwidth := a.family.width_le
    have hhalf : a.family.width - bits.toNat ≤ 128 := Nat.le_trans hle hwidth
    have hsmall : a.family.width - bits.toNat < 2 ^ 32 := by omega
    have hlast : Network.lastValue a.value (a.family.width - bits.toNat) < 2 ^ 128 :=
      Nat.lt_of_lt_of_le (Network.lastValue_lt a.value_lt hle)
        (Nat.pow_le_pow_right (by decide) hwidth)
    have hshort : ¬ a.family.byte < bits := by
      rw [BitVec.lt_def, Family.toNat_byte]
      exact hlong
    obtain ⟨hostBits, hsub, hcast⟩ := Option.map_eq_some_iff.mp (hostBits_eq (Nat.not_lt.mp hlong))
    unfold of Network.of
    rw [if_neg hshort, if_neg hlong]
    simp only [hsub, Option.bind_eq_bind, Option.bind_some, hcast, hostMask_ofNat hhalf,
      Address.word_eq, and_not_mask, or_mask, Address.ofWord_byte]
    -- No bit is left for hosts, or one, or more; on words, too, these are told apart.
    by_cases hzero : a.family.width - bits.toNat = 0
    · rw [if_pos (by rw [hzero]; rfl), dif_pos hzero]
      rfl
    · have hne_zero : BitVec.ofNat 32 (a.family.width - bits.toNat) ≠ 0 :=
        mt (ofNat_inj_of_lt hsmall (by decide)).mp hzero
      rw [if_neg hne_zero, dif_neg hzero]
      by_cases hone : a.family.width - bits.toNat = 1
      · rw [if_pos (by rw [hone]; rfl), if_pos hone]
        rfl
      · have hne_one : BitVec.ofNat 32 (a.family.width - bits.toNat) ≠ 1 :=
          mt (ofNat_inj_of_lt hsmall (by decide)).mp hone
        have hnext := Nat.lt_of_le_of_lt (Network.firstValue_lt a.value hzero) hlast
        rw [if_neg hne_one, if_neg hone]
        show (addWord (BitVec.ofNat 128 _) (BitVec.ofNat 128 1)).map _ = _
        rw [addWord_ofNat hnext]
        rfl

end WordNetwork

end DomainScope
