/-
  DomainScope.Proofs.Address.Hosts
  ────────────────────────────────
  **EVERY HOST ONCE, IN ORDER, WITHOUT OVERFLOW.**

  A network with `h` bits left for hosts runs over `2 ^ h` addresses.  A call
  for the next usable address takes the first one off those left; so any number
  of calls takes that many off, and from then on there is none.  The first
  address, the usable ones and the last one follow each other.

  Main results
    `calls_eq`    what a number of calls answers and leaves
    `of_spans`    the network around an address
-/
import DomainScope.Proofs.Address.Words
import Mathlib.Data.List.Chain

namespace DomainScope

/-! ## §1. Calls. -/

namespace HostRange

variable {r : HostRange}

/-- The addresses left, in order. -/
def addresses (r : HostRange) : List Address :=
  (List.range' r.next r.remaining).map (Address.ofValue r.family)

/-- A range after a number of calls. -/
def after (count : Nat) (r : HostRange) : HostRange :=
  { r with next := min (r.next + count) r.stop, next_le_stop := Nat.min_le_right _ _ }

theorem length_addresses : r.addresses.length = r.remaining := by
  unfold addresses
  rw [List.length_map, List.length_range']

theorem remaining_after (count : Nat) : (r.after count).remaining = r.remaining - count := by
  show r.stop - min (r.next + count) r.stop = r.stop - r.next - count
  omega

theorem after_zero : r.after 0 = r := by
  unfold after
  simp only [Nat.add_zero, Nat.min_eq_left r.next_le_stop]

theorem after_after (m n : Nat) : (r.after m).after n = r.after (m + n) := by
  unfold after
  simp only [HostRange.mk.injEq, true_and, and_true]
  omega

theorem pop?_of_lt (h : r.next < r.stop) :
    r.pop? = some (.ofValue r.family r.next, r.after 1) := by
  have hafter : r.after 1 = { r with next := r.next + 1, next_le_stop := h } := by
    unfold after
    simp only [Nat.min_eq_left h]
  unfold pop?
  rw [dif_pos h, hafter]

theorem addresses_of_lt (h : r.next < r.stop) :
    r.addresses = .ofValue r.family r.next :: (r.after 1).addresses := by
  have hsucc : r.remaining = (r.after 1).remaining + 1 := by
    rw [remaining_after]
    unfold remaining
    omega
  have hnext : (r.after 1).next = r.next + 1 := Nat.min_eq_left h
  unfold addresses
  rw [hsucc, List.range'_succ, hnext]
  rfl

theorem addresses_of_le (h : r.stop ≤ r.next) : r.addresses = [] := by
  have hnone : r.remaining = 0 := Nat.sub_eq_zero_of_le h
  unfold addresses
  rw [hnone]
  rfl

theorem after_of_le (h : r.stop ≤ r.next) (count : Nat) : r.after count = r := by
  have hle := r.next_le_stop
  have hnext : min (r.next + count) r.stop = r.next := by omega
  unfold after
  simp only [hnext]

/-- **One call takes the first address left, if any is.** -/
theorem call_eq (h : r.stop < 2 ^ 128) :
    r.toWords.call = some (r.addresses.head?, (r.after 1).toWords) := by
  rw [call_toWords h]
  by_cases hlt : r.next < r.stop
  · rw [pop?_of_lt hlt, addresses_of_lt hlt]
    rfl
  · have hle := Nat.le_of_not_lt hlt
    have hpop : r.pop? = none := dif_neg hlt
    rw [hpop, addresses_of_le hle, after_of_le hle]
    rfl

/-- **A number of calls takes that many addresses**, and from then on there is
none.  The induction is on the number of calls; `call_eq` is the step. -/
theorem calls_eq (h : r.stop < 2 ^ 128) (count : Nat) :
    WordRange.calls count r.toWords =
      some ((r.addresses.take count).map some ++ List.replicate (count - r.remaining) none,
        (r.after count).toWords) := by
  induction count generalizing r with
  | zero =>
    rw [after_zero, Nat.zero_sub]
    rfl
  | succ count ih =>
    have hrest := @ih (r.after 1) h
    unfold WordRange.calls
    rw [call_eq h]
    simp only [Option.bind_eq_bind, Option.bind_some, hrest, after_after, Nat.add_comm 1 count,
      ← length_addresses]
    by_cases hlt : r.next < r.stop
    · rw [addresses_of_lt hlt, List.length_cons, Nat.add_sub_add_right]
      rfl
    · have hle := Nat.le_of_not_lt hlt
      simp [addresses_of_le hle, after_of_le hle, List.replicate_succ]

end HostRange

/-! ## §2. Neighbours. -/

namespace Address

theorem following_ofValue {f : Family} {n : Nat} (h : n < greatest f) :
    (ofValue f n).following = some (some (ofValue f (n + 1))) := by
  rw [following_eq]
  unfold next?
  rw [family_ofValue, value_ofValue (Nat.le_of_lt h), if_neg (Nat.ne_of_lt h)]

/-- Values in a row are addresses that follow each other. -/
theorem isChain_following {f : Family} {start count : Nat} (h : start + count ≤ 2 ^ f.width) :
    List.IsChain (fun a b => following a = some (some b))
      ((List.range' start count).map (ofValue f)) := by
  rw [List.isChain_iff_getElem]
  intro i hi
  rw [List.length_map, List.length_range'] at hi
  have hlt : start + i < greatest f := by
    rw [greatest_eq]
    omega
  rw [List.getElem_map, List.getElem_map, List.getElem_range', List.getElem_range', Nat.one_mul,
    Nat.one_mul, following_ofValue hlt, Nat.add_assoc]

end Address

/-! ## §3. Networks. -/

/-- Calls for the addresses strictly between two addresses: what they answer,
and how many addresses they say are left. -/
structure Enumerates (range : WordRange) (first : Address) (hosts : List Address) (last : Address) :
    Prop where
  /-- The addresses are of one family, -/
  family : ∀ host ∈ hosts, host.family = first.family
  /-- stand in ascending order, -/
  ascending : hosts.map Address.value = List.range' (first.value + 1) hosts.length
  /-- and each follows the one before, with nothing in between. -/
  neighbours : List.IsChain (fun a b => Address.following a = some (some b))
    (first :: (hosts ++ [last]))
  /-- They are answered once each, and none for ever after. -/
  calls : ∀ count, ∃ rest,
    range.calls count =
      some ((hosts.take count).map some ++ List.replicate (count - hosts.length) none, rest) ∧
    rest.remaining.map BitVec.toNat = some (hosts.length - count) ∧
    rest.sizeHint.map (fun bounds => (bounds.1.toNat, bounds.2.map BitVec.toNat)) =
      some (if hosts.length - count < 2 ^ 64
        then (hosts.length - count, some (hosts.length - count)) else (2 ^ 64 - 1, none))

/-- The network of `2 ^ hostBits` addresses around an address. -/
structure Spans (a : Address) (hostBits : Nat) (net : WordNetwork) : Prop where
  /-- The first address has the low bits cleared. -/
  first_family : net.first.family = a.family
  first_bits : ∀ i, net.first.value.testBit i = (decide (hostBits ≤ i) && a.value.testBit i)
  /-- One address alone has no last one. -/
  last_of_zero : hostBits = 0 → net.last = none
  last_of_pos : 1 ≤ hostBits → ∃ last, net.last = some last ∧ last.family = a.family ∧
    last.value = net.first.value + 2 ^ hostBits - 1
  /-- Of two addresses none is usable. -/
  usable_eq_none : net.usable = none ↔ hostBits ≤ 1
  usable_eq_some : 2 ≤ hostBits → ∃ range last hosts, net.usable = some range ∧
    net.last = some last ∧ hosts.length = 2 ^ hostBits - 2 ∧
    Enumerates range net.first hosts last

namespace HostRange

variable {r : HostRange}

/-- The addresses left stand in ascending order. -/
theorem map_value_addresses (h : r.stop < 2 ^ r.family.width) :
    r.addresses.map Address.value = List.range' r.next r.remaining := by
  unfold addresses
  rw [List.map_map]
  refine (List.map_congr_left ?_).trans (List.map_id _)
  intro n hmem
  have hlt : n < r.next + r.remaining := (List.mem_range'_1.mp hmem).2
  have hle := r.next_le_stop
  unfold remaining at hlt
  exact Address.value_ofValue_of_lt (by omega)

/-- The addresses left, with the one in front of them and the one behind, follow
each other. -/
theorem isChain_addresses {front : Nat} (hnext : r.next = front + 1)
    (hstop : r.stop < 2 ^ r.family.width) :
    List.IsChain (fun a b => Address.following a = some (some b))
      (Address.ofValue r.family front :: (r.addresses ++ [Address.ofValue r.family r.stop])) := by
  have hle := r.next_le_stop
  -- The two ends with the addresses between them are one row of values.
  have hrow : List.range' front (r.remaining + 2)
      = front :: (List.range' r.next r.remaining ++ [r.stop]) := by
    have hend : front + 1 + r.remaining = r.stop := by
      unfold remaining
      omega
    rw [List.range'_succ, List.range'_1_concat, hend, hnext]
  have hchain := @Address.isChain_following r.family front (r.remaining + 2) (by
    unfold remaining
    omega)
  rw [hrow, List.map_cons, List.map_append] at hchain
  exact hchain

/-- **A range of values enumerates the addresses between the value in front of
it and its stop.** -/
theorem enumerates {front : Nat} (hnext : r.next = front + 1)
    (hstop : r.stop < 2 ^ r.family.width) :
    Enumerates r.toWords (.ofValue r.family front) r.addresses (.ofValue r.family r.stop) := by
  have hle := r.next_le_stop
  have hword : r.stop < 2 ^ 128 :=
    Nat.lt_of_lt_of_le hstop (Nat.pow_le_pow_right (by decide) r.family.width_le)
  refine ⟨?_, ?_, isChain_addresses hnext hstop, ?_⟩
  · intro host hmem
    obtain ⟨n, -, rfl⟩ := List.mem_map.mp hmem
    rw [Address.family_ofValue, Address.family_ofValue]
  · have hfront : (Address.ofValue r.family front).value = front :=
      Address.value_ofValue_of_lt (by omega)
    rw [map_value_addresses hstop, hfront, length_addresses, hnext]
  · intro count
    have hrest : (r.after count).stop < 2 ^ 128 := hword
    have hless : (r.after count).remaining < 2 ^ 128 :=
      Nat.lt_of_le_of_lt (Nat.sub_le _ _) hword
    rw [length_addresses, ← remaining_after]
    refine ⟨(r.after count).toWords, calls_eq hword count, ?_, ?_⟩
    · rw [remaining_toWords hrest, Option.map_some, toNat_ofNat_of_lt hless]
    · rw [sizeHint_toWords hrest]
      unfold sizeBounds
      rw [Nat.one_shiftLeft]

end HostRange

/-- The networks of an address: one address, two, and more. -/
theorem Network.of_ok {a : Address} {bits : Nat} (h : bits ≤ a.family.width) :
    ∃ net, Network.of a bits = .ok net ∧
      net.first = .ofValue a.family (firstValue a.value (a.family.width - bits)) ∧
      net.last = (if a.family.width - bits = 0 then none
        else some (.ofValue a.family (lastValue a.value (a.family.width - bits)))) ∧
      (net.usable = none ↔ a.family.width - bits ≤ 1) ∧
      ∀ r, net.usable = some r → r.family = a.family ∧
        r.next = firstValue a.value (a.family.width - bits) + 1 ∧
        r.stop = lastValue a.value (a.family.width - bits) := by
  unfold Network.of
  rw [if_neg (Nat.not_lt.mpr h)]
  by_cases hzero : a.family.width - bits = 0
  · rw [dif_pos hzero]
    exact ⟨_, rfl, rfl, (if_pos hzero).symm, by simp [hzero], by simp⟩
  · rw [dif_neg hzero]
    by_cases hone : a.family.width - bits = 1
    · rw [if_pos hone]
      exact ⟨_, rfl, rfl, (if_neg hzero).symm, by simp [hone], by simp⟩
    · rw [if_neg hone]
      refine ⟨_, rfl, rfl, (if_neg hzero).symm, ?_, ?_⟩
      · simp
        omega
      · intro r hr
        cases hr
        exact ⟨rfl, rfl, rfl⟩

/-- For every number of leading bits up to the width of an address, the network
around it spans the addresses that share them. -/
theorem Network.exists_spans {a : Address} {bits : Nat} (h : bits ≤ a.family.width) :
    ∃ net, Network.of a bits = .ok net ∧ Spans a (a.family.width - bits) net.toWords := by
  obtain ⟨net, hok, hfirst, hlast, hnone, hrange⟩ := Network.of_ok h
  refine ⟨net, hok, ?_⟩
  have hlt := lastValue_lt a.value_lt (Nat.sub_le a.family.width bits)
  have hsize := Nat.two_pow_pos (a.family.width - bits)
  have hsum := lastValue_eq a.value (a.family.width - bits)
  have hvalue : net.first.value = firstValue a.value (a.family.width - bits) := by
    rw [hfirst, Address.value_ofValue_of_lt (by omega)]
  -- What `Spans` asks for is read off the values of the network, one by one.
  constructor
  case first_family =>
    show net.first.family = _
    rw [hfirst, Address.family_ofValue]
  case first_bits =>
    intro i
    show net.first.value.testBit i = _
    rw [hvalue, testBit_firstValue]
  case last_of_zero =>
    intro hzero
    show net.last = none
    rw [hlast, if_pos hzero]
  case last_of_pos =>
    intro hpos
    refine ⟨_, hlast.trans (if_neg (by omega)), Address.family_ofValue _ _, ?_⟩
    show _ = net.first.value + _ - 1
    rw [Address.value_ofValue_of_lt hlt, hvalue]
    omega
  case usable_eq_none =>
    show net.usable.map HostRange.toWords = none ↔ _
    rw [Option.map_eq_none_iff, hnone]
  case usable_eq_some =>
    intro htwo
    obtain ⟨r, hr⟩ := Option.ne_none_iff_exists'.mp (mt hnone.mp (by omega))
    obtain ⟨hfamily, hnext, hstop⟩ := hrange r hr
    have henumerates := HostRange.enumerates hnext (by rw [hstop, hfamily]; exact hlt)
    rw [hfamily, hstop, ← hfirst] at henumerates
    refine ⟨_, _, _, congrArg (Option.map HostRange.toWords) hr, hlast.trans (if_neg (by omega)),
      ?_, henumerates⟩
    rw [HostRange.length_addresses]
    unfold HostRange.remaining
    omega

/-- **The network around an address.**  On words it is what it is on values; for
every number of leading bits up to the width of the address it spans the
addresses that share them, and beyond that it is refused. -/
theorem WordNetwork.of_spans (a : Address) (bits : Byte) :
    WordNetwork.of a bits = some ((Network.of a bits.toNat).map Network.toWords) ∧
      (bits.toNat ≤ a.family.width → ∃ net, WordNetwork.of a bits = some (.ok net) ∧
        Spans a (a.family.width - bits.toNat) net) ∧
      (a.family.width < bits.toNat →
        WordNetwork.of a bits = some (.error (.tooLong bits.toNat a.family.width))) := by
  refine ⟨WordNetwork.of_eq a bits, ?_, WordNetwork.of_eq_tooLong⟩
  intro hbits
  obtain ⟨net, hok, hspans⟩ := Network.exists_spans hbits
  refine ⟨net.toWords, ?_, hspans⟩
  rw [WordNetwork.of_eq, hok]
  rfl

/-- Eight addresses around `192.168.1.77`, six of them for hosts, and one leading
bit too many. -/
theorem WordNetwork.of_eight_addresses :
    WordNetwork.of (.v4 0xC0A8014D) 29 = some (.ok ⟨.v4 0xC0A80148, some (.v4 0xC0A8014F),
        some ⟨0xC0A80149, 0xC0A8014F, 32⟩⟩) ∧
      Spans (.v4 0xC0A8014D) 3 ⟨.v4 0xC0A80148, some (.v4 0xC0A8014F),
        some ⟨0xC0A80149, 0xC0A8014F, 32⟩⟩ ∧
      WordNetwork.of (.v4 0xC0A8014D) 33 = some (.error (.tooLong 33 32)) := by
  have hof : WordNetwork.of (.v4 0xC0A8014D) 29 = some (.ok ⟨.v4 0xC0A80148,
      some (.v4 0xC0A8014F), some ⟨0xC0A80149, 0xC0A8014F, 32⟩⟩) := by decide
  obtain ⟨net, hnet, hspans⟩ := (WordNetwork.of_spans (.v4 0xC0A8014D) 29).2.1 (by decide)
  cases hof.symm.trans hnet
  exact ⟨hof, hspans, (WordNetwork.of_spans (.v4 0xC0A8014D) 33).2.2 (by decide)⟩

end DomainScope
