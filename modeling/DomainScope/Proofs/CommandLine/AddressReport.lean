/-
  DomainScope.Proofs.CommandLine.AddressReport
  ────────────────────────────────────────────
  **THE REPORT ON ADDRESSES AND NETWORKS.**

  An input with a slash is a network or it is rejected, and one without is an
  address or it is rejected.  The report has a row for each input that is not
  rejected, and nothing else.  The input is written into the row of a network as
  it was given; what is read as a network holds no tab and no line feed, so the
  rows can be told apart.  The number of usable addresses is counted without
  taking them, and it is the number that taking them one after the other gives.

  Main results
    `HostRange.yields`             what a loop over the usable addresses takes
    `Network.tells`                what the row of a network tells
    `exists_reportsAs`             every input has its report
    `reportAddresses_tabulates`    the report on any inputs
-/
import DomainScope.Proofs.Address.Cidr

namespace DomainScope

/-! ## §1. A loop over usable addresses. -/

/-- The addresses that a loop takes: it calls for the next one until none is
left. -/
inductive WordRange.Yields : WordRange → List Address → Prop where
  /-- No address is left. -/
  | done {r rest : WordRange} (h : r.call = some (none, rest)) : Yields r []
  /-- One address is taken, and the loop goes on with the rest. -/
  | next {r rest : WordRange} {a : Address} {hosts : List Address}
      (h : r.call = some (some a, rest)) (hrest : Yields rest hosts) : Yields r (a :: hosts)

namespace HostRange

/-- **A loop takes the addresses left.**  The induction is on their number;
`call_eq` is the step. -/
theorem yields {r : HostRange} (h : r.stop < 2 ^ 128) : r.toWords.Yields r.addresses := by
  induction hn : r.remaining generalizing r with
  | zero =>
    have hle : r.stop ≤ r.next := Nat.sub_eq_zero_iff_le.mp hn
    have hcall := call_eq h
    rw [addresses_of_le hle] at hcall ⊢
    exact .done hcall
  | succ n ih =>
    have hlt : r.next < r.stop := by
      unfold remaining at hn
      omega
    have hcall := call_eq h
    have hrest : (r.after 1).remaining = n := by
      rw [remaining_after, hn, Nat.add_sub_cancel]
    rw [addresses_of_lt hlt] at hcall ⊢
    exact .next hcall (ih h hrest)

end HostRange

/-! ## §2. Rows. -/

/-- The network that an input writes, and how the report tells its last address
and the number of its usable ones. -/
structure TellsNetwork (input : Text) (net : Network) (last : Text) (count : Nat) : Prop where
  /-- The mark for a last address that is missing stands for a network of one
  address, whose bits are all shared. -/
  last_of : ∃ a bits, Network.readCidr input = .ok (a, bits) ∧ Network.of a bits = .ok net ∧
    (last = ['-'] ↔ bits = a.family.width)
  last_eq : ∀ b, net.last = some b → last = b.write
  /-- Without usable addresses there are none to count, -/
  count_eq_zero : net.usable = none → count = 0
  /-- and else those that a loop takes are counted. -/
  count_eq_length : ∀ range, net.usable = some range →
    ∃ hosts, range.toWords.Yields hosts ∧ count = hosts.length

/-- How an input is reported on: with a row, or not at all. -/
inductive ReportsAs : Text → Option (List Text) → Prop where
  /-- A network, with the input as it was given. -/
  | network {input : Text} {net : Network} {last : Text} {count : Nat} (hslash : '/' ∈ input)
      (hnet : Network.ofCidr input = .ok net) (h : TellsNetwork input net last count) :
      ReportsAs input (some [input, "first=".toList ++ net.first.write, "last=".toList ++ last,
        "usable=".toList ++ Text.decimal count])
  /-- An address in a reserved range, with the first of them that holds it. -/
  | reserved {input : Text} {a : Address} {range : ReservedRange} (hslash : '/' ∉ input)
      (hread : Address.read? input = some a) (hreserved : Reserved.isReserved a = true)
      (hrange : Reserved.range? a = some range) :
      ReportsAs input (some [a.write, a.family.name.toList, "reserved".toList,
        range.network.write ++ '/' :: Text.decimal range.bits ++ ' ' :: range.description.toList])
  /-- Any other address. -/
  | publicly {input : Text} {a : Address} (hslash : '/' ∉ input)
      (hread : Address.read? input = some a) (hpublic : Reserved.isReserved a = false) :
      ReportsAs input (some [a.write, a.family.name.toList, "public".toList])
  | noNetwork {input : Text} {e : NetworkError} (hslash : '/' ∈ input)
      (hnet : Network.ofCidr input = .error e) : ReportsAs input none
  | noAddress {input : Text} (hslash : '/' ∉ input) (hread : Address.read? input = none) :
      ReportsAs input none

/-- The inputs that are not rejected. -/
def IsAccepted (input : Text) : Prop :=
  ('/' ∈ input ∧ ∃ net, Network.ofCidr input = .ok net) ∨
    ('/' ∉ input ∧ ∃ a, Address.read? input = some a)

theorem ReportsAs.isSome_iff {input : Text} {row? : Option (List Text)} (h : ReportsAs input row?) :
    row?.isSome ↔ IsAccepted input := by
  unfold IsAccepted
  cases h with
  | network hslash hnet => simp [hslash, hnet]
  | reserved hslash hread => simp [hslash, hread]
  | publicly hslash hread => simp [hslash, hread]
  | noNetwork hslash hnet => simp [hslash, hnet]
  | noAddress hslash hread => simp [hslash, hread]

/-! ## §3. Fields. -/

open Report

theorem Address.isField_of_read? {t : Text} {a : Address} (h : read? t = some a) : IsField t :=
  isField_of_forall (isAddressChar_of_read? h) (by decide) (by decide)

theorem Address.isField_write (a : Address) : IsField a.write := isField_of_read? (read?_write a)

theorem Family.isField_name (f : Family) : IsField f.name.toList := by
  cases f <;> decide

theorem isField_of_boundedCount? {greatest n : Nat} {t : Text}
    (h : Text.boundedCount? greatest t = some n) : IsField t :=
  isField_of_forall (Text.isDigit_of_boundedCount? h).1 (by decide) (by decide)

theorem isField_decimal (n : Nat) : IsField (Text.decimal n) :=
  isField_of_boundedCount? (Text.boundedCount?_decimal (Nat.le_refl n))

/-- What is read as a network is a field, though it is never written anew. -/
theorem Network.isField_of_ofCidr {input : Text} {net : Network} (h : ofCidr input = .ok net) :
    IsField input := by
  obtain ⟨a, bits, hread, -⟩ := ofCidr_eq_ok_iff.mp h
  obtain ⟨front, back, rfl, haddress, hcount, -⟩ := readCidr_eq_ok_iff.mp hread
  exact isField_append.mpr ⟨Address.isField_of_read? haddress,
    isField_cons.mpr ⟨by decide, isField_of_boundedCount? hcount⟩⟩

theorem Reserved.isField_description {a : Address} {range : ReservedRange}
    (h : range? a = some range) : IsField range.description.toList := by
  have htable : ∀ f, ∀ range ∈ table f, IsField range.description.toList := by
    intro f
    cases f <;> decide
  exact htable a.family range (List.mem_of_find?_eq_some h)

/-! ## §4. Reports. -/

/-- **What the row of a network tells.** -/
theorem Network.tells {input : Text} {net : Network} (h : ofCidr input = .ok net) :
    TellsNetwork input net ((net.last.map Address.write).getD ['-'])
      ((net.usable.map HostRange.remaining).getD 0) := by
  obtain ⟨a, bits, hread, hof⟩ := ofCidr_eq_ok_iff.mp h
  obtain ⟨-, -, -, -, -, hbits⟩ := readCidr_eq_ok_iff.mp hread
  obtain ⟨net', hok, -, hlast, -, hrange⟩ := of_ok hbits
  cases hok.symm.trans hof
  constructor
  case last_of =>
    refine ⟨a, bits, hread, hof, ?_⟩
    -- The mark reads as no address, so no address is written like it.
    have hmark : (net.last.map Address.write).getD ['-'] = ['-'] ↔ net.last = none := by
      constructor
      · intro heq
        rw [← read?_last net.last, heq]
        decide
      · intro hnone
        rw [hnone]
        rfl
    rw [hmark, hlast, ite_eq_left_iff]
    simp only [reduceCtorEq, imp_false, not_not]
    omega
  case last_eq =>
    intro b hb
    rw [hb]
    rfl
  case count_eq_zero =>
    intro hnone
    rw [hnone]
    rfl
  case count_eq_length =>
    intro r hr
    obtain ⟨hfamily, -, hstop⟩ := hrange r hr
    -- The usable addresses stop at the last one, which fits the word of a loop.
    have hlt : r.stop < 2 ^ 128 := by
      rw [hstop]
      exact Nat.lt_of_lt_of_le (lastValue_lt a.value_lt (Nat.sub_le a.family.width bits))
        (Nat.pow_le_pow_right (by decide) a.family.width_le)
    refine ⟨r.addresses, r.yields hlt, ?_⟩
    rw [hr, HostRange.length_addresses]
    rfl

/-- The line on a network is a row of its fields. -/
theorem networkLine_eq_columns {input : Text} {net : Network} (h : Network.ofCidr input = .ok net) :
    ∃ row, ReportsAs input (some row) ∧ IsRow row ∧ networkLine input net = columns row := by
  refine ⟨_, .network (Network.slash_mem_of_ofCidr h) h (Network.tells h), ⟨by simp, ?_⟩, rfl⟩
  have hlast : IsField ((net.last.map Address.write).getD ['-']) := by
    cases net.last with
    | none => decide
    | some b => exact b.isField_write
  simp only [List.forall_mem_cons, isField_append]
  exact ⟨Network.isField_of_ofCidr h, ⟨by decide, net.first.isField_write⟩, ⟨by decide, hlast⟩,
    ⟨by decide, isField_decimal _⟩, by simp⟩

/-- The line on an address is a row of its fields. -/
theorem addressLine_eq_columns {input : Text} {a : Address} (hslash : '/' ∉ input)
    (hread : Address.read? input = some a) :
    ∃ row, ReportsAs input (some row) ∧ IsRow row ∧ addressLine a = columns row := by
  unfold addressLine
  have hwrite := a.isField_write
  have hname := a.family.isField_name
  cases hrange : Reserved.range? a with
  | none =>
    have hpublic : Reserved.isReserved a = false :=
      Option.isSome_eq_false_iff.mpr (Option.isNone_iff_eq_none.mpr hrange)
    refine ⟨_, .publicly hslash hread hpublic, ⟨by simp, ?_⟩, rfl⟩
    simp only [List.forall_mem_cons]
    exact ⟨hwrite, hname, by decide, by simp⟩
  | some range =>
    have hreserved : Reserved.isReserved a = true := Option.isSome_iff_exists.mpr ⟨range, hrange⟩
    refine ⟨_, .reserved hslash hread hreserved hrange, ⟨by simp, ?_⟩, rfl⟩
    simp only [List.forall_mem_cons, isField_append, isField_cons]
    exact ⟨hwrite, hname, by decide, ⟨⟨range.network.isField_write, by decide, isField_decimal _⟩,
      by decide, Reserved.isField_description hrange⟩, by simp⟩

/-- **Every input has its report**: a row of fields on a line of its own, or
nothing for an input that is rejected. -/
theorem exists_reportsAs (input : Text) :
    ∃ row?, ReportsAs input row? ∧ (∀ row, row? = some row → IsRow row) ∧
      (reportAddress input).out = (row?.map (columns · ++ ['\n'])).getD [] ∧
      ((reportAddress input).allWell = true ↔ row?.isSome) := by
  unfold reportAddress
  by_cases hslash : '/' ∈ input
  · rw [if_pos hslash]
    cases hnet : Network.ofCidr input with
    | error e => exact ⟨none, .noNetwork hslash hnet, by simp, rfl, by simp [complaint]⟩
    | ok net =>
      obtain ⟨row, hreports, hrow, heq⟩ := networkLine_eq_columns hnet
      exact ⟨some row, hreports, by simpa using hrow, congrArg (· ++ ['\n']) heq, by simp [line]⟩
  · rw [if_neg hslash]
    cases hread : Address.read? input with
    | none => exact ⟨none, .noAddress hslash hread, by simp, rfl, by simp [complaint]⟩
    | some a =>
      obtain ⟨row, hreports, hrow, heq⟩ := addressLine_eq_columns hslash hread
      exact ⟨some row, hreports, by simpa using hrow, congrArg (· ++ ['\n']) heq, by simp [line]⟩

/-- **The report on any inputs** is the table of their rows: one for each input
that is not rejected, in order, whose fields depend on that input alone.  All is
well if none is rejected. -/
theorem reportAddresses_tabulates :
    ∃ row? : Text → Option (List Text),
      (∀ input, ReportsAs input (row? input) ∧ ((row? input).isSome ↔ IsAccepted input)) ∧
      ∀ inputs, IsTable (reportAddresses inputs).out (inputs.filterMap row?) ∧
        ((reportAddresses inputs).allWell = true ↔ ∀ input ∈ inputs, IsAccepted input) := by
  choose row? hreports hrow hout hwell using exists_reportsAs
  have haccepted : ∀ input, (row? input).isSome ↔ IsAccepted input :=
    fun input => (hreports input).isSome_iff
  refine ⟨row?, fun input => ⟨hreports input, haccepted input⟩, fun inputs => ⟨?_, ?_⟩⟩
  · exact isTable_concat hout hrow
  · unfold reportAddresses
    rw [allWell_concat, List.forall_mem_map]
    exact forall₂_congr fun input _ => (hwell input).trans (haccepted input)

/-- A network is echoed with the plus sign in front of its number of bits. -/
example : (reportAddresses ["10.0.0.1/+30".toList, "10.0.0.1/33".toList]).out
    = "10.0.0.1/+30\tfirst=10.0.0.0\tlast=10.0.0.3\tusable=2\n".toList := by
  decide

end DomainScope
