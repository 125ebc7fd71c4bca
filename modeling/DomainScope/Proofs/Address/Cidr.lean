/-
  DomainScope.Proofs.Address.Cidr
  ───────────────────────────────
  **NETWORKS READ BACK.**

  A network is written as an address, a slash and the number of bits that its
  addresses share.  Neither an address nor a number holds a slash, so the text
  is cut where it was joined, and what is read has one slash only.  In the
  report on a network the first and the last address can be read back; the mark
  for a last address that is missing is the text of no address.

  Main results
    `readCidr_eq_ok_iff`   which texts are read, and as what
    `readCidr_writeCidr`   what is written is read back
    `readCidr_inverts`     reading, the network that is read, and the report on it
-/
import DomainScope.Proofs.Address.Hosts
import DomainScope.Proofs.Address.Written
import DomainScope.Proofs.CommandLine.Table

namespace DomainScope

open Text

/-! ## §1. Slashes. -/

theorem Address.slash_not_mem_of_read? {t : Text} {a : Address} (h : read? t = some a) :
    '/' ∉ t :=
  fun hmem => absurd (isAddressChar_of_read? h '/' hmem) (by decide)

theorem slash_not_mem_of_boundedCount? {greatest n : Nat} {t : Text}
    (h : boundedCount? greatest t = some n) : '/' ∉ t :=
  fun hmem => absurd ((isDigit_of_boundedCount? h).1 '/' hmem) (by decide)

/-! ## §2. Reading. -/

namespace Network

/-- **Which texts are read**: an address, a slash and a number of bits that the
address has. -/
theorem readCidr_eq_ok_iff {text : Text} {a : Address} {bits : Nat} :
    readCidr text = .ok (a, bits) ↔
      ∃ front back, text = front ++ '/' :: back ∧ Address.read? front = some a ∧
        boundedCount? 255 back = some bits ∧ bits ≤ a.family.width := by
  constructor
  · intro h
    unfold readCidr at h
    split at h
    next => cases h
    next front back hsplit =>
      split at h
      next a' bits' haddress hcount =>
        split at h
        · cases h
        next hle =>
          cases h
          exact ⟨front, back, (splitFirst_eq_some_iff.mp hsplit).1, haddress, hcount,
            Nat.le_of_not_lt hle⟩
      next => cases h
  · intro hyp
    obtain ⟨front, back, rfl, haddress, hcount, hle⟩ := hyp
    have hsplit : splitFirst '/' (front ++ '/' :: back) = some (front, back) :=
      splitFirst_eq_some_iff.mpr ⟨rfl, Address.slash_not_mem_of_read? haddress⟩
    unfold readCidr
    simp only [hsplit, haddress, hcount]
    rw [if_neg (Nat.not_lt.mpr hle)]

/-- What is read has one slash. -/
theorem count_slash_of_readCidr {text : Text} {a : Address} {bits : Nat}
    (h : readCidr text = .ok (a, bits)) : text.count '/' = 1 := by
  obtain ⟨front, back, rfl, haddress, hcount, -⟩ := readCidr_eq_ok_iff.mp h
  have hfront := List.count_eq_zero.mpr (Address.slash_not_mem_of_read? haddress)
  have hback := List.count_eq_zero.mpr (slash_not_mem_of_boundedCount? hcount)
  rw [List.count_append, List.count_cons_self, hfront, hback]

theorem ofCidr_of_readCidr {text : Text} {a : Address} {bits : Nat}
    (h : readCidr text = .ok (a, bits)) : ofCidr text = of a bits := by
  unfold ofCidr
  rw [h]
  rfl

/-- A text describes a network if it is read, as the network of what is read. -/
theorem ofCidr_eq_ok_iff {text : Text} {net : Network} :
    ofCidr text = .ok net ↔ ∃ a bits, readCidr text = .ok (a, bits) ∧ of a bits = .ok net := by
  constructor
  · intro h
    cases hread : readCidr text with
    | error e =>
      unfold ofCidr at h
      rw [hread] at h
      cases h
    | ok p => exact ⟨p.1, p.2, rfl, (ofCidr_of_readCidr hread).symm.trans h⟩
  · intro hyp
    obtain ⟨a, bits, hread, hnet⟩ := hyp
    exact (ofCidr_of_readCidr hread).trans hnet

/-! ## §3. Writing. -/

/-- A network in writing. -/
def writeCidr (a : Address) (bits : Nat) : Text := a.write ++ '/' :: decimal bits

/-- **What is written is read back.** -/
theorem readCidr_writeCidr {a : Address} {bits : Nat} (h : bits ≤ a.family.width) :
    readCidr (writeCidr a bits) = .ok (a, bits) := by
  have hwidth : a.family.width ≤ 128 := a.family.width_le
  exact readCidr_eq_ok_iff.mpr ⟨a.write, decimal bits, rfl, Address.read?_write a,
    boundedCount?_decimal (by omega), h⟩

/-! ## §4. Reports on a network. -/

/-- The last address as it stands in a report, or the mark for none, reads back. -/
theorem read?_last (last : Option Address) :
    Address.read? ((last.map Address.write).getD ['-']) = last := by
  cases last with
  | none => decide
  | some a => exact Address.read?_write a

theorem slash_mem_of_ofCidr {text : Text} {net : Network} (h : ofCidr text = .ok net) :
    '/' ∈ text := by
  obtain ⟨a, bits, hread, -⟩ := ofCidr_eq_ok_iff.mp h
  obtain ⟨front, back, rfl, -⟩ := readCidr_eq_ok_iff.mp hread
  simp

/-- A text that describes a network is reported on as one. -/
theorem reportAddress_of_network {text : Text} {net : Network} (h : ofCidr text = .ok net) :
    reportAddress text = .line (networkLine text net) := by
  unfold reportAddress
  rw [if_pos (slash_mem_of_ofCidr h), h]

/-- **Networks read back.**  Every address with every number of bits up to its
width is read back from its written form, so what is written describes the
network around the address; in the report on it the first and the last address
can be read back.  Whatever is read has one slash and no more bits than its
address. -/
theorem readCidr_inverts :
    (∀ a bits, bits ≤ a.family.width →
      readCidr (writeCidr a bits) = .ok (a, bits) ∧
      ofCidr (writeCidr a bits) = of a bits ∧
      ∃ net first last count, of a bits = .ok net ∧
        reportAddresses [writeCidr a bits] = .line (Report.columns [writeCidr a bits,
          "first=".toList ++ first, "last=".toList ++ last, "usable=".toList ++ count]) ∧
        Address.read? first = some net.first ∧ Address.read? last = net.last) ∧
    ∀ text a bits, readCidr text = .ok (a, bits) → text.count '/' = 1 ∧ bits ≤ a.family.width := by
  refine ⟨fun a bits h => ?_, fun text a bits h => ?_⟩
  · have hread := readCidr_writeCidr h
    have hnetwork := ofCidr_of_readCidr hread
    obtain ⟨net, hok, -⟩ := of_ok h
    refine ⟨hread, hnetwork, net, net.first.write, (net.last.map Address.write).getD ['-'],
      decimal ((net.usable.map HostRange.remaining).getD 0), hok, ?_,
      Address.read?_write net.first, read?_last net.last⟩
    exact (Report.concat_singleton _).trans (reportAddress_of_network (hnetwork.trans hok))
  · obtain ⟨-, -, -, -, -, hle⟩ := readCidr_eq_ok_iff.mp h
    exact ⟨count_slash_of_readCidr h, hle⟩

/-- Two runs of zeros of one length: the first of them is left out in writing. -/
theorem readCidr_inverts_two_runs :
    writeCidr (.v6 0x20010db8000000000001000000000001) 64
        = "2001:db8::1:0:0:1/64".toList ∧
      readCidr "2001:db8::1:0:0:1/64".toList
        = .ok (.v6 0x20010db8000000000001000000000001, 64) := by
  have hwrite : writeCidr (.v6 0x20010db8000000000001000000000001) 64
      = "2001:db8::1:0:0:1/64".toList := by decide
  exact ⟨hwrite, hwrite ▸ (readCidr_inverts.1 _ 64 (by decide)).1⟩

end Network

end DomainScope
