/-
  DomainScope.Proofs.Validator.Email
  ──────────────────────────────────
  **WHICH TEXTS ARE E-MAIL ADDRESSES.**

  What a plain address is, said without the order in which it is checked: 254
  bytes at most, one at sign, in front of it atoms with single dots between
  them, behind it a name of two labels or more.  The check cuts at the last at
  sign; there is no other one, as neither atoms nor names hold any.

  Main results
    `isAtomChar_iff`   the characters of atoms
    `isDotAtom_iff`    the check of local parts
    `isEmail_iff`      the check accepts plain addresses and nothing else
-/
import DomainScope.Proofs.Name.Accepted
import DomainScope.Validator.Email

namespace DomainScope.Validator

/-! ## §1. What an address is. -/

/-- The text of atoms: letters and digits of ASCII, and nineteen marks. -/
def IsAtext (c : Char) : Prop := c.isAlphanum ∨ c ∈ "!#$%&\x27*+-/=?^_\x60\x7b|\x7d~".toList

instance (c : Char) : Decidable (IsAtext c) := inferInstanceAs (Decidable (_ ∨ _))

/-- A run of such characters, not empty. -/
structure IsAtom (atom : Text) : Prop where
  ne_nil : atom ≠ []
  atext : ∀ c ∈ atom, IsAtext c

/-- What stands in front of the at sign: atoms joined by single dots, 1 to 64
bytes in all. -/
structure IsLocalPart (t : Text) : Prop where
  length_pos : 1 ≤ Text.byteLength t
  length_le : Text.byteLength t ≤ 64
  joined : ∃ atoms, atoms ≠ [] ∧ t = ['.'].intercalate atoms ∧ ∀ atom ∈ atoms, IsAtom atom

/-- What stands behind it: a name, whether it ends with a dot or not, that has
two labels at least. -/
structure IsMailDomain (t : Text) : Prop where
  valid : Name.validate {} t = .ok ()
  two_labels : 2 ≤ (Name.labels (Name.dropFinalDot t)).length

/-- A plain address. -/
structure IsAddress (t : Text) : Prop where
  length_le : Text.byteLength t ≤ 254
  one_at : t.count '@' = 1
  parts : ∃ localPart domain, t = localPart ++ '@' :: domain ∧ IsLocalPart localPart ∧
    IsMailDomain domain

/-! ## §2. Local parts. -/

theorem isAtomChar_iff {c : Char} : isAtomChar c = true ↔ IsAtext c := by
  have hmarks : atomMarks = "!#$%&\x27*+-/=?^_\x60\x7b|\x7d~".toList := rfl
  unfold isAtomChar IsAtext
  rw [Bool.or_eq_true, List.elem_iff, hmarks]

/-- What cannot stand in atoms stands in none. -/
theorem IsAtom.not_mem {atom : Text} (h : IsAtom atom) {c : Char} (hc : ¬ IsAtext c) :
    c ∉ atom := by
  intro hmem
  exact hc (h.atext c hmem)

theorem isAtom_iff {atom : Text} :
    IsAtom atom ↔ (!atom.isEmpty && atom.all isAtomChar) = true := by
  rw [Bool.and_eq_true, List.all_eq_true, Bool.not_eq_true', List.isEmpty_eq_false_iff]
  constructor
  · intro h
    exact ⟨h.ne_nil, fun c hc => isAtomChar_iff.mpr (h.atext c hc)⟩
  · intro h
    exact ⟨h.1, fun c hc => isAtomChar_iff.mp (h.2 c hc)⟩

/-- Atoms joined by dots are the pieces between the dots. -/
theorem exists_atoms_iff {t : Text} :
    (∃ atoms, atoms ≠ [] ∧ t = ['.'].intercalate atoms ∧ ∀ atom ∈ atoms, IsAtom atom) ↔
      ∀ atom ∈ t.splitOn '.', IsAtom atom := by
  constructor
  · intro hyp
    obtain ⟨atoms, hne, rfl, hatoms⟩ := hyp
    have hdots : ∀ atom ∈ atoms, '.' ∉ atom :=
      fun atom hatom => (hatoms atom hatom).not_mem (by decide)
    rw [List.splitOn_intercalate '.' hdots hne]
    exact hatoms
  · intro h
    exact ⟨t.splitOn '.', List.splitOn_ne_nil '.' t, (List.intercalate_splitOn '.').symm, h⟩

/-- **The check of local parts** accepts atoms joined by single dots. -/
theorem isDotAtom_iff {t : Text} : isDotAtom t = true ↔ IsLocalPart t := by
  have hatoms : ((t.splitOn '.').all fun atom => !atom.isEmpty && atom.all isAtomChar) = true ↔
      ∀ atom ∈ t.splitOn '.', IsAtom atom := by
    simp only [List.all_eq_true, isAtom_iff]
  have hempty : (!t.isEmpty) = true ↔ 1 ≤ Text.byteLength t := by
    rw [Bool.not_eq_true', List.isEmpty_eq_false_iff, ne_eq, ← Text.byteLength_eq_zero_iff]
    omega
  unfold isDotAtom
  rw [Bool.and_eq_true, Bool.and_eq_true, decide_eq_true_eq, hempty, hatoms, ← exists_atoms_iff]
  constructor
  · intro hyp
    obtain ⟨⟨hpos, hle⟩, hjoined⟩ := hyp
    exact ⟨hpos, hle, hjoined⟩
  · intro h
    exact ⟨⟨h.length_pos, h.length_le⟩, h.joined⟩

/-- A local part holds no at sign. -/
theorem IsLocalPart.at_not_mem {t : Text} (h : IsLocalPart t) : '@' ∉ t := by
  obtain ⟨atoms, -, rfl, hatoms⟩ := h.joined
  intro hmem
  rcases Text.mem_intercalate hmem with heq | ⟨atom, hatom, hin⟩
  · exact absurd heq (by decide)
  · exact (hatoms atom hatom).not_mem (by decide) hin

/-! ## §3. Domains. -/

/-- Where one label is not enough, every name accepted has two. -/
theorem isMailDomain_iff {t : Text} : IsMailDomain t ↔ Name.isValid {} t = true := by
  rw [Name.isValid_iff]
  constructor
  · exact IsMailDomain.valid
  · intro h
    have hroot := Name.ne_dot_of_strict rfl h
    exact ⟨h, ((Name.validate_eq_ok_iff hroot).mp h).two_labels rfl⟩

/-! ## §4. Addresses. -/

/-- One at sign in all, and one between the parts: there is none in the parts. -/
theorem count_at_eq_one_iff {front back : Text} :
    (front ++ '@' :: back).count '@' = 1 ↔ '@' ∉ front ∧ '@' ∉ back := by
  rw [List.count_append, List.count_cons_self, ← List.count_eq_zero, ← List.count_eq_zero]
  omega

/-- **The check accepts plain addresses**, and nothing else. -/
theorem isEmail_iff (t : Text) : isEmail t = true ↔ IsAddress t := by
  unfold isEmail
  rw [Bool.and_eq_true, decide_eq_true_eq]
  constructor
  · intro hyp
    obtain ⟨hle, hparts⟩ := hyp
    cases hcut : Text.splitLast '@' t with
    | none =>
      rw [hcut] at hparts
      cases hparts
    | some pieces =>
      obtain ⟨front, back⟩ := pieces
      obtain ⟨rfl, hback⟩ := Text.splitLast_eq_some_iff.mp hcut
      rw [hcut, Bool.and_eq_true] at hparts
      -- The cut is at the last at sign, and the local part holds no other.
      have hfront := isDotAtom_iff.mp hparts.1
      exact ⟨hle, count_at_eq_one_iff.mpr ⟨hfront.at_not_mem, hback⟩, front, back, rfl, hfront,
        isMailDomain_iff.mpr hparts.2⟩
  · intro h
    obtain ⟨front, back, rfl, hfront, hback⟩ := h.parts
    have hcut := Text.splitLast_append_cons front (count_at_eq_one_iff.mp h.one_at).2
    refine ⟨h.length_le, ?_⟩
    rw [hcut, Bool.and_eq_true]
    exact ⟨isDotAtom_iff.mpr hfront, isMailDomain_iff.mp hback⟩

/-- Marks may stand in a local part, and the domain may end with a dot. -/
example : isEmail "o\x27brien+tag.x@sub.example.org.".toList = true := by
  decide +kernel

end DomainScope.Validator
