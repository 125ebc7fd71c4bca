/-
  DomainScope.Proofs.Text.Numeral
  ───────────────────────────────
  **NUMERALS READ BACK.**

  A numeral that is written is read as the number it stands for, whatever the
  base up to sixteen.  Only zero is written with a zero in front.  A text that
  is read as a number holds digits only, apart from the one plus sign that may
  stand in front of a count.

  Main results
    `numeral?_toDigits`         a numeral in any base
    `boundedCount?_decimal`     a decimal count with a greatest value
    `isDigit_of_numeral?`       what is read as a number
-/
import DomainScope.Text.Numeral
import Mathlib.Data.List.Basic
import Mathlib.Tactic.IntervalCases

namespace DomainScope.Text

variable {base n : Nat} {t : Text}

/-! ## §1. Writing and reading. -/

/-- The digit written for a value is read as that value. -/
theorem digitValue?_digitChar (hbase : base ≤ 16) (h : n < base) :
    digitValue? base n.digitChar = some n := by
  have hn : n < 16 := Nat.lt_of_lt_of_le h hbase
  interval_cases n <;> simp [digitValue?, Nat.digitChar, h]

/-- Digits behind others go on from the value of those in front. -/
theorem digitsFrom?_append (start : Nat) (s t : Text) :
    digitsFrom? base start (s ++ t)
      = (digitsFrom? base start s).bind fun value => digitsFrom? base value t := by
  induction s generalizing start with
  | nil => rfl
  | cons c cs ih =>
    simp only [List.cons_append, digitsFrom?, ih]
    cases digitValue? base c <;> rfl

/-- The last digit of a numeral is the remainder, and those in front of it are
the numeral of the quotient. -/
theorem digitsFrom?_toDigits (hpos : 1 < base) (hbase : base ≤ 16) (n : Nat) :
    digitsFrom? base 0 (Nat.toDigits base n) = some n := by
  induction n using Nat.strong_induction_on with
  | _ n ih =>
    rcases Nat.lt_or_ge n base with hlt | hge
    · rw [Nat.toDigits_of_lt_base hlt]
      simp [digitsFrom?, digitValue?_digitChar hbase hlt]
    · have hquotient : n / base < n := Nat.div_lt_self (by omega) hpos
      have hdigit := digitValue?_digitChar hbase (Nat.mod_lt n (by omega : 0 < base))
      rw [Nat.toDigits_of_base_le hpos hge, digitsFrom?_append, ih _ hquotient]
      simp [digitsFrom?, hdigit, Nat.div_add_mod']

/-- **A numeral that is written is read back.** -/
theorem numeral?_toDigits (hpos : 1 < base) (hbase : base ≤ 16) (n : Nat) :
    numeral? base (Nat.toDigits base n) = some n := by
  have hne : (Nat.toDigits base n).isEmpty = false := by
    rw [List.isEmpty_eq_false_iff]
    exact Nat.toDigits_ne_nil
  unfold numeral?
  rw [hne, digitsFrom?_toDigits hpos hbase]
  rfl

/-- Only zero is written with a zero in front. -/
theorem head?_toDigits_ne (hpos : 1 < base) (hn : 0 < n) :
    (Nat.toDigits base n).head? ≠ some '0' := by
  induction n using Nat.strong_induction_on with
  | _ n ih =>
    rcases Nat.lt_or_ge n base with hlt | hge
    · rw [Nat.toDigits_of_lt_base hlt]
      simp
      omega
    · have hquotient : 0 < n / base := Nat.div_pos hge (by omega)
      rw [Nat.toDigits_of_base_le hpos hge, List.head?_append_of_ne_nil _ Nat.toDigits_ne_nil]
      exact ih _ (Nat.div_lt_self hn hpos) hquotient

/-- A number is read back from its decimal numeral, if it is not too great. -/
theorem boundedNumeral?_decimal {greatest : Nat} (h : n ≤ greatest) :
    boundedNumeral? greatest (decimal n) = some n := by
  unfold boundedNumeral? decimal
  rw [numeral?_toDigits (by decide) (by decide)]
  simp [h]

/-! ## §2. What is read. -/

/-- A digit in a base. -/
def IsDigit (base : Nat) (c : Char) : Prop := ∃ d, digitValue? base c = some d

instance (base : Nat) (c : Char) : Decidable (IsDigit base c) :=
  decidable_of_iff _ Option.isSome_iff_exists

/-- Nothing but digits is read as digits. -/
theorem isDigit_of_digitsFrom? {start : Nat} (h : digitsFrom? base start t = some n) :
    ∀ c ∈ t, IsDigit base c := by
  induction t generalizing start with
  | nil => simp
  | cons c cs ih =>
    obtain ⟨d, hd, hrest⟩ := Option.bind_eq_some_iff.mp h
    exact List.forall_mem_cons.mpr ⟨⟨d, hd⟩, ih hrest⟩

/-- **What is read as a number holds digits only.** -/
theorem isDigit_of_numeral? (h : numeral? base t = some n) : ∀ c ∈ t, IsDigit base c := by
  unfold numeral? at h
  split at h
  · cases h
  · exact isDigit_of_digitsFrom? h

/-- Nothing but digits is written for a number. -/
theorem isDigit_toDigits (hpos : 1 < base) (hbase : base ≤ 16) (n : Nat) :
    ∀ c ∈ Nat.toDigits base n, IsDigit base c :=
  isDigit_of_numeral? (numeral?_toDigits hpos hbase n)

/-- A digit in a base is one in every greater base. -/
theorem IsDigit.mono {base' : Nat} {c : Char} (hbase : base ≤ base') (h : IsDigit base c) :
    IsDigit base' c := by
  obtain ⟨d, hd⟩ := h
  unfold digitValue? at hd
  unfold IsDigit digitValue?
  grind

theorem isDigit_of_boundedNumeral? {greatest : Nat} (h : boundedNumeral? greatest t = some n) :
    (∀ c ∈ t, IsDigit 10 c) ∧ n ≤ greatest := by
  obtain ⟨hread, hle⟩ := Option.filter_eq_some_iff.mp h
  exact ⟨isDigit_of_numeral? hread, by simpa using hle⟩

/-- A plus sign in front is passed over. -/
theorem boundedCount?_plus (greatest : Nat) (t : Text) :
    boundedCount? greatest ('+' :: t) = boundedNumeral? greatest t := by
  cases t <;> rfl

theorem boundedCount?_of_head? {greatest : Nat} (h : t.head? ≠ some '+') :
    boundedCount? greatest t = boundedNumeral? greatest t := by
  cases t with
  | nil => rfl
  | cons c cs =>
    have hc : c ≠ '+' := by simpa using h
    have hnone : ['+'].isPrefixOf? (c :: cs) = none := by simp [List.isPrefixOf?, Ne.symm hc]
    unfold boundedCount?
    rw [hnone]
    rfl

theorem isDigit_of_boundedCount? {greatest : Nat} (h : boundedCount? greatest t = some n) :
    (∀ c ∈ t, c = '+' ∨ IsDigit 10 c) ∧ n ≤ greatest := by
  by_cases hplus : t.head? = some '+'
  · obtain ⟨cs, rfl⟩ := List.head?_eq_some_iff.mp hplus
    rw [boundedCount?_plus] at h
    obtain ⟨hdigits, hle⟩ := isDigit_of_boundedNumeral? h
    exact ⟨List.forall_mem_cons.mpr ⟨.inl rfl, fun c hc => .inr (hdigits c hc)⟩, hle⟩
  · rw [boundedCount?_of_head? hplus] at h
    obtain ⟨hdigits, hle⟩ := isDigit_of_boundedNumeral? h
    exact ⟨fun c hc => .inr (hdigits c hc), hle⟩

/-- **A decimal count that is written is read back**, since a plus sign is no
digit. -/
theorem boundedCount?_decimal {greatest : Nat} (h : n ≤ greatest) :
    boundedCount? greatest (decimal n) = some n := by
  rw [boundedCount?_of_head?, boundedNumeral?_decimal h]
  intro hplus
  have hdigit := isDigit_toDigits (by decide) (by decide) n '+' (List.mem_of_head? hplus)
  exact absurd hdigit (by decide)

end DomainScope.Text
