/-
  DomainScope.Proofs.Text.Lower
  ─────────────────────────────
  **SMALL LETTERS.**

  Making the letters of a text small leaves every other character where it is,
  keeps the text as long as it was, and changes nothing when done twice.
-/
import DomainScope.Text.Slice
import Mathlib

namespace DomainScope.Text

/-! ## §1. Characters. -/

/-- Only `d` becomes `d`, if `d` is no letter. -/
theorem toLower_eq_iff {c d : Char} (hd : d.isAlpha = false) : c.toLower = d ↔ c = d := by
  by_cases hc : c.isUpper
  · have hc' : c.isAlpha = true := by simp [Char.isAlpha, hc]
    constructor
    · intro heq
      subst heq
      rw [Char.isAlpha_toLower_eq_isAlpha, hc'] at hd
      exact absurd hd (by decide)
    · intro heq
      subst heq
      rw [hc'] at hd
      exact absurd hd (by decide)
  · rw [Char.toLower_eq_of_not_isUpper hc]

/-- A letter or a digit of ASCII takes one byte. -/
theorem utf8Size_of_isAlphanum {c : Char} (h : c.isAlphanum) : c.utf8Size = 1 := by
  rw [Char.utf8Size_eq_one_iff, UInt32.le_iff_toNat_le]
  simp only [Char.isAlphanum, Char.isAlpha, Char.isUpper, Char.isLower, Char.isDigit, ge_iff_le,
    UInt32.le_iff_toNat_le, Bool.or_eq_true, Bool.and_eq_true, decide_eq_true_eq,
    Char.reduceVal, UInt32.reduceToNat] at h ⊢
  omega

/-- No letter is a digit. -/
theorem isDigit_of_isAlpha {c : Char} (h : c.isAlpha) : c.isDigit = false := by
  simp only [Char.isAlpha, Char.isUpper, Char.isLower, Char.isDigit, ge_iff_le,
    UInt32.le_iff_toNat_le, Bool.or_eq_true, Bool.and_eq_true, decide_eq_true_eq,
    Char.reduceVal, UInt32.reduceToNat] at h ⊢
  simp only [Bool.and_eq_false_iff, decide_eq_false_iff_not]
  omega

/-- What is no digit does not become one, and digits stay as they are. -/
theorem isDigit_toLower (c : Char) : c.toLower.isDigit = c.isDigit := by
  by_cases hc : c.isUpper
  · have hc' : c.isAlpha = true := by simp [Char.isAlpha, hc]
    rw [isDigit_of_isAlpha hc', isDigit_of_isAlpha (by rw [Char.isAlpha_toLower_eq_isAlpha, hc'])]
  · rw [Char.toLower_eq_of_not_isUpper hc]

/-- Only letters of ASCII change, and they stay in ASCII. -/
theorem utf8Size_toLower (c : Char) : c.toLower.utf8Size = c.utf8Size := by
  by_cases hc : c.isUpper
  · have hc' : c.isAlpha = true := by simp [Char.isAlpha, hc]
    rw [utf8Size_of_isAlphanum (by simp [Char.isAlphanum, hc']),
      utf8Size_of_isAlphanum (by simp [Char.isAlphanum, hc'])]
  · rw [Char.toLower_eq_of_not_isUpper hc]

/-! ## §2. Texts. -/

@[simp] theorem lower_nil : lower [] = [] := rfl

@[simp] theorem lower_cons (c : Char) (t : Text) : lower (c :: t) = c.toLower :: lower t := rfl

@[simp] theorem lower_append (s t : Text) : lower (s ++ t) = lower s ++ lower t :=
  List.map_append

@[simp] theorem lower_eq_nil_iff {t : Text} : lower t = [] ↔ t = [] :=
  List.map_eq_nil_iff

/-- Done twice, nothing more changes. -/
@[simp] theorem lower_lower (t : Text) : lower (lower t) = lower t := by
  simp [lower]

/-- A text in small letters has as many bytes as before. -/
@[simp] theorem byteLength_lower (t : Text) : byteLength (lower t) = byteLength t := by
  induction t with
  | nil => rfl
  | cons c cs ih => rw [lower_cons, byteLength_cons, byteLength_cons, ih, utf8Size_toLower]

/-- A text in small letters holds a character that is no letter where it held it
before. -/
theorem mem_lower_iff {d : Char} (hd : d.isAlpha = false) {t : Text} : d ∈ lower t ↔ d ∈ t := by
  unfold lower
  rw [List.mem_map]
  constructor
  · intro hyp
    obtain ⟨c, hc, he⟩ := hyp
    rwa [← (toLower_eq_iff hd).mp he]
  · intro h
    exact ⟨d, h, (toLower_eq_iff hd).mpr rfl⟩

/-- It begins with such a character if it did before. -/
theorem head?_lower_eq_some_iff {d : Char} (hd : d.isAlpha = false) {t : Text} :
    (lower t).head? = some d ↔ t.head? = some d := by
  cases t with
  | nil => simp
  | cons c cs => simp [toLower_eq_iff hd]

/-- It ends in such a character if it did before. -/
theorem getLast?_lower_eq_some_iff {d : Char} (hd : d.isAlpha = false) {t : Text} :
    (lower t).getLast? = some d ↔ t.getLast? = some d := by
  unfold lower
  rw [List.getLast?_map]
  cases t.getLast? with
  | none => simp
  | some c => simp [toLower_eq_iff hd]

end DomainScope.Text
