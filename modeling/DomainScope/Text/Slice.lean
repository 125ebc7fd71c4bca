/-
  DomainScope.Text.Slice
  ──────────────────────
  **CUTTING A TEXT AT A NUMBER OF BYTES.**

  A position in a text is a number of bytes of UTF-8, and a text can be cut
  there only if the position lies inside the text and no character runs across
  it (`cutAt?_eq_some_iff`).
-/
import DomainScope.Text.Utf8

namespace DomainScope.Text

/-! ## §1. Lengths. -/

@[simp] theorem byteLength_nil : byteLength [] = 0 := rfl

@[simp] theorem byteLength_cons (c : Char) (t : Text) :
    byteLength (c :: t) = c.utf8Size + byteLength t :=
  rfl

/-- The bytes of a text behind another one come on top of those in front. -/
@[simp] theorem byteLength_append (s t : Text) :
    byteLength (s ++ t) = byteLength s + byteLength t := by
  induction s with
  | nil => simp
  | cons c cs ih => rw [List.cons_append, byteLength_cons, byteLength_cons, ih, Nat.add_assoc]

/-- No character takes less than a byte, so only the empty text has none. -/
theorem byteLength_eq_zero_iff {t : Text} : byteLength t = 0 ↔ t = [] := by
  cases t with
  | nil => simp
  | cons c cs =>
    have hpos := c.utf8Size_pos
    simp only [byteLength_cons, reduceCtorEq, iff_false]
    omega

/-! ## §2. Cutting. -/

/-- The first `n` bytes of a text and what follows them, if no character runs
across the cut. -/
def cutAt? : Text → Nat → Option (Text × Text)
  | t, 0 => some ([], t)
  | [], _ + 1 => none
  | c :: cs, n + 1 =>
    if n + 1 < c.utf8Size then none
    else (cutAt? cs (n + 1 - c.utf8Size)).map fun (before, rest) => (c :: before, rest)

/-- A text can always be cut at its beginning. -/
private theorem cutAt?_zero (t : Text) : cutAt? t 0 = some ([], t) := by
  cases t <;> rfl

/-- At its beginning, nothing is cut off it. -/
private theorem cutAt?_zero_eq_some_iff {t before rest : Text} :
    cutAt? t 0 = some (before, rest) ↔ t = before ++ rest ∧ byteLength before = 0 := by
  rw [cutAt?_zero, byteLength_eq_zero_iff]
  constructor
  · intro heq
    cases heq
    exact ⟨rfl, rfl⟩
  · intro hyp
    obtain ⟨rfl, rfl⟩ := hyp
    rfl

/-- **A text can be cut at a number of bytes exactly if some characters at its
beginning take so many**, and these are what is cut off.  The induction is on the
text: each character takes its bytes off the number that is left. -/
theorem cutAt?_eq_some_iff {t before rest : Text} {n : Nat} :
    cutAt? t n = some (before, rest) ↔ t = before ++ rest ∧ byteLength before = n := by
  induction t generalizing before n with
  | nil =>
    cases n with
    | zero => exact cutAt?_zero_eq_some_iff
    | succ n =>
      simp only [cutAt?, reduceCtorEq, false_iff, not_and]
      intro h
      simp [(List.append_eq_nil_iff.mp h.symm).1]
  | cons c cs ih =>
    have hpos := c.utf8Size_pos
    cases n with
    | zero => exact cutAt?_zero_eq_some_iff
    | succ n =>
      simp only [cutAt?]
      split
      next hlt =>
        simp only [reduceCtorEq, false_iff, not_and]
        cases before with
        | nil => simp
        | cons d ds =>
          intro heq
          cases heq
          simp only [byteLength_cons]
          omega
      next hge =>
        cases before with
        | nil => simp
        | cons d ds =>
          have hih := @ih ds (n + 1 - c.utf8Size)
          simp only [Option.map_eq_some_iff, Prod.exists, Prod.mk.injEq, List.cons.injEq,
            List.cons_append, byteLength_cons]
          constructor
          · intro hyp
            obtain ⟨ds', rest', h, ⟨rfl, rfl⟩, rfl⟩ := hyp
            obtain ⟨hcs, hlen⟩ := ih.mp h
            exact ⟨⟨rfl, hcs⟩, by omega⟩
          · intro hyp
            obtain ⟨⟨rfl, hcs⟩, hlen⟩ := hyp
            exact ⟨ds, rest, hih.mpr ⟨hcs, by omega⟩, ⟨rfl, rfl⟩, rfl⟩

end DomainScope.Text
