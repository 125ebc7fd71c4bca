/-
  DomainScope.Wildcard.RandomLabel
  ────────────────────────────────
  **LABELS OF MADE-UP NAMES.**

  Made-up names take their labels from a source, which is called for one label
  after the other and told the length of each.  What may be asked of a source
  is that it gives labels of that length, made of 36 characters.  One such
  source draws each character at random, all with the same chance; the draws of
  a call follow from a seed and the number of the call.
-/
import DomainScope.Text.Basic

namespace DomainScope

/-! ## §1. Sources of labels. -/

/-- The characters of made-up labels. -/
def probeChars : Text := "abcdefghijklmnopqrstuvwxyz0123456789".toList

/-- A source of labels: the label made by a call, given its number and the
length asked for. -/
abbrev LabelSource := Nat → Nat → Text

/-- A source that gives as many characters as it is asked for, and only those of
made-up labels. -/
def LabelSource.IsExact (labels : LabelSource) : Prop :=
  ∀ call length, (labels call length).length = length ∧ ∀ c ∈ labels call length, c ∈ probeChars

/-- Outside the 36 characters, the first of them is taken. -/
theorem getD_mem_probeChars (place : Nat) : probeChars.getD place 'a' ∈ probeChars := by
  rw [List.getD_eq_getElem?_getD]
  cases hplace : probeChars[place]? with
  | none => decide
  | some c => exact List.mem_of_getElem? hplace

/-! ## §2. Labels at random. -/

namespace RandomLabel

/-- Draws a label of the given length. -/
def draw : Nat → StdGen → Text
  | 0, _ => []
  | length + 1, gen =>
    let (place, next) := randNat gen 0 (probeChars.length - 1)
    probeChars.getD place 'a' :: draw length next

theorem length_draw (length : Nat) (gen : StdGen) : (draw length gen).length = length := by
  induction length generalizing gen with
  | zero => rfl
  | succ n ih => simp [draw, ih]

/-- Whatever is drawn is one of the 36 characters. -/
theorem mem_probeChars_of_mem_draw {length : Nat} {gen : StdGen} {c : Char}
    (h : c ∈ draw length gen) : c ∈ probeChars := by
  induction length generalizing gen with
  | zero => exact absurd h List.not_mem_nil
  | succ length ih =>
    rcases List.mem_cons.mp h with rfl | h
    · exact getD_mem_probeChars _
    · exact ih h

/-- The label source of a seed. -/
def source (seed : Nat) : LabelSource := fun call length =>
  draw length (mkStdGen (seed + 1000003 * call))

/-- Labels at random come from an exact source, whatever the seed. -/
theorem isExact_source (seed : Nat) : (source seed).IsExact :=
  fun _ length => ⟨length_draw length _, fun _ hc => mem_probeChars_of_mem_draw hc⟩

end RandomLabel

end DomainScope
