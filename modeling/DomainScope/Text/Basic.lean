/-
  DomainScope.Text.Basic
  ──────────────────────
  **TEXT AS A LIST OF CHARACTERS.**

  Names, rules, addresses and command lines are all texts, and a text is the
  list of its characters.  Most are read by cutting them at a separator: at
  every one (`List.splitOn`), at the first or at the last.  What is cut at the
  first separator is what stands in the text, and the separator does not stand
  in front of it (`splitFirst_eq_some_iff`, `splitFirst_eq_none_iff`); at the
  last one, it does not stand behind it (`splitLast_eq_some_iff`).  Cutting at
  every one loses no other character (`mem_splitOn`).

  A blank is a character with the Unicode property White_Space.  Suffix list
  files are cut into words at blanks, so every blank counts, not only those of
  ASCII.
-/

namespace DomainScope

/-- A piece of text: the list of its characters. -/
abbrev Text := List Char

namespace Text

/-! ## §1. Cutting. -/

/-- What stands before the first separator and what follows it, if there is one. -/
def splitFirst (sep : Char) : Text → Option (Text × Text)
  | [] => none
  | c :: cs =>
    if c = sep then some ([], cs)
    else (splitFirst sep cs).map fun (before, rest) => (c :: before, rest)

/-- What stands before the last separator and what follows it, if there is one. -/
def splitLast (sep : Char) (t : Text) : Option (Text × Text) :=
  -- Read backwards, the last separator is the first one.
  (splitFirst sep t.reverse).map fun (after, before) => (before.reverse, after.reverse)

/-- The text without the separators at its end. -/
def dropTrailing (sep : Char) (t : Text) : Text :=
  (t.reverse.dropWhile (· = sep)).reverse

/-- Whether `part` occurs in the text. -/
def occurs (part : Text) : Text → Bool
  | [] => part.isEmpty
  | c :: cs => part.isPrefixOf (c :: cs) || occurs part cs

/-! ## §2. ASCII. -/

/-- The text with the letters `A` to `Z` made small; all other characters stay. -/
def lower (t : Text) : Text := t.map Char.toLower

/-- A character of ASCII. -/
def isAscii (c : Char) : Bool := c.toNat < 128

/-! ## §3. Blanks and words. -/

/-- The ranges of the characters with the property White_Space. -/
def blankRanges : List (Nat × Nat) :=
  [(0x09, 0x0D), (0x20, 0x20), (0x85, 0x85), (0xA0, 0xA0), (0x1680, 0x1680),
    (0x2000, 0x200A), (0x2028, 0x2029), (0x202F, 0x202F), (0x205F, 0x205F), (0x3000, 0x3000)]

/-- Whether a character has the property White_Space. -/
def isBlank (c : Char) : Bool :=
  blankRanges.any fun (first, last) => first ≤ c.toNat && c.toNat ≤ last

/-- The text without the blanks at both ends. -/
def trim (t : Text) : Text :=
  ((t.dropWhile isBlank).reverse.dropWhile isBlank).reverse

/-- The characters up to the first blank. -/
def firstWord (t : Text) : Text := t.takeWhile (!isBlank ·)

/-! ## §4. What the separators cut. -/

theorem splitFirst_eq_none_iff {sep : Char} {t : Text} :
    splitFirst sep t = none ↔ sep ∉ t := by
  induction t with
  | nil => simp [splitFirst]
  | cons c cs ih =>
    by_cases h : c = sep
    · simp [splitFirst, h]
    · simp [splitFirst, h, ih, Ne.symm h]

/-- **What is cut at the first separator is the text**, and no separator stands in front
of it. -/
theorem splitFirst_eq_some_iff {sep : Char} {t before rest : Text} :
    splitFirst sep t = some (before, rest) ↔ t = before ++ sep :: rest ∧ sep ∉ before := by
  induction t generalizing before with
  | nil => simp [splitFirst]
  | cons c cs ih =>
    by_cases h : c = sep
    · subst h
      cases before with
      | nil => simp [splitFirst]
      | cons d before => simp +contextual [splitFirst]
    · cases before with
      | nil => simp [splitFirst, h]
      | cons d before =>
        have hih := @ih before
        simp only [splitFirst, h, if_false, Option.map_eq_some_iff, Prod.mk.injEq,
          List.cons.injEq, List.cons_append, List.mem_cons, not_or]
        grind

theorem splitLast_eq_none_iff {sep : Char} {t : Text} : splitLast sep t = none ↔ sep ∉ t := by
  unfold splitLast
  rw [Option.map_eq_none_iff, splitFirst_eq_none_iff, List.mem_reverse]

/-- **What is cut at the last separator is the text**, and no separator stands behind it. -/
theorem splitLast_eq_some_iff {sep : Char} {t before after : Text} :
    splitLast sep t = some (before, after) ↔ t = before ++ sep :: after ∧ sep ∉ after := by
  have hrev : t = before ++ sep :: after ↔ t.reverse = after.reverse ++ sep :: before.reverse := by
    rw [← List.reverse_inj]
    simp
  have hfirst : splitLast sep t = some (before, after)
      ↔ splitFirst sep t.reverse = some (after.reverse, before.reverse) := by
    unfold splitLast
    cases splitFirst sep t.reverse with
    | none => simp
    | some pieces =>
      obtain ⟨after', before'⟩ := pieces
      simp [List.reverse_eq_iff, and_comm]
  rw [hfirst, splitFirst_eq_some_iff, List.mem_reverse, ← hrev]

theorem splitLast_append_cons {sep : Char} {after : Text} (before : Text) (h : sep ∉ after) :
    splitLast sep (before ++ sep :: after) = some (before, after) :=
  splitLast_eq_some_iff.mpr ⟨rfl, h⟩

/-- What joined texts hold is held by one of them, or it is the separator. -/
theorem mem_intercalate {sep c : Char} {ts : List Text} (h : c ∈ [sep].intercalate ts) :
    c = sep ∨ ∃ t ∈ ts, c ∈ t := by
  induction ts with
  | nil => simp at h
  | cons t ts ih =>
    by_cases hts : ts = []
    · subst hts
      rw [List.intercalate_singleton] at h
      exact .inr ⟨t, List.mem_cons_self, h⟩
    · rw [List.intercalate_cons_of_ne_nil hts, List.mem_append, List.mem_append,
        List.mem_singleton] at h
      rcases h with (h | h) | h
      · exact .inr ⟨t, List.mem_cons_self, h⟩
      · exact .inl h
      · rcases ih h with h | ⟨u, hu, hc⟩
        · exact .inl h
        · exact .inr ⟨u, List.mem_cons_of_mem t hu, hc⟩

/-- A character other than the separator is in one of the pieces. -/
theorem mem_splitOn {sep c : Char} {t : Text} (h : c ∈ t) :
    c = sep ∨ ∃ piece ∈ t.splitOn sep, c ∈ piece := by
  have hjoin : [sep].intercalate (t.splitOn sep) = t := List.intercalate_splitOn sep
  rw [← hjoin] at h
  exact mem_intercalate h

end Text

end DomainScope
