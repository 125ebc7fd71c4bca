/-
  DomainScope.Proofs.Text.Lines
  ─────────────────────────────
  **LINES, WORDS AND WHAT OCCURS IN THEM.**

  A text is read line by line, a line without the blanks at its ends, and of
  that the first word.  Said without trimming: a word is a longest row of
  characters that are no blanks, and the first word has only blanks in front of
  it (`IsFirstWord`).  Lines end in a line feed, with or without a carriage
  return; since a carriage return is a blank, cutting at line feeds alone makes
  no difference once a line is trimmed.

  Main results
    `trim_eq_iff`           what trimming leaves
    `isFirstWord_iff`       the first word of a line is that of the line trimmed
    `occurs_iff`            what occurs in a text is a part of it
    `splitOn_lines`         cutting at line feeds gives the lines
-/
import DomainScope.Text.Basic
import Mathlib.Data.List.Forall2
import Mathlib.Data.List.Infix
import Mathlib.Data.List.TakeWhile

namespace DomainScope.Text

/-! ## §1. Trimming. -/

/-- A text that begins and ends with no blank. -/
structure IsTrimmed (t : Text) : Prop where
  head_not_blank : ∀ c, t.head? = some c → isBlank c = false
  last_not_blank : ∀ c, t.getLast? = some c → isBlank c = false

theorem dropWhile_isBlank_append {front : Text} (h : ∀ c ∈ front, isBlank c = true) (t : Text) :
    (front ++ t).dropWhile isBlank = t.dropWhile isBlank :=
  List.dropWhile_append_of_pos h

theorem dropWhile_isBlank_of_head? {t : Text} (h : ∀ c, t.head? = some c → isBlank c = false) :
    t.dropWhile isBlank = t := by
  cases t with
  | nil => rfl
  | cons c cs => rw [List.dropWhile_cons_of_neg (by simp [h c rfl])]

theorem exists_blanks_append (t : Text) :
    ∃ front, t = front ++ t.dropWhile isBlank ∧ ∀ c ∈ front, isBlank c = true := by
  refine ⟨t.takeWhile isBlank, List.takeWhile_append_dropWhile.symm, ?_⟩
  intro c hc
  exact List.mem_takeWhile_imp hc

theorem head?_dropWhile_isBlank {t : Text} {c : Char}
    (h : (t.dropWhile isBlank).head? = some c) : isBlank c = false := by
  have hnot := List.head?_dropWhile_not isBlank t
  rw [h] at hnot
  simpa using hnot

/-- Trimming takes off the blanks in front, and then those at the end. -/
theorem exists_dropWhile_eq (t : Text) :
    ∃ back, t.dropWhile isBlank = trim t ++ back ∧ ∀ c ∈ back, isBlank c = true := by
  obtain ⟨back, hback, hblank⟩ := exists_blanks_append (t.dropWhile isBlank).reverse
  refine ⟨back.reverse, ?_, fun c hc => hblank c (List.mem_reverse.mp hc)⟩
  conv_lhs => rw [← List.reverse_reverse (t.dropWhile isBlank), hback]
  rw [List.reverse_append]
  rfl

theorem isTrimmed_trim (t : Text) : IsTrimmed (trim t) := by
  obtain ⟨back, hback, -⟩ := exists_dropWhile_eq t
  constructor
  · intro c hc
    refine @head?_dropWhile_isBlank t c ?_
    rw [hback, List.head?_append, hc]
    rfl
  · intro c hc
    rw [trim, List.getLast?_reverse] at hc
    exact head?_dropWhile_isBlank hc

/-- A text is what trimming leaves, between blanks. -/
theorem exists_trim (t : Text) :
    ∃ front back, t = front ++ trim t ++ back ∧ (∀ c ∈ front, isBlank c = true) ∧
      (∀ c ∈ back, isBlank c = true) ∧ IsTrimmed (trim t) := by
  obtain ⟨front, hfront, hblank⟩ := exists_blanks_append t
  obtain ⟨back, hback, hblank'⟩ := exists_dropWhile_eq t
  refine ⟨front, back, ?_, hblank, hblank', isTrimmed_trim t⟩
  rw [List.append_assoc, ← hback]
  exact hfront

/-- **What trimming leaves** stands between blanks and has none at its ends. -/
theorem trim_eq_iff {t body : Text} :
    trim t = body ↔
      ∃ front back, t = front ++ body ++ back ∧ (∀ c ∈ front, isBlank c = true) ∧
        (∀ c ∈ back, isBlank c = true) ∧ IsTrimmed body := by
  constructor
  · intro heq
    subst heq
    exact exists_trim t
  · intro hyp
    obtain ⟨front, back, rfl, hfront, hback, htrimmed⟩ := hyp
    have hback' : ∀ c ∈ back.reverse, isBlank c = true :=
      fun c hc => hback c (List.mem_reverse.mp hc)
    unfold trim
    rw [List.append_assoc, dropWhile_isBlank_append hfront]
    -- A text of blanks only is dropped whole from its front.
    by_cases hnil : body = []
    · subst hnil
      have hall : back.dropWhile isBlank = [] := List.dropWhile_eq_nil_iff.mpr hback
      rw [List.nil_append, hall]
      rfl
    · have hhead : ∀ c, (body ++ back).head? = some c → isBlank c = false := by
        intro c hc
        rw [List.head?_append_of_ne_nil _ hnil] at hc
        exact htrimmed.head_not_blank c hc
      have hlast : ∀ c, body.reverse.head? = some c → isBlank c = false := by
        intro c hc
        rw [List.head?_reverse] at hc
        exact htrimmed.last_not_blank c hc
      rw [dropWhile_isBlank_of_head? hhead, List.reverse_append, dropWhile_isBlank_append hback',
        dropWhile_isBlank_of_head? hlast, List.reverse_reverse]

/-- Blanks behind a text are trimmed off. -/
theorem trim_append_blank {c : Char} (hc : isBlank c = true) (t : Text) :
    trim (t ++ [c]) = trim t := by
  obtain ⟨front, back, ht, hfront, hback, htrimmed⟩ := exists_trim t
  refine trim_eq_iff.mpr ⟨front, back ++ [c], ?_, hfront, ?_, htrimmed⟩
  · conv_lhs => rw [ht]
    rw [List.append_assoc]
  · intro d hd
    rcases List.mem_append.mp hd with hd | hd
    · exact hback d hd
    · rw [List.mem_singleton.mp hd]
      exact hc

/-! ## §2. The first word. -/

/-- The first word of a line: a longest row of characters that are no blanks,
with blanks alone in front of it. -/
def IsFirstWord (line word : Text) : Prop :=
  ∃ front rest, line = front ++ word ++ rest ∧ (∀ c ∈ front, isBlank c = true) ∧ word ≠ [] ∧
    (∀ c ∈ word, isBlank c = false) ∧ ∀ c, rest.head? = some c → isBlank c = true

/-- A line cut behind its blanks, up to the next one. -/
theorem isFirstWord_iff_takeWhile {line word : Text} :
    IsFirstWord line word ↔ word ≠ [] ∧ firstWord (line.dropWhile isBlank) = word := by
  constructor
  · intro hyp
    obtain ⟨front, rest, rfl, hfront, hne, hword, hrest⟩ := hyp
    refine ⟨hne, ?_⟩
    -- The word begins with no blank, so only the blanks in front of it are dropped.
    have hhead : ∀ c, (word ++ rest).head? = some c → isBlank c = false := by
      intro c hc
      rw [List.head?_append_of_ne_nil _ hne] at hc
      exact hword c (List.mem_of_head? hc)
    rw [List.append_assoc, dropWhile_isBlank_append hfront, dropWhile_isBlank_of_head? hhead]
    unfold firstWord
    rw [List.takeWhile_append_of_pos (by simpa using hword)]
    cases rest with
    | nil => simp
    | cons c cs => simp [hrest c rfl]
  · intro hyp
    obtain ⟨hne, rfl⟩ := hyp
    obtain ⟨front, hfront, hblank⟩ := exists_blanks_append line
    refine ⟨front, (line.dropWhile isBlank).dropWhile (!isBlank ·), ?_, hblank, hne, ?_, ?_⟩
    · unfold firstWord
      rw [List.append_assoc, List.takeWhile_append_dropWhile]
      exact hfront
    · intro c hc
      have hnot := List.mem_takeWhile_imp hc
      simpa using hnot
    · intro c hc
      have hnot := List.head?_dropWhile_not (!isBlank ·) (line.dropWhile isBlank)
      rw [hc] at hnot
      simpa using hnot

theorem firstWord_append_blanks {back : Text} (h : ∀ c ∈ back, isBlank c = true) (t : Text) :
    firstWord (t ++ back) = firstWord t := by
  have hback : back.takeWhile (!isBlank ·) = [] := by
    cases back with
    | nil => rfl
    | cons c cs => simp [h c List.mem_cons_self]
  unfold firstWord
  rw [List.takeWhile_append, hback, List.append_nil]
  split
  next hall => exact (List.takeWhile_prefix _).eq_of_length hall |>.symm
  next => rfl

/-- **The first word of a line is that of the line trimmed**, and a line has one
unless nothing is left of it. -/
theorem isFirstWord_iff {line word : Text} :
    IsFirstWord line word ↔ trim line ≠ [] ∧ firstWord (trim line) = word := by
  obtain ⟨back, hback, hblank⟩ := exists_dropWhile_eq line
  rw [isFirstWord_iff_takeWhile, hback, firstWord_append_blanks hblank]
  constructor
  · intro hyp
    obtain ⟨hne, rfl⟩ := hyp
    refine ⟨?_, rfl⟩
    intro hnil
    rw [hnil] at hne
    exact hne rfl
  · intro hyp
    obtain ⟨hne, rfl⟩ := hyp
    refine ⟨?_, rfl⟩
    obtain ⟨c, cs, htrim⟩ := List.exists_cons_of_ne_nil hne
    have hc := (isTrimmed_trim line).head_not_blank c (by rw [htrim]; rfl)
    rw [htrim]
    simp [firstWord, hc]

/-! ## §3. Parts of a text. -/

/-- **What occurs in a text** is a part of it. -/
theorem occurs_iff {part t : Text} : occurs part t = true ↔ part <:+: t := by
  induction t with
  | nil => simp [occurs]
  | cons c cs ih =>
    rw [occurs, Bool.or_eq_true, List.isPrefixOf_iff_prefix, ih, List.infix_cons_iff]

/-- A part that begins with none of the characters in front stands behind them. -/
theorem infix_append_iff {part front : Text} (hne : part ≠ [])
    (h : ∀ c, part.head? = some c → c ∉ front) (t : Text) :
    part <:+: front ++ t ↔ part <:+: t := by
  induction front with
  | nil => rfl
  | cons d front ih =>
    have hnot : ¬ part <+: d :: (front ++ t) := by
      intro hprefix
      obtain ⟨c, cs, rfl⟩ := List.exists_cons_of_ne_nil hne
      obtain ⟨rfl, -⟩ := List.cons_prefix_cons.mp hprefix
      exact h c rfl List.mem_cons_self
    rw [List.cons_append, List.infix_cons_iff, or_iff_right hnot]
    exact ih fun c hc hmem => h c hc (List.mem_cons_of_mem d hmem)

/-- A part that ends with none of the characters behind stands in front of them. -/
theorem infix_append_iff_left {part back : Text} (hne : part ≠ [])
    (h : ∀ c, part.getLast? = some c → c ∉ back) (t : Text) :
    part <:+: t ++ back ↔ part <:+: t := by
  have hhead : ∀ c, part.reverse.head? = some c → c ∉ back.reverse := by
    intro c hc
    rw [List.mem_reverse]
    exact h c (by rwa [List.head?_reverse] at hc)
  rw [← List.reverse_infix, List.reverse_append,
    infix_append_iff (by simpa using hne) hhead, List.reverse_infix]

/-! ## §4. Lines. -/

/-- The lines of a text.  A line ends in a line feed, or in a carriage return
and a line feed; the last one need not end. -/
def lines : Text → List Text
  | [] => []
  | '\n' :: cs => [] :: lines cs
  | '\r' :: '\n' :: cs => [] :: lines cs
  | c :: cs =>
    match lines cs with
    | [] => [[c]]
    | line :: rest => (c :: line) :: rest

/-- A text that is not empty has a line. -/
theorem eq_nil_of_lines {t : Text} (h : lines t = []) : t = [] := by
  unfold lines at h
  split at h
  · rfl
  · cases h
  · cases h
  · split at h <;> cases h

/-- What stands before a line feed is a line, or a line and a carriage return. -/
def EndsAlike (piece line : Text) : Prop := piece = line ∨ piece = line ++ ['\r']

theorem EndsAlike.trim_eq {piece line : Text} (h : EndsAlike piece line) :
    trim piece = trim line := by
  rcases h with rfl | rfl
  · rfl
  · exact trim_append_blank rfl line

theorem EndsAlike.cons {piece line : Text} (h : EndsAlike piece line) (c : Char) :
    EndsAlike (c :: piece) (c :: line) := by
  rcases h with rfl | rfl
  · exact .inl rfl
  · exact .inr rfl

theorem splitOn_feed_cons (t : Text) : List.splitOn '\n' ('\n' :: t) = [] :: List.splitOn '\n' t := by
  rw [List.splitOn_cons_eq_if_modifyHead]
  simp

theorem splitOn_cons_of_ne {c : Char} (h : c ≠ '\n') (t : Text) :
    List.splitOn '\n' (c :: t) = (List.splitOn '\n' t).modifyHead (c :: ·) := by
  rw [List.splitOn_cons_eq_if_modifyHead]
  simp [h]

/-- **Cutting at line feeds gives the lines**, some with a carriage return at
their end, and behind the last line feed nothing more than an empty piece. -/
theorem splitOn_lines (t : Text) :
    ∃ rest, (rest = [] ∨ rest = [[]]) ∧
      List.Forall₂ EndsAlike (t.splitOn '\n') (lines t ++ rest) := by
  fun_induction lines t with
  | case1 => exact ⟨[[]], .inr rfl, .cons (.inl rfl) .nil⟩
  | case2 cs ih =>
    obtain ⟨rest, hrest, hlines⟩ := ih
    rw [splitOn_feed_cons]
    exact ⟨rest, hrest, .cons (.inl rfl) hlines⟩
  | case3 cs ih =>
    obtain ⟨rest, hrest, hlines⟩ := ih
    rw [splitOn_cons_of_ne (by decide), splitOn_feed_cons]
    exact ⟨rest, hrest, .cons (.inr rfl) hlines⟩
  | case4 c cs hfeed _ hnil _ =>
    rw [eq_nil_of_lines hnil, splitOn_cons_of_ne hfeed]
    exact ⟨[], .inl rfl, .cons (.inl rfl) .nil⟩
  | case5 c cs hfeed _ line later hcons ih =>
    obtain ⟨rest, hrest, hlines⟩ := ih
    rw [hcons, List.cons_append] at hlines
    obtain ⟨piece, pieces, halike, hpieces, hsplit⟩ := List.forall₂_cons_right_iff.mp hlines
    rw [splitOn_cons_of_ne hfeed, hsplit]
    exact ⟨rest, hrest, .cons (halike.cons c) hpieces⟩

end DomainScope.Text
