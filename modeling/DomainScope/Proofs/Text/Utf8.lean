/-
  DomainScope.Proofs.Text.Utf8
  ────────────────────────────
  **THE READING MACHINE READS UTF-8.**

  The machine takes one byte at a time and knows nothing of the table of
  encodings.  What it takes for a whole character is the encoding of that
  character, and every encoding is taken so; hence the strict reader accepts
  the bytes of texts and nothing else.

  Main results
    `encode_eq_cons_iff`     the bytes of a character are the ones that the
                             machine completes to it
    `ofBytes?_eq_some_iff`   the strict reader is the inverse of `toBytes`
-/
import DomainScope.Text.Utf8
import Mathlib.Data.List.Basic

namespace DomainScope.Text

/-! ## §1. The encodings, by the values of their bytes. -/

/-- The numbers of characters leave out the surrogates. -/
theorem scalar_cases (c : Char) :
    c.toNat < 0xD800 ∨ 0xDFFF < c.toNat ∧ c.toNat < 0x110000 :=
  c.valid

/-- A number outside the surrogates is that of one character. -/
theorem eq_ofNat_iff {c : Char} {n : Nat} (h : n < 0xD800 ∨ 0xDFFF < n ∧ n < 0x110000) :
    c = Char.ofNat n ↔ c.toNat = n := by
  have hn : (Char.ofNat n).toNat = n := by
    show Char.toNat (if hvalid : n.isValidChar then Char.ofNatAux n hvalid else _) = n
    rw [dif_pos h]
    rfl
  constructor
  · intro hc
    rw [hc, hn]
  · intro hc
    rw [← hc, Char.ofNat_toNat]

theorem ofNat_eq_iff {n : Nat} {b : UInt8} : UInt8.ofNat n = b ↔ n % 256 = b.toNat := by
  rw [← UInt8.toNat_inj, UInt8.toNat_ofNat']

/-- The encoding of a character, over its number. -/
theorem encode_eq (c : Char) : String.utf8EncodeChar c =
    if c.toNat ≤ 0x7F then [UInt8.ofNat c.toNat]
    else if c.toNat ≤ 0x7FF then
      [UInt8.ofNat (c.toNat / 64 % 32 + 192), UInt8.ofNat (c.toNat % 64 + 128)]
    else if c.toNat ≤ 0xFFFF then
      [UInt8.ofNat (c.toNat / 4096 % 16 + 224), UInt8.ofNat (c.toNat / 64 % 64 + 128),
        UInt8.ofNat (c.toNat % 64 + 128)]
    else
      [UInt8.ofNat (c.toNat / 262144 % 8 + 240), UInt8.ofNat (c.toNat / 4096 % 64 + 128),
        UInt8.ofNat (c.toNat / 64 % 64 + 128), UInt8.ofNat (c.toNat % 64 + 128)] :=
  rfl

/-- A single byte below 80 (hexadecimal) is the character of the same number. -/
theorem encode_eq_one_iff {c : Char} {b : UInt8} :
    String.utf8EncodeChar c = [b] ↔ b.toNat < 0x80 ∧ c.toNat = b.toNat := by
  have hb := UInt8.toNat_lt b
  rw [encode_eq]
  split_ifs
  all_goals
    simp only [List.cons.injEq, and_true, ofNat_eq_iff, reduceCtorEq, and_false, false_iff]
    omega

/-- Two bytes hold five and six bits of the number; `C0` and `C1` would hold too few. -/
theorem encode_eq_two_iff {c : Char} {b₁ b₂ : UInt8} :
    String.utf8EncodeChar c = [b₁, b₂] ↔
      0xC2 ≤ b₁.toNat ∧ b₁.toNat ≤ 0xDF ∧ 0x80 ≤ b₂.toNat ∧ b₂.toNat ≤ 0xBF ∧
        c.toNat = (b₁.toNat - 0xC0) * 0x40 + (b₂.toNat - 0x80) := by
  rw [encode_eq]
  split_ifs
  all_goals
    simp only [List.cons.injEq, and_true, ofNat_eq_iff, reduceCtorEq, and_false, false_iff]
    omega

/-- Three bytes: the bounds on the second one leave out what two bytes hold already,
and the surrogates. -/
theorem encode_eq_three_iff {c : Char} {b₁ b₂ b₃ : UInt8} :
    String.utf8EncodeChar c = [b₁, b₂, b₃] ↔
      0xE0 ≤ b₁.toNat ∧ b₁.toNat ≤ 0xEF ∧
        (if b₁.toNat = 0xE0 then 0xA0 else 0x80) ≤ b₂.toNat ∧
        b₂.toNat ≤ (if b₁.toNat = 0xED then 0x9F else 0xBF) ∧
        0x80 ≤ b₃.toNat ∧ b₃.toNat ≤ 0xBF ∧
        c.toNat = ((b₁.toNat - 0xE0) * 0x40 + (b₂.toNat - 0x80)) * 0x40 + (b₃.toNat - 0x80) := by
  have hc := scalar_cases c
  rw [encode_eq]
  split_ifs
  all_goals
    simp only [List.cons.injEq, and_true, ofNat_eq_iff, reduceCtorEq, and_false, false_iff]
    omega

/-- Four bytes: the bounds on the second one leave out what three bytes hold already,
and what is too great for a character. -/
theorem encode_eq_four_iff {c : Char} {b₁ b₂ b₃ b₄ : UInt8} :
    String.utf8EncodeChar c = [b₁, b₂, b₃, b₄] ↔
      0xF0 ≤ b₁.toNat ∧ b₁.toNat ≤ 0xF4 ∧
        (if b₁.toNat = 0xF0 then 0x90 else 0x80) ≤ b₂.toNat ∧
        b₂.toNat ≤ (if b₁.toNat = 0xF4 then 0x8F else 0xBF) ∧
        0x80 ≤ b₃.toNat ∧ b₃.toNat ≤ 0xBF ∧ 0x80 ≤ b₄.toNat ∧ b₄.toNat ≤ 0xBF ∧
        c.toNat = (((b₁.toNat - 0xF0) * 0x40 + (b₂.toNat - 0x80)) * 0x40 + (b₃.toNat - 0x80))
          * 0x40 + (b₄.toNat - 0x80) := by
  have hc := scalar_cases c
  rw [encode_eq]
  split_ifs
  all_goals
    simp only [List.cons.injEq, and_true, ofNat_eq_iff, reduceCtorEq, and_false, false_iff]
    omega

/-! ## §2. What the machine completes. -/

/-- The bytes complete a character begun, and the character is `c`. -/
inductive Completes : PartialChar → List UInt8 → Char → Prop where
  | last {p : PartialChar} {b : UInt8} (admits : p.admits b = true) (missing : p.missing = 1) :
      Completes p [b] (Char.ofNat (p.extend b).bits)
  | more {p : PartialChar} {b : UInt8} {rest : List UInt8} {c : Char} (admits : p.admits b = true)
      (missing : p.missing ≠ 1) (h : Completes (p.extend b) rest c) : Completes p (b :: rest) c

theorem admits_iff {p : PartialChar} {b : UInt8} :
    p.admits b = true ↔ p.least ≤ b.toNat ∧ b.toNat ≤ p.greatest := by
  simp [PartialChar.admits]

/-- One byte of a character that was begun: it is the last one missing, or the machine
goes on with it. -/
theorem completes_iff {p : PartialChar} {bytes : List UInt8} {c : Char} :
    Completes p bytes c ↔ ∃ b rest, bytes = b :: rest ∧ p.admits b = true ∧
      if p.missing = 1 then rest = [] ∧ c = Char.ofNat (p.extend b).bits
      else Completes (p.extend b) rest c := by
  constructor
  · intro h
    cases h with
    | last admits missing => exact ⟨_, _, rfl, admits, by simp [missing]⟩
    | more admits missing h => exact ⟨_, _, rfl, admits, by simpa [missing] using h⟩
  · intro hyp
    obtain ⟨b, rest, rfl, admits, h⟩ := hyp
    by_cases missing : p.missing = 1
    · rw [if_pos missing] at h
      rw [h.1, h.2]
      exact .last admits missing
    · rw [if_neg missing] at h
      exact .more admits missing h

/-- With one byte missing, that byte is all. -/
theorem completes_one_iff {least greatest bits : Nat} {bytes : List UInt8} {c : Char} :
    Completes ⟨1, least, greatest, bits⟩ bytes c ↔
      ∃ b, bytes = [b] ∧ least ≤ b.toNat ∧ b.toNat ≤ greatest ∧
        c = Char.ofNat (bits * 0x40 + (b.toNat - 0x80)) := by
  rw [completes_iff]
  constructor
  · intro hyp
    obtain ⟨b, rest, rfl, admits, h⟩ := hyp
    obtain ⟨hleast, hgreatest⟩ := admits_iff.mp admits
    rw [if_pos rfl] at h
    exact ⟨b, by rw [h.1], hleast, hgreatest, h.2⟩
  · intro hyp
    obtain ⟨b, rfl, hleast, hgreatest, h⟩ := hyp
    refine ⟨b, [], rfl, admits_iff.mpr ⟨hleast, hgreatest⟩, ?_⟩
    rw [if_pos rfl]
    exact ⟨rfl, h⟩

/-- With more missing, a byte is taken, and the bounds on the next one are wide. -/
theorem completes_succ_iff {missing least greatest bits : Nat} {bytes : List UInt8} {c : Char} :
    Completes ⟨missing + 2, least, greatest, bits⟩ bytes c ↔
      ∃ b rest, bytes = b :: rest ∧ least ≤ b.toNat ∧ b.toNat ≤ greatest ∧
        Completes ⟨missing + 1, 0x80, 0xBF, bits * 0x40 + (b.toNat - 0x80)⟩ rest c := by
  rw [completes_iff]
  simp [admits_iff, PartialChar.extend, and_assoc]

/-! ## §3. First bytes. -/

/-- A first byte that is whole is the encoding of its character. -/
theorem lead_eq_whole_iff {b : UInt8} {c : Char} :
    lead b = .whole c ↔ String.utf8EncodeChar c = [b] := by
  rw [encode_eq_one_iff]
  by_cases hb : b.toNat < 0x80
  · have hlead : lead b = .whole (Char.ofNat b.toNat) := by simp [lead, hb]
    rw [hlead, Lead.whole.injEq, eq_comm, eq_ofNat_iff (by omega)]
    simp [hb]
  · have hlead : lead b ≠ .whole c := by
      unfold lead
      grind
    simp [hb, hlead]

/-- The first bytes of longer characters, with what they ask of the byte behind. -/
theorem lead_eq_opens_iff {b : UInt8} {p : PartialChar} : lead b = .opens p ↔
    (0xC2 ≤ b.toNat ∧ b.toNat ≤ 0xDF ∧ p = ⟨1, 0x80, 0xBF, b.toNat - 0xC0⟩) ∨
    (0xE0 ≤ b.toNat ∧ b.toNat ≤ 0xEF ∧
      p = ⟨2, if b.toNat = 0xE0 then 0xA0 else 0x80, if b.toNat = 0xED then 0x9F else 0xBF,
        b.toNat - 0xE0⟩) ∨
    (0xF0 ≤ b.toNat ∧ b.toNat ≤ 0xF4 ∧
      p = ⟨3, if b.toNat = 0xF0 then 0x90 else 0x80, if b.toNat = 0xF4 then 0x8F else 0xBF,
        b.toNat - 0xF0⟩) := by
  unfold lead
  grind

/-- **The bytes of a character are the ones that the machine completes to it.** -/
theorem encode_eq_cons_iff {c : Char} {b : UInt8} {rest : List UInt8} :
    String.utf8EncodeChar c = b :: rest ↔
      (lead b = .whole c ∧ rest = []) ∨ ∃ p, lead b = .opens p ∧ Completes p rest c := by
  constructor
  · intro h
    have hlen : rest.length < 4 := by
      have hsize := Char.utf8Size_le_four c
      rw [← String.length_utf8EncodeChar, h, List.length_cons] at hsize
      omega
    match rest, hlen with
    | [], _ => exact .inl ⟨lead_eq_whole_iff.mpr h, rfl⟩
    | [b₂], _ =>
      obtain ⟨h₁, h₂, h₃, h₄, hc⟩ := encode_eq_two_iff.mp h
      refine .inr ⟨_, lead_eq_opens_iff.mpr (.inl ⟨h₁, h₂, rfl⟩), ?_⟩
      exact completes_one_iff.mpr ⟨b₂, rfl, h₃, h₄, by rw [← hc, Char.ofNat_toNat]⟩
    | [b₂, b₃], _ =>
      obtain ⟨h₁, h₂, h₃, h₄, h₅, h₆, hc⟩ := encode_eq_three_iff.mp h
      refine .inr ⟨_, lead_eq_opens_iff.mpr (.inr (.inl ⟨h₁, h₂, rfl⟩)), ?_⟩
      refine completes_succ_iff.mpr ⟨b₂, _, rfl, h₃, h₄, ?_⟩
      exact completes_one_iff.mpr ⟨b₃, rfl, h₅, h₆, by rw [← hc, Char.ofNat_toNat]⟩
    | [b₂, b₃, b₄], _ =>
      obtain ⟨h₁, h₂, h₃, h₄, h₅, h₆, h₇, h₈, hc⟩ := encode_eq_four_iff.mp h
      refine .inr ⟨_, lead_eq_opens_iff.mpr (.inr (.inr ⟨h₁, h₂, rfl⟩)), ?_⟩
      refine completes_succ_iff.mpr ⟨b₂, _, rfl, h₃, h₄, ?_⟩
      refine completes_succ_iff.mpr ⟨b₃, _, rfl, h₅, h₆, ?_⟩
      exact completes_one_iff.mpr ⟨b₄, rfl, h₇, h₈, by rw [← hc, Char.ofNat_toNat]⟩
  · intro hyp
    rcases hyp with ⟨h, rfl⟩ | ⟨p, h, hc⟩
    · exact lead_eq_whole_iff.mp h
    -- The bounds on the second byte keep the number that comes out among those of characters.
    · rcases lead_eq_opens_iff.mp h with ⟨h₁, h₂, rfl⟩ | ⟨h₁, h₂, rfl⟩ | ⟨h₁, h₂, rfl⟩
      · obtain ⟨b₂, rfl, h₃, h₄, hc⟩ := completes_one_iff.mp hc
        rw [eq_ofNat_iff (by omega)] at hc
        exact encode_eq_two_iff.mpr ⟨h₁, h₂, h₃, h₄, hc⟩
      · obtain ⟨b₂, _, rfl, h₃, h₄, hc⟩ := completes_succ_iff.mp hc
        obtain ⟨b₃, rfl, h₅, h₆, hc⟩ := completes_one_iff.mp hc
        rw [eq_ofNat_iff (by split_ifs at h₃ h₄ <;> omega)] at hc
        exact encode_eq_three_iff.mpr ⟨h₁, h₂, h₃, h₄, h₅, h₆, hc⟩
      · obtain ⟨b₂, _, rfl, h₃, h₄, hc⟩ := completes_succ_iff.mp hc
        obtain ⟨b₃, _, rfl, h₅, h₆, hc⟩ := completes_succ_iff.mp hc
        obtain ⟨b₄, rfl, h₇, h₈, hc⟩ := completes_one_iff.mp hc
        rw [eq_ofNat_iff (by split_ifs at h₃ h₄ <;> omega)] at hc
        exact encode_eq_four_iff.mpr ⟨h₁, h₂, h₃, h₄, h₅, h₆, h₇, h₈, hc⟩

/-! ## §4. Strict reading. -/

theorem start_of_whole {d : Decoder} {b : UInt8} {c : Char} (h : lead b = .whole c) :
    d.start b = { d with pending := none, written := c :: d.written } := by
  unfold Decoder.start
  rw [h]

theorem start_of_opens {d : Decoder} {b : UInt8} {p : PartialChar} (h : lead b = .opens p) :
    d.start b = { d with pending := some p } := by
  unfold Decoder.start
  rw [h]

/-- The bytes that complete a character write that character. -/
theorem Completes.foldl_feed {p : PartialChar} {bytes : List UInt8} {c : Char}
    (h : Completes p bytes c) (written : Text) (broken : Bool) :
    bytes.foldl Decoder.feed ⟨some p, written, broken⟩ = ⟨none, c :: written, broken⟩ := by
  induction h with
  | last admits missing => simp [Decoder.feed, admits, missing]
  | more admits missing _ ih =>
    rw [List.foldl_cons, ← ih]
    simp [Decoder.feed, admits, missing]

/-- Fed the bytes of a character, the machine writes that character and is where it
was. -/
theorem foldl_feed_encode (c : Char) (written : Text) (broken : Bool) :
    (String.utf8EncodeChar c).foldl Decoder.feed ⟨none, written, broken⟩
      = ⟨none, c :: written, broken⟩ := by
  cases hbytes : String.utf8EncodeChar c with
  | nil => exact absurd hbytes String.utf8EncodeChar_ne_nil
  | cons b rest =>
    rw [List.foldl_cons]
    show rest.foldl Decoder.feed (Decoder.start ⟨none, written, broken⟩ b) = _
    rcases encode_eq_cons_iff.mp hbytes with ⟨h, rfl⟩ | ⟨p, h, hc⟩
    · rw [start_of_whole h]
      rfl
    · rw [start_of_opens h]
      exact hc.foldl_feed written broken

theorem toBytes_cons (c : Char) (t : Text) :
    toBytes (c :: t) = String.utf8EncodeChar c ++ toBytes t := List.flatMap_cons

/-- So it writes a text from the bytes of the text. -/
theorem foldl_feed_toBytes (t written : Text) (broken : Bool) :
    (toBytes t).foldl Decoder.feed ⟨none, written, broken⟩
      = ⟨none, t.reverse ++ written, broken⟩ := by
  induction t generalizing written with
  | nil => rfl
  | cons c t ih =>
    rw [toBytes_cons, List.foldl_append, foldl_feed_encode, ih]
    simp

/-- Nothing of a text is broken or left over. -/
theorem decode_toBytes (t : Text) : decode (toBytes t) = ⟨none, t.reverse, false⟩ := by
  unfold decode
  rw [foldl_feed_toBytes, List.append_nil]
  rfl

/-- A broken byte is never forgotten. -/
theorem broken_foldl_feed {d : Decoder} (h : d.broken = true) (bytes : List UInt8) :
    (bytes.foldl Decoder.feed d).finish.broken = true := by
  induction bytes generalizing d with
  | nil =>
    show d.finish.broken = true
    unfold Decoder.finish
    split <;> simp [h]
  | cons b rest ih =>
    refine ih ?_
    unfold Decoder.feed Decoder.start
    grind

/-- If nothing is broken, a character begun is completed. -/
theorem exists_completes {p : PartialChar} {bytes : List UInt8} {written : Text}
    (h : (bytes.foldl Decoder.feed ⟨some p, written, false⟩).finish.broken = false) :
    ∃ read rest c, bytes = read ++ rest ∧ Completes p read c ∧
      (rest.foldl Decoder.feed ⟨none, c :: written, false⟩).finish.broken = false := by
  induction bytes generalizing p with
  | nil => exact absurd h (by simp [Decoder.finish])
  | cons b rest ih =>
    rw [List.foldl_cons] at h
    by_cases admits : p.admits b = true
    · by_cases missing : p.missing = 1
      · rw [show Decoder.feed ⟨some p, written, false⟩ b
          = ⟨none, Char.ofNat (p.extend b).bits :: written, false⟩ by
            simp [Decoder.feed, admits, missing]] at h
        exact ⟨[b], rest, _, rfl, .last admits missing, h⟩
      · rw [show Decoder.feed ⟨some p, written, false⟩ b = ⟨some (p.extend b), written, false⟩ by
            simp [Decoder.feed, admits, missing]] at h
        obtain ⟨read, rest, c, rfl, hc, hrest⟩ := ih h
        exact ⟨b :: read, rest, c, rfl, .more admits missing hc, hrest⟩
    · have hbroken : (Decoder.feed ⟨some p, written, false⟩ b).broken = true := by
        simp only [Decoder.feed, admits, Bool.false_eq_true, if_false, Decoder.start]
        cases lead b <;> rfl
      rw [broken_foldl_feed hbroken] at h
      exact absurd h (by simp)

/-- Bytes of which none is broken are the bytes of a text. -/
theorem exists_toBytes_eq {bytes : List UInt8} {written : Text}
    (h : (bytes.foldl Decoder.feed ⟨none, written, false⟩).finish.broken = false) :
    ∃ t, toBytes t = bytes := by
  -- A character takes one byte at least, so the rest is shorter.
  induction hlen : bytes.length using Nat.strongRecOn generalizing bytes written with
  | ind n ih =>
    subst hlen
    cases bytes with
    | nil => exact ⟨[], rfl⟩
    | cons b rest =>
      rw [List.foldl_cons] at h
      change (rest.foldl Decoder.feed (Decoder.start ⟨none, written, false⟩ b)).finish.broken
        = false at h
      cases hb : lead b with
      | whole c =>
        rw [start_of_whole hb] at h
        obtain ⟨t, rfl⟩ := ih rest.length (by simp) h rfl
        refine ⟨c :: t, ?_⟩
        rw [toBytes_cons, lead_eq_whole_iff.mp hb]
        rfl
      | opens p =>
        rw [start_of_opens hb] at h
        obtain ⟨read, rest, c, rfl, hc, hrest⟩ := exists_completes h
        have hshorter : rest.length < (b :: (read ++ rest)).length := by
          simp only [List.length_cons, List.length_append]
          omega
        obtain ⟨t, rfl⟩ := ih rest.length hshorter hrest rfl
        refine ⟨c :: t, ?_⟩
        rw [toBytes_cons, encode_eq_cons_iff.mpr (.inr ⟨p, hb, hc⟩)]
        rfl
      | broken =>
        rw [broken_foldl_feed (by simp [Decoder.start, hb])] at h
        exact absurd h (by simp)

/-- **The strict reader accepts the bytes of a text, and reads that text.** -/
theorem ofBytes?_eq_some_iff {bytes : List UInt8} {t : Text} :
    ofBytes? bytes = some t ↔ toBytes t = bytes := by
  have hread : ∀ t, ofBytes? (toBytes t) = some t := by
    intro t
    unfold ofBytes?
    rw [decode_toBytes]
    simp
  constructor
  · intro h
    have hbroken : (decode bytes).broken = false := by
      by_contra hne
      simp [ofBytes?, hne] at h
    obtain ⟨t', rfl⟩ := exists_toBytes_eq hbroken
    rw [hread, Option.some.injEq] at h
    rw [h]
  · intro h
    rw [← h, hread]

/-- It refuses what are the bytes of no text. -/
theorem ofBytes?_eq_none_iff {bytes : List UInt8} :
    ofBytes? bytes = none ↔ ∀ t, toBytes t ≠ bytes := by
  rw [Option.eq_none_iff_forall_ne_some]
  simp only [ne_eq, ofBytes?_eq_some_iff]

end DomainScope.Text
