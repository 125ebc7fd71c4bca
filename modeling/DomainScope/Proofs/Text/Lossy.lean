/-
  DomainScope.Proofs.Text.Lossy
  ─────────────────────────────
  **BYTES THAT ARRIVE IN CHUNKS.**

  Chunks that are read one by one give the text of all their bytes, unless the
  end of a chunk cuts a character: the last bytes of the chunk and the first
  one behind it are then the beginning of the bytes of a character.  Read
  apart, the two pieces leave more marks of broken bytes than the whole has
  characters, so the texts differ whenever there is a cut.

  Main results
    `ofBytesLossy_append_iff`         one place where bytes are cut
    `flatMap_ofBytesLossy_eq_iff`     any number of chunks
-/
import DomainScope.Proofs.Text.Utf8
import Mathlib.Data.List.Induction

namespace DomainScope.Text

/-! ## §1. Reading on from a character begun. -/

/-- The character begun after some more bytes. -/
def pendingAfter (begun : Option PartialChar) (bytes : List UInt8) : Option PartialChar :=
  (bytes.foldl Decoder.feed { pending := begun }).pending

/-- The text of the bytes, the character begun being completed or broken. -/
def textFrom (begun : Option PartialChar) (bytes : List UInt8) : Text :=
  (bytes.foldl Decoder.feed { pending := begun }).finish.written.reverse

theorem ofBytesLossy_eq (bytes : List UInt8) : ofBytesLossy bytes = textFrom none bytes := rfl

/-- A byte is taken without a look at what has been written. -/
theorem feed_eq (d : Decoder) (b : UInt8) :
    (d.feed b).pending = (Decoder.feed { pending := d.pending } b).pending ∧
      (d.feed b).written = (Decoder.feed { pending := d.pending } b).written ++ d.written := by
  obtain ⟨pending, written, broken⟩ := d
  unfold Decoder.feed Decoder.start
  cases pending with
  | none =>
    simp only
    cases lead b <;> simp
  | some p =>
    simp only
    split_ifs
    · simp
    · simp
    · cases lead b <;> simp

/-- What the machine holds back and writes hangs on what it held back before, and is
put behind what was written. -/
theorem foldl_feed_eq (d : Decoder) (bytes : List UInt8) :
    (bytes.foldl Decoder.feed d).pending = pendingAfter d.pending bytes ∧
      (bytes.foldl Decoder.feed d).finish.written.reverse
        = d.written.reverse ++ textFrom d.pending bytes := by
  induction bytes generalizing d with
  | nil =>
    refine ⟨rfl, ?_⟩
    unfold textFrom
    simp only [List.foldl_nil, Decoder.finish]
    cases d.pending <;> simp
  | cons b rest ih =>
    obtain ⟨hpending, hwritten⟩ := feed_eq d b
    have hd := ih (d.feed b)
    have hfresh := ih (Decoder.feed { pending := d.pending } b)
    rw [hpending, hwritten] at hd
    unfold pendingAfter textFrom
    rw [List.foldl_cons, List.foldl_cons, hd.1, hd.2, hfresh.1, hfresh.2]
    simp

/-- What is held back behind two pieces is found piece by piece. -/
theorem pendingAfter_append (begun : Option PartialChar) (front back : List UInt8) :
    pendingAfter begun (front ++ back) = pendingAfter (pendingAfter begun front) back := by
  unfold pendingAfter
  rw [List.foldl_append, (foldl_feed_eq _ back).1]
  rfl

/-- Reading goes on where it stopped, and what was written stays. -/
theorem exists_textFrom_append (begun : Option PartialChar) (front : List UInt8) :
    ∃ written, ∀ back, textFrom begun (front ++ back)
      = written ++ textFrom (pendingAfter begun front) back := by
  refine ⟨(front.foldl Decoder.feed { pending := begun }).written.reverse, ?_⟩
  intro back
  unfold textFrom
  rw [List.foldl_append, (foldl_feed_eq _ back).2]
  rfl

/-! ## §2. The text, byte by byte. -/

section Bytes

variable {p : PartialChar} {b : UInt8} (rest : List UInt8)

theorem textFrom_cons (begun : Option PartialChar) : textFrom begun (b :: rest)
    = (Decoder.feed { pending := begun } b).written.reverse
      ++ textFrom (Decoder.feed { pending := begun } b).pending rest := by
  rw [← (foldl_feed_eq _ rest).2]
  rfl

/-- A byte that begins nothing is replaced by itself. -/
theorem textFrom_broken (h : lead b = .broken) :
    textFrom none (b :: rest) = replacement :: textFrom none rest := by
  rw [textFrom_cons]
  simp [Decoder.feed, Decoder.start, h]

theorem textFrom_last (admits : p.admits b = true) (missing : p.missing = 1) :
    textFrom (some p) (b :: rest) = Char.ofNat (p.extend b).bits :: textFrom none rest := by
  rw [textFrom_cons]
  simp [Decoder.feed, admits, missing]

theorem textFrom_more (admits : p.admits b = true) (missing : p.missing ≠ 1) :
    textFrom (some p) (b :: rest) = textFrom (some (p.extend b)) rest := by
  rw [textFrom_cons]
  simp [Decoder.feed, admits, missing]

/-- A character that the next byte does not go on with is replaced, and that byte is
read anew. -/
theorem textFrom_refused (refused : p.admits b = false) :
    textFrom (some p) (b :: rest) = replacement :: textFrom none (b :: rest) := by
  rw [textFrom_cons, textFrom_cons]
  simp only [Decoder.feed, refused, Bool.false_eq_true, if_false, Decoder.start]
  cases lead b <;> simp

end Bytes

/-! ## §3. Characters begun. -/

/-- The bytes begin a character, and `p` is what is known of it. -/
inductive Begins : List UInt8 → PartialChar → Prop where
  | first {b : UInt8} {p : PartialChar} (h : lead b = .opens p) : Begins [b] p
  | more {read : List UInt8} {p : PartialChar} {b : UInt8} (h : Begins read p)
      (admits : p.admits b = true) (missing : p.missing ≠ 1) : Begins (read ++ [b]) (p.extend b)

/-- Bytes are missing, and none of them may begin a character. -/
structure PartialChar.IsOpen (p : PartialChar) : Prop where
  missing_pos : 0 < p.missing
  least_ge : 0x80 ≤ p.least
  greatest_le : p.greatest ≤ 0xBF

theorem isOpen_of_lead {b : UInt8} {p : PartialChar} (h : lead b = .opens p) : p.IsOpen := by
  rcases lead_eq_opens_iff.mp h with ⟨-, -, rfl⟩ | ⟨-, -, rfl⟩ | ⟨-, -, rfl⟩
  · exact ⟨by simp, by simp, by simp⟩
  · exact ⟨by simp, by simp only; split_ifs <;> omega, by simp only; split_ifs <;> omega⟩
  · exact ⟨by simp, by simp only; split_ifs <;> omega, by simp only; split_ifs <;> omega⟩

theorem PartialChar.IsOpen.extend {p : PartialChar} (h : p.IsOpen) (missing : p.missing ≠ 1)
    (b : UInt8) : (p.extend b).IsOpen := by
  have hpos := h.missing_pos
  unfold PartialChar.extend
  exact ⟨by simp only; omega, Nat.le_refl _, Nat.le_refl _⟩

theorem Begins.isOpen {read : List UInt8} {p : PartialChar} (h : Begins read p) : p.IsOpen := by
  induction h with
  | first h => exact isOpen_of_lead h
  | more _ _ missing ih => exact ih.extend missing _

theorem Begins.ne_nil {read : List UInt8} {p : PartialChar} (h : Begins read p) : read ≠ [] := by
  cases h <;> simp

/-- A byte that may come next begins no character. -/
theorem PartialChar.IsOpen.lead_eq_broken {p : PartialChar} (h : p.IsOpen) {b : UInt8}
    (admits : p.admits b = true) : lead b = .broken := by
  have hleast := h.least_ge
  have hgreatest := h.greatest_le
  obtain ⟨hl, hg⟩ := admits_iff.mp admits
  unfold lead
  grind

/-- What completes a character begun is the rest of its encoding. -/
theorem Begins.encode_eq {read rest : List UInt8} {p : PartialChar} {c : Char}
    (h : Begins read p) (hc : Completes p rest c) : String.utf8EncodeChar c = read ++ rest := by
  induction h generalizing rest with
  | first h => exact encode_eq_cons_iff.mpr (.inr ⟨_, h, hc⟩)
  | more _ admits missing ih =>
    rw [ih (.more admits missing hc)]
    simp

/-- Any byte that may come next leads on to some character. -/
theorem PartialChar.IsOpen.exists_completes {p : PartialChar} (h : p.IsOpen) {b : UInt8}
    (admits : p.admits b = true) : ∃ rest c, Completes p (b :: rest) c := by
  induction hm : p.missing generalizing p b with
  | zero => exact absurd h.missing_pos (by omega)
  | succ n ih =>
    by_cases missing : p.missing = 1
    · exact ⟨[], _, .last admits missing⟩
    · -- From the third byte on every continuation is allowed, the least one too.
      obtain ⟨rest, c, hc⟩ := @ih (p.extend b) (h.extend missing b) 0x80
        (admits_iff.mpr ⟨by simp [PartialChar.extend], by simp [PartialChar.extend]⟩)
        (by simp [PartialChar.extend, hm])
      exact ⟨_, c, .more admits missing hc⟩

/-- A character under way was begun by the last bytes. -/
theorem exists_begins {bytes : List UInt8} {p : PartialChar}
    (h : pendingAfter none bytes = some p) : ∃ read, read <:+ bytes ∧ Begins read p := by
  -- From the right, since the last byte either begins the character or goes on with it.
  induction bytes using List.reverseRecOn generalizing p with
  | nil => exact absurd h (by simp [pendingAfter])
  | append_singleton front b ih =>
    rw [pendingAfter_append] at h
    change (Decoder.feed { pending := pendingAfter none front } b).pending = some p at h
    have hstart : ∀ d : Decoder, (d.pending = none) → (d.start b).pending = some p →
        ∃ read, read <:+ front ++ [b] ∧ Begins read p := by
      intro d hd hp
      unfold Decoder.start at hp
      cases hb : lead b with
      | whole c => simp [hb] at hp
      | broken => simp [hb] at hp
      | opens q =>
        simp only [hb, Option.some.injEq] at hp
        exact ⟨[b], List.suffix_append front [b], hp ▸ .first hb⟩
    cases hq : pendingAfter none front with
    | none =>
      rw [hq] at h
      exact hstart { pending := none } rfl h
    | some q =>
      rw [hq] at h
      by_cases admits : q.admits b = true
      · by_cases missing : q.missing = 1
        · simp [Decoder.feed, admits, missing] at h
        · obtain ⟨read, hread, hbegins⟩ := ih hq
          simp only [Decoder.feed, admits, missing, if_true, if_false, Option.some.injEq] at h
          refine ⟨read ++ [b], ?_, h ▸ hbegins.more admits missing⟩
          exact List.suffix_append_self_iff.mpr hread
      · simp only [Decoder.feed, admits, Bool.false_eq_true, if_false] at h
        exact hstart { pending := none, written := [replacement], broken := true } rfl h

/-- A character under way in the middle of its bytes: the next one may come. -/
theorem Completes.exists_pendingAfter {p : PartialChar} {read rest : List UInt8} {next : UInt8}
    {c : Char} (h : Completes p (read ++ next :: rest) c) :
    ∃ q, pendingAfter (some p) read = some q ∧ q.admits next = true := by
  induction read generalizing p with
  | nil =>
    refine ⟨p, rfl, ?_⟩
    obtain ⟨b, rest', hbytes, admits, -⟩ := completes_iff.mp h
    rw [(List.cons.inj hbytes).1]
    exact admits
  | cons b read ih =>
    obtain ⟨b', rest', hbytes, admits, hc⟩ := completes_iff.mp h
    obtain ⟨rfl, rfl⟩ := List.cons.inj hbytes
    by_cases missing : p.missing = 1
    · rw [if_pos missing] at hc
      exact absurd hc.1 (by simp)
    · rw [if_neg missing] at hc
      obtain ⟨q, hq, hnext⟩ := ih hc
      refine ⟨q, ?_, hnext⟩
      rw [← hq, show b :: read = [b] ++ read from rfl, pendingAfter_append]
      congr 1
      simp [pendingAfter, Decoder.feed, admits, missing]

/-- Whatever came before it, a first byte begins its character. -/
theorem pendingAfter_append_lead {b : UInt8} {p : PartialChar} (h : lead b = .opens p)
    (front : List UInt8) : pendingAfter none (front ++ [b]) = some p := by
  rw [pendingAfter_append]
  show (Decoder.feed { pending := pendingAfter none front } b).pending = some p
  cases hq : pendingAfter none front with
  | none => simp [Decoder.feed, Decoder.start, h]
  | some q =>
    obtain ⟨read, -, hbegins⟩ := exists_begins hq
    have hrefused : q.admits b = false := by
      by_contra hadmits
      rw [Bool.not_eq_false] at hadmits
      rw [hbegins.isOpen.lead_eq_broken hadmits] at h
      exact absurd h (by simp)
    simp [Decoder.feed, Decoder.start, hrefused, h]

/-! ## §4. Where a character is cut. -/

/-- The last bytes in front and the first one behind are the beginning of the
bytes of a character. -/
def CutsCharacter (front back : List UInt8) : Prop :=
  ∃ c begun next missing, String.utf8EncodeChar c = begun ++ next :: missing ∧
    begun ≠ [] ∧ begun <:+ front ∧ [next] <+: back

/-- A character is cut between two pieces if the first leaves one begun that the
second goes on with. -/
theorem cutsCharacter_iff {front back : List UInt8} : CutsCharacter front back ↔
    ∃ p next rest, pendingAfter none front = some p ∧ back = next :: rest ∧
      p.admits next = true := by
  constructor
  · intro hyp
    obtain ⟨c, begun, next, missing, hc, hne, ⟨before, rfl⟩, ⟨rest, rfl⟩⟩ := hyp
    obtain ⟨b, read, rfl⟩ := List.exists_cons_of_ne_nil hne
    rcases encode_eq_cons_iff.mp hc with ⟨-, hnil⟩ | ⟨p, hb, hcompletes⟩
    · exact absurd hnil (by simp)
    · obtain ⟨q, hq, hnext⟩ := hcompletes.exists_pendingAfter
      refine ⟨q, next, rest, ?_, rfl, hnext⟩
      rw [show before ++ b :: read = (before ++ [b]) ++ read by simp, pendingAfter_append,
        pendingAfter_append_lead hb, hq]
  · intro hyp
    obtain ⟨p, next, rest, hp, rfl, admits⟩ := hyp
    obtain ⟨read, hread, hbegins⟩ := exists_begins hp
    obtain ⟨missing, c, hc⟩ := hbegins.isOpen.exists_completes admits
    exact ⟨c, read, next, missing, hbegins.encode_eq hc, hbegins.ne_nil, hread, ⟨rest, rfl⟩⟩

/-- A character begun takes one mark at most off the text that follows. -/
theorem length_textFrom_some_le {p : PartialChar} (h : p.IsOpen) (bytes : List UInt8) :
    (textFrom (some p) bytes).length ≤ (textFrom none bytes).length + 1 := by
  -- Bytes that the character takes are broken without it; behind it both readings agree.
  induction bytes generalizing p with
  | nil => exact Nat.le_refl _
  | cons b rest ih =>
    cases admits : p.admits b with
    | false =>
      rw [textFrom_refused rest admits]
      exact Nat.le_refl _
    | true =>
      rw [textFrom_broken rest (h.lead_eq_broken admits), List.length_cons]
      by_cases missing : p.missing = 1
      · rw [textFrom_last rest admits missing, List.length_cons]
        omega
      · rw [textFrom_more rest admits missing]
        have hle := ih (h.extend missing b)
        omega

/-- If the next byte may come, the text is shorter than with the two broken. -/
theorem length_textFrom_some_lt {p : PartialChar} (h : p.IsOpen) {b : UInt8}
    (admits : p.admits b = true) (rest : List UInt8) :
    (textFrom (some p) (b :: rest)).length < (textFrom none (b :: rest)).length + 1 := by
  rw [textFrom_broken rest (h.lead_eq_broken admits), List.length_cons]
  by_cases missing : p.missing = 1
  · rw [textFrom_last rest admits missing, List.length_cons]
    omega
  · rw [textFrom_more rest admits missing]
    have hle := length_textFrom_some_le (h.extend missing b) rest
    omega

/-- **Pieces between which no character is cut are read one by one.** -/
theorem ofBytesLossy_append {front back : List UInt8} (h : ¬ CutsCharacter front back) :
    ofBytesLossy (front ++ back) = ofBytesLossy front ++ ofBytesLossy back := by
  obtain ⟨written, hwritten⟩ := exists_textFrom_append none front
  have hfront := hwritten []
  rw [List.append_nil] at hfront
  rw [ofBytesLossy_eq, ofBytesLossy_eq, ofBytesLossy_eq, hwritten, hfront, List.append_assoc,
    List.append_cancel_left_eq]
  cases hp : pendingAfter none front with
  | none => rfl
  | some p =>
    cases back with
    | nil => rfl
    | cons b rest =>
      refine textFrom_refused rest ?_
      by_contra admits
      rw [Bool.not_eq_false] at admits
      exact h (cutsCharacter_iff.mpr ⟨p, b, rest, hp, rfl, admits⟩)

/-- The pieces of a character leave more marks than the character itself. -/
theorem length_ofBytesLossy_append_lt {front back : List UInt8} (h : CutsCharacter front back) :
    (ofBytesLossy (front ++ back)).length
      < (ofBytesLossy front).length + (ofBytesLossy back).length := by
  obtain ⟨p, next, rest, hp, rfl, admits⟩ := cutsCharacter_iff.mp h
  obtain ⟨read, -, hbegins⟩ := exists_begins hp
  obtain ⟨written, hwritten⟩ := exists_textFrom_append none front
  have hfront := hwritten []
  have hlt := length_textFrom_some_lt hbegins.isOpen admits rest
  rw [List.append_nil, hp] at hfront
  rw [ofBytesLossy_eq, ofBytesLossy_eq, ofBytesLossy_eq, hwritten, hfront, hp,
    List.length_append, List.length_append, show textFrom (some p) [] = [replacement] from rfl,
    List.length_singleton]
  omega

/-- **Bytes read apart give the text of the whole, unless a character is cut.** -/
theorem ofBytesLossy_append_iff {front back : List UInt8} :
    ofBytesLossy (front ++ back) = ofBytesLossy front ++ ofBytesLossy back ↔
      ¬ CutsCharacter front back := by
  constructor
  · intro heq hcut
    have hlt := length_ofBytesLossy_append_lt hcut
    rw [heq, List.length_append] at hlt
    exact Nat.lt_irrefl _ hlt
  · exact ofBytesLossy_append

/-! ## §5. Any number of chunks. -/

/-- Chunks read apart never give less text than the whole. -/
theorem length_ofBytesLossy_flatten_le (chunks : List (List UInt8)) :
    (ofBytesLossy chunks.flatten).length ≤ (chunks.flatMap ofBytesLossy).length := by
  induction chunks with
  | nil => exact Nat.le_refl _
  | cons chunk rest ih =>
    rw [List.flatten_cons, List.flatMap_cons, List.length_append]
    by_cases hcut : CutsCharacter chunk rest.flatten
    · have hlt := length_ofBytesLossy_append_lt hcut
      omega
    · rw [ofBytesLossy_append hcut, List.length_append]
      omega

/-- The end of some chunk cuts a character. -/
def CutsSomewhere (chunks : List (List UInt8)) : Prop :=
  ∃ before chunk after, chunks = before ++ chunk :: after ∧ CutsCharacter chunk after.flatten

/-- A cut lies behind the first string or further on. -/
theorem cutsSomewhere_cons_iff {chunk : List UInt8} {rest : List (List UInt8)} :
    CutsSomewhere (chunk :: rest) ↔ CutsCharacter chunk rest.flatten ∨ CutsSomewhere rest := by
  constructor
  · intro hyp
    obtain ⟨before, piece, after, heq, hcut⟩ := hyp
    cases before with
    | nil =>
      obtain ⟨rfl, rfl⟩ := List.cons.inj heq
      exact .inl hcut
    | cons first before =>
      obtain ⟨-, rfl⟩ := List.cons.inj heq
      exact .inr ⟨before, piece, after, rfl, hcut⟩
  · intro hyp
    rcases hyp with hcut | ⟨before, piece, after, rfl, hcut⟩
    · exact ⟨[], chunk, rest, rfl, hcut⟩
    · exact ⟨chunk :: before, piece, after, rfl, hcut⟩

/-- **Chunks read one by one give the text of all their bytes, unless the end of
a chunk cuts a character.** -/
theorem flatMap_ofBytesLossy_eq_iff {chunks : List (List UInt8)} :
    chunks.flatMap ofBytesLossy = ofBytesLossy chunks.flatten ↔ ¬ CutsSomewhere chunks := by
  induction chunks with
  | nil =>
    refine iff_of_true rfl ?_
    intro hyp
    obtain ⟨before, chunk, after, heq, -⟩ := hyp
    exact absurd heq (by simp)
  | cons chunk rest ih =>
    rw [List.flatMap_cons, List.flatten_cons, cutsSomewhere_cons_iff, not_or, ← ih]
    constructor
    · intro heq
      -- A cut here would make the whole shorter, and no chunk behind it makes up for that.
      have hcut : ¬ CutsCharacter chunk rest.flatten := by
        intro hcut
        have hlt := length_ofBytesLossy_append_lt hcut
        have hle := length_ofBytesLossy_flatten_le rest
        rw [← heq, List.length_append] at hlt
        omega
      refine ⟨hcut, ?_⟩
      rw [ofBytesLossy_append hcut] at heq
      exact List.append_cancel_left heq
    · intro hyp
      rw [hyp.2, ofBytesLossy_append hyp.1]

end DomainScope.Text
