/-
  DomainScope.Proofs.Name.Bytes
  ─────────────────────────────
  **THE BYTES OF A NAME ARE CHECKED LIKE ITS CHARACTERS.**

  A byte below 128 is a character of its own, and none of the bytes of a longer
  character is below 128.  So a byte tells as much as a character does about
  letters, digits, hyphens and dots, and at a longer character both passes stop
  with the same fault.

  Main results
    `walk_toBytes`      the pass over the bytes of a text ends like the walk
                        through its characters
    `fault?_toBytes`    so do the whole checks
-/
import DomainScope.Name.Bytes
import DomainScope.Proofs.Name.Accepted
import DomainScope.Proofs.Text.Utf8
import Mathlib.Tactic.SplitIfs

namespace DomainScope.Name.Bytes

open Text (toBytes)

/-! ## §1. Characters of one byte and of more. -/

/-- A character below 128 is a byte of its own. -/
theorem encode_of_lt {c : Char} (h : c.toNat < 128) :
    String.utf8EncodeChar c = [UInt8.ofNat c.toNat] := by
  rw [Text.encode_eq, if_pos (by omega)]

/-- No byte of another character is below 128. -/
theorem le_toNat_of_mem_encode {c : Char} (h : 128 ≤ c.toNat) {b : UInt8}
    (hb : b ∈ String.utf8EncodeChar c) : 128 ≤ b.toNat := by
  rw [Text.encode_eq, if_neg (by omega)] at hb
  split_ifs at hb
  all_goals
    simp only [List.mem_cons, List.not_mem_nil, or_false, ← UInt8.toNat_inj,
      UInt8.toNat_ofNat'] at hb
    omega

/-! ## §2. What a byte tells. -/

/-- A property of every byte is one of 256 numbers. -/
theorem forall_byte {p : UInt8 → Prop} (h : ∀ n < 256, p (UInt8.ofNat n)) (b : UInt8) : p b := by
  have hb := h b.toNat b.toNat_lt
  rwa [UInt8.ofNat_toNat] at hb

/-- A byte names where the character of the same number does. -/
theorem isNaming_eq : ∀ b : UInt8, isNaming b = Name.isNaming (Char.ofNat b.toNat) :=
  forall_byte (by decide +kernel)

/-- It is a digit where the character is one. -/
theorem isDigit_eq : ∀ b : UInt8, isDigit b = (Char.ofNat b.toNat).isDigit :=
  forall_byte (by decide +kernel)

section OneByte

variable {c : Char} (h : c.toNat < 128)
include h

theorem ofNat_toNat_of_lt : Char.ofNat (UInt8.ofNat c.toNat).toNat = c := by
  rw [UInt8.toNat_ofNat', Nat.mod_eq_of_lt (by omega), Char.ofNat_toNat]

theorem isNaming_of_lt : isNaming (UInt8.ofNat c.toNat) = Name.isNaming c := by
  rw [isNaming_eq, ofNat_toNat_of_lt h]

theorem isDigit_of_lt : isDigit (UInt8.ofNat c.toNat) = c.isDigit := by
  rw [isDigit_eq, ofNat_toNat_of_lt h]

/-- The byte of a character is that of the dot only if the character is the dot. -/
theorem ofNat_eq_dot_iff : UInt8.ofNat c.toNat = dot ↔ c = '.' := by
  rw [Text.ofNat_eq_iff, Nat.mod_eq_of_lt (by omega), ← Char.toNat_inj]
  rfl

theorem ofNat_eq_hyphen_iff : UInt8.ofNat c.toNat = hyphen ↔ c = '-' := by
  rw [Text.ofNat_eq_iff, Nat.mod_eq_of_lt (by omega), ← Char.toNat_inj]
  rfl

/-- A label is closed alike behind a byte below 128 and behind its character. -/
theorem closeLabel_of_lt (length : Nat) :
    closeLabel (UInt8.ofNat c.toNat) length = Name.closeLabel c length := by
  unfold closeLabel Name.closeLabel
  simp only [ofNat_eq_hyphen_iff h]

end OneByte

/-- A byte from 128 on is none that a name holds. -/
theorem other_of_le : ∀ b : UInt8, 128 ≤ b.toNat →
    isNaming b = false ∧ isDigit b = false ∧ b ≠ hyphen ∧ b ≠ dot :=
  forall_byte (by decide +kernel)

/-- Such a byte ends the pass. -/
theorem walk_cons_of_le {b : UInt8} (h : 128 ≤ b.toNat) (last : UInt8) (length : Nat)
    (named : Bool) (bs : List UInt8) : walk last length named (b :: bs) = .error .character := by
  obtain ⟨hnaming, hdigit, hhyphen, hdot⟩ := other_of_le b h
  rw [walk, hnaming, hdigit, if_neg hhyphen, if_neg hdot]
  rfl

/-- A character of more than one byte ends the walk. -/
theorem nameWalk_cons_of_le {c : Char} (h : 128 ≤ c.toNat) (last : Char) (length : Nat)
    (named : Bool) (cs : Text) : Name.walk last length named (c :: cs) = .error .character := by
  have hlabel : ¬ IsLabelChar c := by
    intro hc
    have hsize := Char.utf8Size_eq_one_iff.mp hc.utf8Size_eq_one
    rw [UInt32.le_iff_toNat_le] at hsize
    exact absurd h (Nat.not_le.mpr (Nat.lt_succ_of_le hsize))
  have hdot : c ≠ '.' := by
    intro heq
    subst heq
    exact absurd h (by decide)
  simp only [IsLabelChar, Char.isAlphanum, Bool.or_eq_true, not_or] at hlabel
  obtain ⟨⟨halpha, hdigit⟩, hunderscore, hhyphen⟩ := hlabel
  have hnaming : ¬ Name.isNaming c := by simp [Name.isNaming, halpha, hunderscore]
  rw [Name.walk, if_neg hnaming, if_neg hdigit, if_neg hhyphen, if_neg hdot]

/-! ## §3. The two passes. -/

/-- **The pass over the bytes of a text ends like the walk through its characters.** -/
theorem walk_toBytes {last : Char} (hlast : last.toNat < 128) (length : Nat) (named : Bool)
    (t : Text) :
    walk (UInt8.ofNat last.toNat) length named (toBytes t) = Name.walk last length named t := by
  induction t generalizing last length named with
  | nil =>
    show walk _ length named [] = _
    unfold walk Name.walk
    cases hclose : Name.closeLabel last length with
    | none => rw [closeLabel_of_lt hlast, hclose]
    | some fault => rw [closeLabel_of_lt hlast, hclose]
  | cons c cs ih =>
    rw [Text.toBytes_cons]
    by_cases hc : c.toNat < 128
    · rw [encode_of_lt hc, List.singleton_append, walk, Name.walk, isNaming_of_lt hc,
        isDigit_of_lt hc, closeLabel_of_lt hlast]
      simp only [ofNat_eq_dot_iff hc, ofNat_eq_hyphen_iff hc, ofNat_eq_dot_iff hlast]
      cases Name.closeLabel last length with
      | none => simp only [ih hc]
      | some fault => simp only [ih hc]
    · -- The first byte of the character is enough.
      obtain ⟨b, bs, hbytes⟩ := List.exists_cons_of_ne_nil (@String.utf8EncodeChar_ne_nil c)
      have hb : 128 ≤ b.toNat :=
        le_toNat_of_mem_encode (by omega) (hbytes ▸ List.mem_cons_self)
      rw [hbytes, List.cons_append, walk_cons_of_le hb, nameWalk_cons_of_le (by omega)]

/-! ## §4. The dots of a text. -/

/-- The byte of the dot stands for nothing but the dot. -/
theorem dot_mem_encode_iff {c : Char} : dot ∈ String.utf8EncodeChar c ↔ c = '.' := by
  by_cases hc : c.toNat < 128
  · rw [encode_of_lt hc, List.mem_singleton, eq_comm, ofNat_eq_dot_iff hc]
  · constructor
    · intro hmem
      exact absurd (le_toNat_of_mem_encode (by omega) hmem) (by decide)
    · intro heq
      exact absurd (heq ▸ hc) (by decide)

theorem dot_mem_toBytes_iff {t : Text} : dot ∈ toBytes t ↔ '.' ∈ t := by
  unfold toBytes
  simp [dot_mem_encode_iff]

/-- The bytes of a text are as many as its length in bytes says. -/
theorem length_toBytes (t : Text) : (toBytes t).length = Text.byteLength t := by
  induction t with
  | nil => rfl
  | cons c cs ih =>
    rw [Text.toBytes_cons, List.length_append, String.length_utf8EncodeChar, ih,
      Text.byteLength_cons]

theorem toBytes_eq_nil_iff {t : Text} : toBytes t = [] ↔ t = [] := by
  rw [← List.length_eq_zero_iff, length_toBytes, Text.byteLength_eq_zero_iff]

theorem toBytes_concat_dot (t : Text) : toBytes (t ++ ['.']) = toBytes t ++ [dot] :=
  List.flatMap_append

/-- The bytes of a text begin with a dot if the text does. -/
theorem head?_toBytes_iff {t : Text} : (toBytes t).head? = some dot ↔ t.head? = some '.' := by
  cases t with
  | nil => simp [toBytes]
  | cons c cs =>
    rw [Text.toBytes_cons, List.head?_append_of_ne_nil _ String.utf8EncodeChar_ne_nil,
      List.head?_cons, Option.some.injEq]
    constructor
    · intro h
      exact dot_mem_encode_iff.mp (List.mem_of_head? h)
    · intro h
      subst h
      rfl

/-- They end in one if the text does, since no longer character has that byte at
its end. -/
theorem getLast?_toBytes_iff {t : Text} :
    (toBytes t).getLast? = some dot ↔ t.getLast? = some '.' := by
  rcases List.eq_nil_or_concat t with rfl | ⟨front, c, rfl⟩
  · simp [toBytes]
  · have hbytes : toBytes (front ++ [c]) = toBytes front ++ String.utf8EncodeChar c := by
      unfold toBytes
      rw [List.flatMap_append, List.flatMap_singleton]
    rw [List.concat_eq_append, hbytes,
      List.getLast?_append_of_ne_nil _ String.utf8EncodeChar_ne_nil, List.getLast?_concat,
      Option.some.injEq]
    constructor
    · intro h
      exact dot_mem_encode_iff.mp (List.mem_of_getLast? h)
    · intro h
      subst h
      rfl

/-- The root name is the one text with the dot as its only byte. -/
theorem toBytes_eq_dot_iff {t : Text} : toBytes t = [dot] ↔ t = ['.'] := by
  constructor
  · intro h
    have hhead : t.head? = some '.' := head?_toBytes_iff.mp (by rw [h]; rfl)
    obtain ⟨cs, rfl⟩ := List.head?_eq_some_iff.mp hhead
    have hcs : toBytes cs = [] := (List.cons.inj h).2
    rw [toBytes_eq_nil_iff.mp hcs]
  · intro h
    subst h
    rfl

/-! ## §5. The whole check. -/

/-- Lengths are counted in bytes on both sides. -/
theorem badLength_toBytes (t : Text) : badLength (toBytes t) = Name.badLength t := by
  unfold badLength Name.badLength
  simp only [length_toBytes, ne_eq, getLast?_toBytes_iff]

/-- Dropping the final dot leaves the bytes of the text without it. -/
theorem dropFinalDot_toBytes (t : Text) :
    dropFinalDot (toBytes t) = toBytes (Name.dropFinalDot t) := by
  unfold dropFinalDot
  rcases dropFinalDot_cases t with ⟨body, rfl, hbody⟩ | ⟨hbody, hlast⟩
  · rw [hbody, toBytes_concat_dot, List.getLast?_concat, if_pos rfl, List.dropLast_concat]
  · rw [hbody, if_neg (mt getLast?_toBytes_iff.mp hlast)]

/-- **A text breaks a rule if its bytes do, and it is the same rule.** -/
theorem fault?_toBytes (policy : Policy) (t : Text) :
    fault? policy (toBytes t) = Name.fault? policy t := by
  unfold fault? Name.fault?
  have hwalk : walk dot 0 false (toBytes t) = Name.walk '.' 0 false t :=
    @walk_toBytes '.' (by decide) 0 false t
  simp only [badLength_toBytes, toBytes_eq_dot_iff, head?_toBytes_iff, dropFinalDot_toBytes,
    dot_mem_toBytes_iff]
  cases hname : Name.walk '.' 0 false t with
  | error fault => simp only [hwalk, hname]
  | ok named => simp only [hwalk, hname]

end DomainScope.Name.Bytes
