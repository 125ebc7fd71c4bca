/-
  DomainScope.Proofs.Address.Written
  ──────────────────────────────────
  **ADDRESSES READ BACK.**

  Every address is read back from its written form.  An IPv4 address is four
  octets, and an IPv6 address eight groups; the groups are written in three
  ways.  All of them may stand between colons, a run of zeros may be left out,
  and a mapped IPv4 address ends in its dotted form.  The reader tells them
  apart by the first `::`, which stands where the run is left out and nowhere
  else.

  Main results
    `readDotted?_dotted`       four octets
    `readGroups?_compressed`   eight groups, with a run of zeros left out or not
    `read?_write`              every address
    `isAddressChar_of_read?`   what is read holds digits, dots and colons
-/
import DomainScope.Address.Written
import DomainScope.Proofs.Text.Numeral
import Mathlib.Data.List.TakeWhile
import Mathlib.Tactic.Ring

namespace DomainScope.Address

open Text

/-! ## §1. Digits of a word. -/

theorem length_digitsOf (base count n : Nat) : (digitsOf base count n).length = count := by
  induction count generalizing n with
  | zero => rfl
  | succ count ih => rw [digitsOf, List.length_append, ih, List.length_singleton]

theorem lt_of_mem_digitsOf {base : Nat} (hpos : 0 < base) (count n : Nat) :
    ∀ d ∈ digitsOf base count n, d < base := by
  induction count generalizing n with
  | zero => simp [digitsOf]
  | succ count ih =>
    intro d hd
    rcases List.mem_append.mp hd with hd | hd
    · exact ih _ d hd
    · rw [List.mem_singleton.mp hd]
      exact Nat.mod_lt _ hpos

/-- Digits continue a number as its lowest ones. -/
theorem foldl_digitsOf (base count n start : Nat) :
    (digitsOf base count n).foldl (fun n d => n * base + d) start
      = start * base ^ count + n % base ^ count := by
  induction count generalizing n with
  | zero => simp [digitsOf, Nat.mod_one]
  | succ count ih =>
    rw [digitsOf, List.foldl_append, ih, List.foldl_cons, List.foldl_nil, Nat.pow_succ',
      Nat.mod_mul]
    ring

/-- A number is made up again of its digits, if there is room for all of them. -/
theorem ofDigits_digitsOf {base count n : Nat} (h : n < base ^ count) :
    ofDigits base (digitsOf base count n) = n := by
  unfold ofDigits
  rw [foldl_digitsOf, Nat.zero_mul, Nat.zero_add, Nat.mod_eq_of_lt h]

/-- Four octets make up an IPv4 address again. -/
theorem ofDigits_octets (bits : BitVec 32) : ofDigits 0x100 (octets bits) = bits.toNat :=
  ofDigits_digitsOf bits.isLt

/-- Eight groups make up an IPv6 address again. -/
theorem ofDigits_groups (bits : BitVec 128) : ofDigits 0x10000 (groups bits) = bits.toNat :=
  ofDigits_digitsOf bits.isLt

/-! ## §2. Numerals. -/

/-- A character that is no digit is in no numeral. -/
theorem not_mem_toDigits {base : Nat} {c : Char} (hpos : 1 < base) (hbase : base ≤ 16)
    (hc : digitValue? base c = none) (n : Nat) : c ∉ Nat.toDigits base n := by
  intro hmem
  obtain ⟨d, hd⟩ := isDigit_toDigits hpos hbase n c hmem
  rw [hc] at hd
  cases hd

/-! ## §3. The dotted form. -/

/-- An octet is read back: its numeral has no leading zero and three digits at most. -/
theorem readOctet?_decimal {n : Nat} (h : n < 0x100) : readOctet? (decimal n) = some n := by
  have hlength : (decimal n).length ≤ 3 := (Nat.length_toDigits_le_iff (by decide) (by decide)).mpr
    (by omega)
  have hzero : ¬ ((decimal n).length > 1 ∧ (decimal n).head? = some '0') := by
    intro hyp
    obtain ⟨hlong, hhead⟩ := hyp
    by_cases hn : n = 0
    · subst hn
      exact absurd hlong (by decide)
    · exact head?_toDigits_ne (by decide) (Nat.pos_of_ne_zero hn) hhead
  unfold readOctet?
  rw [if_neg, boundedNumeral?_decimal (by omega)]
  simp only [Bool.or_eq_true, Bool.and_eq_true, decide_eq_true_eq, not_or]
  exact ⟨by omega, hzero⟩

/-- A row of texts is read if each of them is. -/
theorem mapM_map_eq_some {α β : Type} {f : β → Option α} {g : α → β} {xs : List α}
    (h : ∀ x ∈ xs, f (g x) = some x) : (xs.map g).mapM f = some xs := by
  induction xs with
  | nil => rfl
  | cons x xs ih =>
    obtain ⟨hx, hxs⟩ := List.forall_mem_cons.mp h
    simp [hx, ih hxs]

/-- **Four octets are read back from their dotted form.** -/
theorem readDotted?_dotted {os : List Nat} (hlength : os.length = 4) (h : ∀ o ∈ os, o < 0x100) :
    readDotted? (dotted os) = some os := by
  have hsplit : (dotted os).splitOn '.' = os.map decimal := by
    refine List.splitOn_intercalate '.' ?_ ?_
    · intro piece hpiece
      obtain ⟨o, -, rfl⟩ := List.mem_map.mp hpiece
      exact not_mem_toDigits (by decide) (by decide) rfl o
    · intro hnil
      rw [List.map_eq_nil_iff.mp hnil] at hlength
      cases hlength
  unfold readDotted?
  simp only [hsplit, List.length_map, hlength, if_true]
  exact mapM_map_eq_some fun o ho => readOctet?_decimal (h o ho)

/-- The octets of an address are small enough, whatever the address. -/
theorem readDotted?_octets (bits : BitVec 32) :
    readDotted? (dotted (octets bits)) = some (octets bits) :=
  readDotted?_dotted (length_digitsOf _ _ _) (lt_of_mem_digitsOf (by decide) _ _)

/-! ## §4. Groups between colons. -/

/-- A group is read back: it has four digits at most. -/
theorem readGroup?_hexadecimal {g : Nat} (h : g < 0x10000) :
    readGroup? (hexadecimal g) = some g := by
  have hlength : (hexadecimal g).length ≤ 4 :=
    (Nat.length_toDigits_le_iff (by decide) (by decide)).mpr (by omega)
  unfold readGroup?
  rw [if_neg (by omega)]
  exact numeral?_toDigits (by decide) (by decide) g

theorem readPieces?_map_hexadecimal {gs : List Nat} (h : ∀ g ∈ gs, g < 0x10000) :
    readPieces? (gs.map hexadecimal) = some gs := by
  induction gs with
  | nil => rfl
  | cons g gs ih =>
    obtain ⟨hg, hgs⟩ := List.forall_mem_cons.mp h
    have hdot : '.' ∉ hexadecimal g := not_mem_toDigits (by decide) (by decide) rfl g
    cases gs with
    | nil => simp [readPieces?, hdot, readGroup?_hexadecimal hg]
    | cons g' gs =>
      have hrest := ih hgs
      rw [List.map_cons] at hrest
      simp [readPieces?, readGroup?_hexadecimal hg, hrest]

theorem colonForm_cons {gs : List Nat} (g : Nat) (h : gs ≠ []) :
    colonForm (g :: gs) = hexadecimal g ++ ':' :: colonForm gs := by
  unfold colonForm
  rw [List.map_cons, List.intercalate_cons_of_ne_nil (by simpa using h), List.append_assoc]
  rfl

theorem colonForm_singleton (g : Nat) : colonForm [g] = hexadecimal g := by
  simp [colonForm]

/-- Groups in writing begin with a digit. -/
theorem head?_colonForm_append_ne {gs : List Nat} (h : gs ≠ []) (t : Text) :
    (colonForm gs ++ t).head? ≠ some ':' := by
  obtain ⟨g, gs, rfl⟩ := List.exists_cons_of_ne_nil h
  have hcolon : ':' ∉ hexadecimal g := not_mem_toDigits (by decide) (by decide) rfl g
  obtain ⟨d, ds, hd⟩ := List.exists_cons_of_ne_nil (@Nat.toDigits_ne_nil g 16)
  have hhex : hexadecimal g = d :: ds := hd
  rw [hhex] at hcolon
  have hne : d ≠ ':' := fun heq => hcolon (by simp [heq])
  by_cases hgs : gs = []
  · subst hgs
    rw [colonForm_singleton, hhex]
    simpa using hne
  · rw [colonForm_cons g hgs, hhex]
    simpa using hne

theorem colonForm_ne_nil {gs : List Nat} (h : gs ≠ []) : colonForm gs ≠ [] := by
  obtain ⟨g, gs, rfl⟩ := List.exists_cons_of_ne_nil h
  by_cases hgs : gs = []
  · subst hgs
    rw [colonForm_singleton]
    exact Nat.toDigits_ne_nil
  · rw [colonForm_cons g hgs]
    simp

/-- Groups in writing are cut at the colons into their numerals. -/
theorem splitOn_colonForm {gs : List Nat} (h : gs ≠ []) :
    (colonForm gs).splitOn ':' = gs.map hexadecimal := by
  refine List.splitOn_intercalate ':' ?_ (by simpa using h)
  intro piece hpiece
  obtain ⟨g, -, rfl⟩ := List.mem_map.mp hpiece
  exact not_mem_toDigits (by decide) (by decide) rfl g

/-- **Groups with colons between them are read back**, however many there are. -/
theorem readColonForm?_colonForm {gs : List Nat} (h : ∀ g ∈ gs, g < 0x10000) :
    readColonForm? (colonForm gs) = some gs := by
  by_cases hgs : gs = []
  · subst hgs
    rfl
  · unfold readColonForm?
    rw [if_neg (by simpa using colonForm_ne_nil hgs), splitOn_colonForm hgs,
      readPieces?_map_hexadecimal h]

theorem dot_not_mem_colonForm (gs : List Nat) : '.' ∉ colonForm gs := by
  intro hmem
  rcases mem_intercalate hmem with h | ⟨piece, hpiece, hdot⟩
  · cases h
  · obtain ⟨g, -, rfl⟩ := List.mem_map.mp hpiece
    exact not_mem_toDigits (by decide) (by decide) rfl g hdot

/-! ## §5. The first gap. -/

/-- A gap begins at a colon only if another one follows. -/
theorem splitGap?_cons {c : Char} {t : Text} (h : c = ':' → t.head? ≠ some ':') :
    splitGap? (c :: t) = (splitGap? t).map fun p => (c :: p.1, p.2) := by
  rw [splitGap?.eq_def]
  split
  next heq =>
    cases heq
    exact absurd rfl (h rfl)
  next heq =>
    cases heq
    rfl
  next heq => cases heq

/-- In a text that holds no colon no gap begins. -/
theorem splitGap?_append {t : Text} (h : ':' ∉ t) (rest : Text) :
    splitGap? (t ++ rest) = (splitGap? rest).map fun p => (t ++ p.1, p.2) := by
  induction t with
  | nil => simp
  | cons c cs ih =>
    obtain ⟨hc, hcs⟩ := not_or.mp (mt List.mem_cons.mpr h)
    rw [List.cons_append, splitGap?_cons fun heq => absurd heq.symm hc, ih hcs, Option.map_map]
    rfl

/-- There is no gap between groups. -/
theorem splitGap?_colonForm_append (gs : List Nat) {t : Text} (h : splitGap? t = none) :
    splitGap? (colonForm gs ++ t) = none := by
  induction gs with
  | nil => exact h
  | cons g gs ih =>
    have hcolon : ':' ∉ hexadecimal g := not_mem_toDigits (by decide) (by decide) rfl g
    by_cases hgs : gs = []
    · subst hgs
      rw [colonForm_singleton, splitGap?_append hcolon, h]
      rfl
    · rw [colonForm_cons g hgs, List.append_assoc, splitGap?_append hcolon, List.cons_append,
        splitGap?_cons fun _ => head?_colonForm_append_ne hgs t, ih]
      rfl

/-- A text without a gap stays in front of the first one that follows it, also
if it ends where the gap begins. -/
theorem splitGap?_append_gap {t : Text} (h : splitGap? (t ++ [':']) = none) (rest : Text) :
    splitGap? (t ++ ':' :: ':' :: rest) = some (t, rest) := by
  induction t with
  | nil => rfl
  | cons c cs ih =>
    have hnext : c = ':' → (cs ++ [':']).head? ≠ some ':' := by
      intro hc hhead
      subst hc
      obtain ⟨ds, hds⟩ := List.head?_eq_some_iff.mp hhead
      rw [List.cons_append, hds] at h
      cases h
    have hnext' : c = ':' → (cs ++ ':' :: ':' :: rest).head? ≠ some ':' := by
      intro hc
      have hhead := hnext hc
      cases cs with
      | nil => exact absurd rfl hhead
      | cons d ds => exact hhead
    rw [List.cons_append, splitGap?_cons hnext, Option.map_eq_none_iff] at h
    rw [List.cons_append, splitGap?_cons hnext', ih h]
    rfl

/-- Without a run left out there is no gap. -/
theorem splitGap?_colonForm (gs : List Nat) : splitGap? (colonForm gs) = none := by
  have h := splitGap?_colonForm_append gs (show splitGap? [] = none from rfl)
  rwa [List.append_nil] at h

/-- **The gap stands where the run is left out.** -/
theorem splitGap?_colonForm_gap (gs : List Nat) (rest : Text) :
    splitGap? (colonForm gs ++ ':' :: ':' :: rest) = some (colonForm gs, rest) :=
  splitGap?_append_gap (splitGap?_colonForm_append gs rfl) rest

/-! ## §6. The run of zeros left out. -/

/-- The run counted at the beginning of some groups is one of zeros. -/
theorem exists_zeroRun (gs : List Nat) :
    ∃ back, gs = List.replicate (zeroRun gs) 0 ++ back := by
  have hrun : gs.takeWhile (· = 0) = List.replicate (zeroRun gs) 0 := by
    refine List.eq_replicate_iff.mpr ⟨rfl, ?_⟩
    intro g hg
    simpa using List.mem_takeWhile_imp hg
  refine ⟨gs.dropWhile (· = 0), ?_⟩
  rw [← hrun, List.takeWhile_append_dropWhile]

/-- The longest run of zeros is a run of zeros at its place. -/
theorem exists_longestRun (at_ : Nat) (gs : List Nat) :
    ∃ front back, gs = front ++ (List.replicate (longestRun at_ gs).2 0 ++ back) ∧
      (longestRun at_ gs).1 = at_ + front.length := by
  induction gs generalizing at_ with
  | nil => exact ⟨[], [], rfl, rfl⟩
  | cons g gs ih =>
    rw [longestRun]
    split
    · obtain ⟨front, back, hgs, hplace⟩ := ih (at_ + 1)
      refine ⟨g :: front, back, ?_, ?_⟩
      · rw [List.cons_append, ← hgs]
      · rw [hplace, List.length_cons]
        omega
    · obtain ⟨back, hback⟩ := exists_zeroRun (g :: gs)
      exact ⟨[], back, hback, rfl⟩

/-- The written form of groups, with no zero left out, or two at least. -/
theorem compressed_cases (gs : List Nat) :
    compressed gs = colonForm gs ∨
      ∃ front zeros back, 2 ≤ zeros ∧ gs = front ++ (List.replicate zeros 0 ++ back) ∧
        compressed gs = colonForm front ++ ':' :: ':' :: colonForm back := by
  obtain ⟨front, back, hgs, hplace⟩ := exists_longestRun 0 gs
  unfold compressed
  split
  next place zeros hrun =>
    rw [hrun] at hgs hplace
    have hfront : place = front.length := by omega
    split
    · exact .inl rfl
    next hlong =>
      refine .inr ⟨front, zeros, back, by omega, hgs, ?_⟩
      have htake : gs.take place = front := by rw [hgs, hfront, List.take_left]
      have hdrop : gs.drop (place + zeros) = back := by
        rw [hgs, ← List.drop_drop, List.drop_left' hfront.symm, List.drop_left' (by simp)]
      rw [htake, hdrop, List.append_assoc]
      rfl

/-- **Eight groups are read back**, with a run of zeros left out or not. -/
theorem readGroups?_compressed {gs : List Nat} (hlength : gs.length = 8)
    (h : ∀ g ∈ gs, g < 0x10000) : readGroups? (compressed gs) = some gs := by
  rcases compressed_cases gs with hform | ⟨front, zeros, back, hzeros, rfl, hform⟩
  · unfold readGroups?
    rw [hform, splitGap?_colonForm, readColonForm?_colonForm h]
    simp [hlength]
  · have hfront : ∀ g ∈ front, g < 0x10000 := fun g hg => h g (by simp [hg])
    have hback : ∀ g ∈ back, g < 0x10000 := fun g hg => h g (by simp [hg])
    have hmissing : 8 - (front.length + back.length) = zeros := by
      simp only [List.length_append, List.length_replicate] at hlength
      omega
    unfold readGroups?
    rw [hform, splitGap?_colonForm_gap]
    simp only [dot_not_mem_colonForm, if_false, readColonForm?_colonForm hfront,
      readColonForm?_colonForm hback, hmissing, Option.bind_eq_bind, Option.bind_some]
    rw [if_neg (by omega)]
    simp

/-! ## §7. What is read. -/

/-- A character of a written address. -/
def IsAddressChar (c : Char) : Prop := c = '.' ∨ c = ':' ∨ IsDigit 16 c

instance (c : Char) : Decidable (IsAddressChar c) := inferInstanceAs (Decidable (_ ∨ _ ∨ _))

theorem isDigit_of_readOctet? {t : Text} {n : Nat} (h : readOctet? t = some n) :
    ∀ c ∈ t, IsDigit 10 c := by
  unfold readOctet? at h
  split at h
  · cases h
  · exact (isDigit_of_boundedNumeral? h).1

theorem exists_of_mapM_eq_some {α β : Type} {f : α → Option β} {xs : List α} {ys : List β}
    (h : xs.mapM f = some ys) : ∀ x ∈ xs, ∃ y, f x = some y := by
  induction xs generalizing ys with
  | nil => simp
  | cons x xs ih =>
    simp only [List.mapM_cons, Option.bind_eq_bind, Option.bind_eq_some_iff] at h
    obtain ⟨y, hy, ys', hys, -⟩ := h
    exact List.forall_mem_cons.mpr ⟨⟨y, hy⟩, ih hys⟩

/-- What is read as octets holds digits and dots only. -/
theorem isDigit_of_readDotted? {t : Text} {os : List Nat} (h : readDotted? t = some os) :
    ∀ c ∈ t, c = '.' ∨ IsDigit 10 c := by
  simp only [readDotted?] at h
  split at h
  · intro c hc
    rcases mem_splitOn hc with hdot | ⟨piece, hpiece, hmem⟩
    · exact .inl hdot
    · obtain ⟨o, ho⟩ := exists_of_mapM_eq_some h piece hpiece
      exact .inr (isDigit_of_readOctet? ho c hmem)
  · cases h

theorem isDigit_of_readGroup? {t : Text} {n : Nat} (h : readGroup? t = some n) :
    ∀ c ∈ t, IsDigit 16 c := by
  unfold readGroup? at h
  split at h
  · cases h
  · exact isDigit_of_numeral? h

/-- The pieces between colons hold digits, and the last one perhaps dots. -/
theorem isDigit_of_readPieces? {pieces : List Text} {gs : List Nat}
    (h : readPieces? pieces = some gs) :
    ∀ piece ∈ pieces, ∀ c ∈ piece, c = '.' ∨ IsDigit 16 c := by
  fun_induction readPieces? pieces generalizing gs with
  | case1 => simp
  | case2 last hdot =>
    obtain ⟨os, hos, -⟩ := Option.map_eq_some_iff.mp h
    intro piece hpiece c hc
    rw [List.mem_singleton.mp hpiece] at hc
    exact (isDigit_of_readDotted? hos c hc).imp_right (IsDigit.mono (by decide))
  | case3 last hdot =>
    obtain ⟨g, hg, -⟩ := Option.map_eq_some_iff.mp h
    intro piece hpiece c hc
    rw [List.mem_singleton.mp hpiece] at hc
    exact .inr (isDigit_of_readGroup? hg c hc)
  | case4 piece rest hrest ih =>
    simp only [Option.bind_eq_bind, Option.bind_eq_some_iff] at h
    obtain ⟨g, hg, gs', hgs, -⟩ := h
    exact List.forall_mem_cons.mpr ⟨fun c hc => .inr (isDigit_of_readGroup? hg c hc), ih hgs⟩

theorem isAddressChar_of_readColonForm? {t : Text} {gs : List Nat}
    (h : readColonForm? t = some gs) : ∀ c ∈ t, IsAddressChar c := by
  unfold readColonForm? at h
  split at h
  next hempty =>
    rw [List.isEmpty_iff.mp hempty]
    simp
  · intro c hc
    rcases mem_splitOn hc with hcolon | ⟨piece, hpiece, hmem⟩
    · exact .inr (.inl hcolon)
    · exact (isDigit_of_readPieces? h piece hpiece c hmem).imp_right .inr

/-- What is cut at a gap is put together again with two colons. -/
theorem eq_of_splitGap? {t before after : Text} (h : splitGap? t = some (before, after)) :
    t = before ++ ':' :: ':' :: after := by
  fun_induction splitGap? t generalizing before with
  | case1 rest =>
    cases h
    rfl
  | case2 c rest _ ih =>
    obtain ⟨p, hp, heq⟩ := Option.map_eq_some_iff.mp h
    cases heq
    rw [List.cons_append, ← ih hp]
  | case3 => cases h

theorem isAddressChar_of_readGroups? {t : Text} {gs : List Nat} (h : readGroups? t = some gs) :
    ∀ c ∈ t, IsAddressChar c := by
  unfold readGroups? at h
  split at h
  · exact isAddressChar_of_readColonForm? (Option.filter_eq_some_iff.mp h).1
  next before after hgap =>
    split at h
    · cases h
    · simp only [Option.bind_eq_bind, Option.bind_eq_some_iff] at h
      obtain ⟨front, hfront, back, hback, -⟩ := h
      rw [eq_of_splitGap? hgap]
      intro c hc
      rcases List.mem_append.mp hc with hc | hc
      · exact isAddressChar_of_readColonForm? hfront c hc
      · rcases List.mem_cons.mp hc with hc | hc
        · exact .inr (.inl hc)
        · rcases List.mem_cons.mp hc with hc | hc
          · exact .inr (.inl hc)
          · exact isAddressChar_of_readColonForm? hback c hc

theorem isDigit_of_readV4? {t : Text} {a : Address} (h : readV4? t = some a) :
    ∀ c ∈ t, c = '.' ∨ IsDigit 10 c := by
  obtain ⟨os, hos, -⟩ := Option.map_eq_some_iff.mp h
  exact isDigit_of_readDotted? hos

/-- **An address that is read holds digits, dots and colons only.** -/
theorem isAddressChar_of_read? {t : Text} {a : Address} (h : read? t = some a) :
    ∀ c ∈ t, IsAddressChar c := by
  intro c hc
  rcases Option.or_eq_some_iff.mp h with h4 | ⟨-, h6⟩
  · exact (isDigit_of_readV4? h4 c hc).imp_right fun hdigit => .inr (hdigit.mono (by decide))
  · obtain ⟨gs, hgs, -⟩ := Option.map_eq_some_iff.mp h6
    exact isAddressChar_of_readGroups? hgs c hc

/-! ## §8. Mapped addresses. -/

/-- The six groups in front of a mapped IPv4 address. -/
def mappedFront : List Nat := [0, 0, 0, 0, 0, 0xFFFF]

theorem colon_not_mem_dotted (bits : BitVec 32) : ':' ∉ dotted (octets bits) :=
  fun hmem => absurd (isDigit_of_readDotted? (readDotted?_octets bits) ':' hmem) (by decide)

theorem dot_mem_dotted (bits : BitVec 32) : '.' ∈ dotted (octets bits) := by
  simp [dotted, octets, digitsOf, List.intercalate_cons_cons]

/-- The dotted form of four octets closes eight groups. -/
theorem readGroups?_mapped (bits : BitVec 32) :
    readGroups? ("::ffff:".toList ++ dotted (octets bits))
      = some (mappedFront ++ digitsOf 0x10000 2 bits.toNat) := by
  have hgap : splitGap? ("::ffff:".toList ++ dotted (octets bits))
      = some ([], "ffff".toList ++ ':' :: dotted (octets bits)) := rfl
  -- In front of the gap stands nothing, behind it one group and the dotted form.
  have hsplit : ("ffff".toList ++ ':' :: dotted (octets bits)).splitOn ':'
      = ["ffff".toList, dotted (octets bits)] := by
    rw [List.splitOn_append_cons_self_of_not_mem (by decide),
      List.splitOn_eq_singleton (colon_not_mem_dotted bits)]
  have hlast : readPieces? [dotted (octets bits)] = some (digitsOf 0x10000 2 bits.toNat) := by
    simp [readPieces?, dot_mem_dotted, readDotted?_octets, ofDigits_octets]
  have hgroup : readGroup? "ffff".toList = some 0xFFFF := by decide
  have hpieces : readPieces? ["ffff".toList, dotted (octets bits)]
      = some (0xFFFF :: digitsOf 0x10000 2 bits.toNat) := by
    show (readGroup? "ffff".toList >>= fun g =>
      readPieces? [dotted (octets bits)] >>= fun gs => pure (g :: gs)) = _
    rw [hgroup, hlast]
    rfl
  have hback : readColonForm? ("ffff".toList ++ ':' :: dotted (octets bits))
      = some (0xFFFF :: digitsOf 0x10000 2 bits.toNat) := by
    unfold readColonForm?
    rw [if_neg (by simp), hsplit, hpieces]
  have hfront : readColonForm? [] = some [] := rfl
  unfold readGroups?
  rw [hgap]
  simp only [List.not_mem_nil, if_false, hfront, hback, Option.bind_eq_bind, Option.bind_some,
    List.length_nil, List.length_cons, length_digitsOf]
  rfl

/-- An address that maps an IPv4 address is made up of six fixed groups and that
address. -/
theorem ofDigits_mapped {bits : BitVec 128} {inner : BitVec 32} (h : mapped? bits = some inner) :
    ofDigits 0x10000 (mappedFront ++ digitsOf 0x10000 2 inner.toNat) = bits.toNat := by
  unfold mapped? at h
  split at h
  next hbase =>
    cases h
    have hfront : mappedFront.foldl (fun n d => n * 0x10000 + d) 0 = 0xFFFF := by decide
    rw [Nat.shiftRight_eq_div_pow, Nat.shiftLeft_eq] at hbase
    simp only [mappedBase, Nat.shiftLeft_eq] at hbase
    have hpow : 0x10000 ^ 2 = 2 ^ 32 := by norm_num
    unfold ofDigits
    rw [List.foldl_append, hfront, foldl_digitsOf, BitVec.toNat_ofNat, hpow, Nat.mod_mod, ← hbase,
      Nat.div_add_mod']
  next => cases h

/-! ## §9. Every address. -/

/-- No text with a colon is an IPv4 address. -/
theorem readV4?_eq_none {t : Text} (h : ':' ∈ t) : readV4? t = none := by
  rw [Option.eq_none_iff_forall_ne_some]
  intro a ha
  exact absurd (isDigit_of_readV4? ha ':' h) (by decide)

/-- The written form of two groups or more has a colon. -/
theorem colon_mem_compressed {gs : List Nat} (h : 2 ≤ gs.length) : ':' ∈ compressed gs := by
  rcases compressed_cases gs with hform | ⟨front, zeros, back, -, -, hform⟩
  · obtain ⟨g, gs, rfl⟩ := List.exists_cons_of_length_pos (by omega : 0 < gs.length)
    have hgs : gs ≠ [] := by
      rintro rfl
      simp at h
    rw [hform, colonForm_cons g hgs]
    simp
  · rw [hform]
    simp

/-- **Every address is read back from its written form.** -/
theorem read?_write (a : Address) : read? a.write = some a := by
  cases a with
  | v4 bits =>
    have hread : readV4? (write (.v4 bits)) = some (.v4 bits) := by
      show (readDotted? (dotted (octets bits))).map _ = _
      rw [readDotted?_octets, Option.map_some, ofDigits_octets]
      exact congrArg some (ofValue_value (.v4 bits))
    unfold read?
    rw [hread]
    rfl
  | v6 bits =>
    have hread : ∀ gs, readGroups? (write (.v6 bits)) = some gs →
        ofDigits 0x10000 gs = bits.toNat → ':' ∈ write (.v6 bits) →
          read? (write (.v6 bits)) = some (.v6 bits) := by
      intro gs hgs hvalue hcolon
      unfold read? readV6?
      rw [readV4?_eq_none hcolon, hgs, Option.map_some, hvalue]
      exact congrArg some (ofValue_value (.v6 bits))
    -- An address that maps an IPv4 address ends in its dotted form; all others are groups.
    cases hmapped : mapped? bits with
    | some inner =>
      have hwrite : write (.v6 bits) = "::ffff:".toList ++ dotted (octets inner) := by
        simp only [write, hmapped]
      rw [hwrite] at hread ⊢
      exact hread _ (readGroups?_mapped inner) (ofDigits_mapped hmapped) (by simp)
    | none =>
      have hwrite : write (.v6 bits) = compressed (groups bits) := by
        simp only [write, hmapped]
      have hlength : (groups bits).length = 8 := length_digitsOf _ _ _
      rw [hwrite] at hread ⊢
      exact hread _ (readGroups?_compressed hlength (lt_of_mem_digitsOf (by decide) _ _))
        (ofDigits_groups bits) (colon_mem_compressed (by omega))

end DomainScope.Address
