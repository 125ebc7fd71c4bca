/-
  DomainScope.Proofs.Name.FirstFault
  ──────────────────────────────────
  **THE CHECK REPORTS THE FIRST RULE THAT A NAME BREAKS.**

  A text usually breaks several rules at once.  Which one is reported is said
  here without a pass over the text: the bytes of a name have positions, at a
  position something can be wrong for one of four reasons, and the fault at the
  smallest position is the one reported, after the rules on the length, the root
  and the first byte, and before the rules on the name as a whole.

  The pass carries three pieces of state; they are the last byte, the length and
  the letters of what stands before the position reached (`walkFrom`).  A position
  where nothing is wrong is passed over, and one where something is wrong ends the
  pass, so the pass ends at the first one.

  Main results
    `FirstWrong.walk_eq`         the pass stops at the first thing wrong
    `walk_eq_ok`                 and at the end if nothing is
    `validate_first_broken`      the check fails with the first rule broken, and
                                 succeeds if none is
-/
import DomainScope.Proofs.Name.Bytes
import Mathlib.Data.List.DropRight
import Mathlib.Data.Nat.Find

namespace DomainScope.Name

namespace Bytes

/-! ## §1. What is wrong at a position. -/

/-- The label that is open behind some bytes: what follows their last dot. -/
def openLabel (front : List UInt8) : List UInt8 := front.rtakeWhile (· ≠ dot)

/-- A label begins at a position: at the start, and right behind a dot. -/
def Begins (bytes : List UInt8) (i : Nat) : Prop := i = 0 ∨ bytes[i - 1]? = some dot

/-- A label is closed at a position: by the dot that stands there, or by the end. -/
def Closes (bytes : List UInt8) (i : Nat) : Prop := bytes[i]? = some dot ∨ i = bytes.length

/-- A byte that can stand in a name: of an ASCII letter or digit, `_`, `-` or `.`. -/
def IsNameByte (b : UInt8) : Prop :=
  (Char.ofNat b.toNat).isAlphanum ∨ b = underscore ∨ b = hyphen ∨ b = dot

/-- What is wrong at a position of a row of bytes. -/
inductive WrongAt (bytes : List UInt8) (i : Nat) : Fault → Prop where
  /-- A byte stands there that stands in no name. -/
  | character {b : UInt8} (here : bytes[i]? = some b) (bad : ¬ IsNameByte b) :
      WrongAt bytes i .character
  /-- A label begins there, with a hyphen. -/
  | firstHyphen (here : bytes[i]? = some hyphen) (begins : Begins bytes i) :
      WrongAt bytes i .hyphen
  /-- A label is closed there that ends in a hyphen. -/
  | lastHyphen (closes : Closes bytes i)
      (ends : (openLabel (bytes.take i)).getLast? = some hyphen) : WrongAt bytes i .hyphen
  /-- A dot stands there right behind a dot. -/
  | emptyLabel (here : bytes[i]? = some dot) (pos : i ≠ 0) (before : bytes[i - 1]? = some dot) :
      WrongAt bytes i .emptyLabel
  /-- A label is closed there that has more than 63 bytes. -/
  | labelLength (closes : Closes bytes i) (long : 63 < (openLabel (bytes.take i)).length) :
      WrongAt bytes i .labelLength

/-- The fault at the smallest position where something is wrong; where a label is
closed, a hyphen comes before a length. -/
structure FirstWrong (bytes : List UInt8) (i : Nat) (f : Fault) : Prop where
  wrong : WrongAt bytes i f
  least : ∀ j g, WrongAt bytes j g → i ≤ j
  hyphen_first : f = .labelLength → ¬ WrongAt bytes i .hyphen

/-- If something is wrong somewhere, something is wrong first. -/
theorem exists_firstWrong {bytes : List UInt8} (h : ∃ i f, WrongAt bytes i f) :
    ∃ i f, FirstWrong bytes i f := by
  classical
  obtain ⟨f, hf⟩ := Nat.find_spec h
  have hleast : ∀ j g, WrongAt bytes j g → Nat.find h ≤ j := fun j g hg => Nat.find_min' h ⟨g, hg⟩
  by_cases hhyphen : WrongAt bytes (Nat.find h) .hyphen
  · exact ⟨_, .hyphen, hhyphen, hleast, fun heq => absurd heq (by decide)⟩
  · exact ⟨_, f, hf, hleast, fun _ => hhyphen⟩

/-! ## §2. The first rule broken. -/

/-- A length that no name has. -/
def BadLength (bytes : List UInt8) : Prop :=
  bytes = [] ∨ 254 < bytes.length ∨ bytes.length = 254 ∧ bytes.getLast? ≠ some dot

/-- The names whose bytes are looked at one after the other. -/
structure IsRead (bytes : List UInt8) : Prop where
  length : ¬ BadLength bytes
  ne_root : bytes ≠ [dot]
  head_ne : bytes.head? ≠ some dot

/-- A name at whose bytes nothing is wrong. -/
structure IsClean (bytes : List UInt8) : Prop extends IsRead bytes where
  not_wrong : ∀ i f, ¬ WrongAt bytes i f

/-- A single label, where one is not enough. -/
def IsBare (policy : Policy) (bytes : List UInt8) : Prop :=
  policy.acceptsRootAndBareTld = false ∧ dot ∉ dropFinalDot bytes

instance (policy : Policy) (bytes : List UInt8) : Decidable (IsBare policy bytes) :=
  inferInstanceAs (Decidable (_ ∧ _))

/-- A rule is broken, and none of the rules before it is. -/
inductive FirstBroken (policy : Policy) (bytes : List UInt8) : Fault → Prop where
  | length (bad : BadLength bytes) : FirstBroken policy bytes .length
  /-- Where the policy accepts the root, it breaks no rule at all. -/
  | root (length : ¬ BadLength bytes) (root : bytes = [dot])
      (strict : policy.acceptsRootAndBareTld = false) : FirstBroken policy bytes .root
  | leadingDot (length : ¬ BadLength bytes) (ne_root : bytes ≠ [dot])
      (head : bytes.head? = some dot) : FirstBroken policy bytes .leadingDot
  | atByte (read : IsRead bytes) {i : Nat} {f : Fault} (first : FirstWrong bytes i f) :
      FirstBroken policy bytes f
  | bareTld (clean : IsClean bytes) (bare : IsBare policy bytes) :
      FirstBroken policy bytes .bareTld
  | numeric (clean : IsClean bytes) (not_bare : ¬ IsBare policy bytes)
      (unnamed : ∀ b ∈ bytes, (Char.ofNat b.toNat).isAlpha = false ∧ b ≠ underscore) :
      FirstBroken policy bytes .numeric

/-! ## §3. What the pass knows at a position. -/

variable {front rest bytes : List UInt8} {b : UInt8} {f : Fault}

/-- The byte read last: at the start, a label begins as it does behind a dot. -/
def lastByte (front : List UInt8) : UInt8 := front.getLast?.getD dot

/-- The pass over what is left, with what it knows of the bytes before. -/
def walkFrom (front rest : List UInt8) : Except Fault Bool :=
  walk (lastByte front) (openLabel front).length (front.any isNaming) rest

@[simp] theorem lastByte_concat : lastByte (front ++ [b]) = b := by simp [lastByte]

theorem openLabel_concat_of_ne (h : b ≠ dot) :
    openLabel (front ++ [b]) = openLabel front ++ [b] :=
  List.rtakeWhile_concat_pos _ _ _ (by simpa using h)

@[simp] theorem openLabel_concat_dot : openLabel (front ++ [dot]) = [] :=
  List.rtakeWhile_concat_neg _ _ _ (by simp)

theorem walkFrom_concat_of_ne (h : b ≠ dot) : walkFrom (front ++ [b]) rest
    = walk b ((openLabel front).length + 1) (front.any isNaming || isNaming b) rest := by
  unfold walkFrom
  rw [lastByte_concat, openLabel_concat_of_ne h, List.length_append, List.any_append]
  simp

theorem walkFrom_concat_dot :
    walkFrom (front ++ [dot]) rest = walk dot 0 (front.any isNaming) rest := by
  unfold walkFrom
  have hdot : isNaming dot = false := by decide
  rw [lastByte_concat, openLabel_concat_dot, List.any_append]
  simp [hdot]

/-- No label is open at the start and right behind a dot. -/
theorem openLabel_eq_nil_iff : openLabel front = [] ↔ lastByte front = dot := by
  rcases List.eq_nil_or_concat front with rfl | ⟨front, c, rfl⟩
  · simp [openLabel, lastByte]
  · rw [List.concat_eq_append, lastByte_concat]
    by_cases hc : c = dot
    · simp [hc]
    · simp [openLabel_concat_of_ne hc, hc]

theorem getLast?_openLabel_iff (h : b ≠ dot) :
    (openLabel front).getLast? = some b ↔ lastByte front = b := by
  rcases List.eq_nil_or_concat front with rfl | ⟨front, c, rfl⟩
  · simp [openLabel, lastByte, h.symm]
  · rw [List.concat_eq_append, lastByte_concat]
    by_cases hc : c = dot
    · simp [hc, h.symm]
    · simp [openLabel_concat_of_ne hc]

theorem begins_iff : Begins (front ++ rest) front.length ↔ lastByte front = dot := by
  rcases List.eq_nil_or_concat front with rfl | ⟨front, c, rfl⟩
  · simp [Begins, lastByte]
  · simp [Begins]

theorem getElem?_cut (front rest : List UInt8) : (front ++ rest)[front.length]? = rest.head? := by
  rw [List.getElem?_append_right (Nat.le_refl _), Nat.sub_self, List.head?_eq_getElem?]

theorem closes_iff : Closes (front ++ rest) front.length ↔ rest.head? = some dot ∨ rest = [] := by
  unfold Closes
  rw [getElem?_cut, List.length_append, ← List.length_eq_zero_iff]
  refine or_congr_right ?_
  omega

/-! ## §4. One position. -/

theorem isNaming_eq_true_iff :
    ∀ b : UInt8, isNaming b = true ↔ (Char.ofNat b.toNat).isAlpha ∨ b = underscore :=
  forall_byte (by decide +kernel)

/-- The kinds of bytes that the pass tells apart. -/
theorem isNameByte_iff :
    IsNameByte b ↔ isNaming b = true ∨ isDigit b = true ∨ b = hyphen ∨ b = dot := by
  unfold IsNameByte Char.isAlphanum
  rw [isNaming_eq_true_iff, isDigit_eq, Bool.or_eq_true]
  tauto

/-- A label that cannot be closed ends the pass where it is closed. -/
theorem walkFrom_of_closes (hcloses : Closes (front ++ rest) front.length)
    (hlast : lastByte front ≠ dot)
    (hf : closeLabel (lastByte front) (openLabel front).length = some f) :
    walkFrom front rest = .error f := by
  unfold walkFrom
  rcases closes_iff.mp hcloses with hhead | rfl
  · obtain ⟨rest', rfl⟩ := List.head?_eq_some_iff.mp hhead
    rw [walk, if_neg (by decide), if_neg (by decide), if_neg (by decide), if_pos rfl, if_neg hlast,
      hf]
  · rw [walk, hf]

/-- **Where something is wrong, the pass ends.** -/
theorem WrongAt.walkFrom_eq (h : WrongAt (front ++ rest) front.length f)
    (hfirst : f = .labelLength → ¬ WrongAt (front ++ rest) front.length .hyphen) :
    walkFrom front rest = .error f := by
  cases h with
  | character here bad =>
    rw [getElem?_cut] at here
    obtain ⟨rest', rfl⟩ := List.head?_eq_some_iff.mp here
    simp only [isNameByte_iff, not_or] at bad
    obtain ⟨hnaming, hdigit, hhyphen, hdot⟩ := bad
    rw [walkFrom, walk, if_neg hnaming, if_neg hdigit, if_neg hhyphen, if_neg hdot]
  | firstHyphen here begins =>
    rw [getElem?_cut] at here
    obtain ⟨rest', rfl⟩ := List.head?_eq_some_iff.mp here
    rw [walkFrom, walk, if_neg (by decide), if_neg (by decide), if_pos rfl,
      if_pos (begins_iff.mp begins)]
  | lastHyphen closes ends =>
    rw [List.take_left, getLast?_openLabel_iff (by decide)] at ends
    refine walkFrom_of_closes closes (by rw [ends]; decide) ?_
    rw [closeLabel, if_pos ends]
  | emptyLabel here pos before =>
    rw [getElem?_cut] at here
    obtain ⟨rest', rfl⟩ := List.head?_eq_some_iff.mp here
    rw [walkFrom, walk, if_neg (by decide), if_neg (by decide), if_neg (by decide), if_pos rfl,
      if_pos (begins_iff.mp (.inr before))]
  | labelLength closes long =>
    rw [List.take_left] at long
    have hhyphen : lastByte front ≠ hyphen := by
      intro hlast
      refine hfirst rfl (.lastHyphen closes ?_)
      rw [List.take_left, getLast?_openLabel_iff (by decide), hlast]
    -- Behind a dot no label is open, and so none is too long.
    have hdot : lastByte front ≠ dot := by
      intro hlast
      rw [openLabel_eq_nil_iff.mpr hlast] at long
      exact absurd long (by decide)
    have hlength : (openLabel front).length > maxLabelLength := long
    refine walkFrom_of_closes closes hdot ?_
    rw [closeLabel, if_neg hhyphen, if_pos hlength]

/-- Where nothing is wrong, a label that is closed can be. -/
theorem closeLabel_eq_none (h : ∀ f, ¬ WrongAt (front ++ rest) front.length f)
    (hcloses : Closes (front ++ rest) front.length) :
    closeLabel (lastByte front) (openLabel front).length = none := by
  have hhyphen : lastByte front ≠ hyphen := by
    intro hlast
    refine h _ (.lastHyphen hcloses ?_)
    rw [List.take_left, getLast?_openLabel_iff (by decide), hlast]
  have hlength : ¬ (openLabel front).length > maxLabelLength := by
    intro hlong
    refine h _ (.labelLength hcloses ?_)
    rwa [List.take_left]
  rw [closeLabel, if_neg hhyphen, if_neg hlength]

/-- **Where nothing is wrong, the pass goes on.** -/
theorem walkFrom_cons (hhead : (front ++ b :: rest).head? ≠ some dot)
    (h : ∀ f, ¬ WrongAt (front ++ b :: rest) front.length f) :
    walkFrom front (b :: rest) = walkFrom (front ++ [b]) rest := by
  have here : (front ++ b :: rest)[front.length]? = some b := getElem?_cut front (b :: rest)
  have hbyte : IsNameByte b := not_not.mp fun bad => h _ (.character here bad)
  by_cases hdot : b = dot
  · subst hdot
    have hlast : lastByte front ≠ dot := by
      intro hlast
      -- A dot at the start is left to the rule on the first byte.
      by_cases hzero : front.length = 0
      · rw [List.length_eq_zero_iff.mp hzero] at hhead
        exact hhead rfl
      · have hbegins : Begins (front ++ dot :: rest) front.length := begins_iff.mpr hlast
        exact h _ (.emptyLabel here hzero (hbegins.resolve_left hzero))
    have hclose := closeLabel_eq_none h (.inl here)
    rw [walkFrom_concat_dot, walkFrom, walk, if_neg (by decide), if_neg (by decide),
      if_neg (by decide), if_pos rfl, if_neg hlast, hclose]
  · rw [walkFrom_concat_of_ne hdot, walkFrom, walk]
    by_cases hnaming : isNaming b = true
    · rw [if_pos hnaming, hnaming, Bool.or_true]
    · have hnamed : (front.any isNaming || isNaming b) = front.any isNaming := by simp [hnaming]
      rw [if_neg hnaming, hnamed]
      by_cases hdigit : isDigit b = true
      · rw [if_pos hdigit]
      · -- Of the bytes of a name only the hyphen is left.
        obtain rfl : b = hyphen := by
          rcases isNameByte_iff.mp hbyte with h | h | h | h
          · exact absurd h hnaming
          · exact absurd h hdigit
          · exact h
          · exact absurd h hdot
        have hlast : lastByte front ≠ dot :=
          fun hlast => h _ (.firstHyphen here (begins_iff.mpr hlast))
        rw [if_neg hdigit, if_pos rfl, if_neg hlast]

/-! ## §5. The whole pass. -/

/-- Something can be wrong at a byte and at the end, and at no other position. -/
theorem WrongAt.le_length {i : Nat} (h : WrongAt bytes i f) : i ≤ bytes.length := by
  have hcloses : Closes bytes i → i ≤ bytes.length := by
    intro h
    rcases h with here | rfl
    · exact (List.getElem?_eq_some_iff.mp here).1.le
    · exact Nat.le_refl _
  cases h with
  | character here bad => exact (List.getElem?_eq_some_iff.mp here).1.le
  | firstHyphen here begins => exact (List.getElem?_eq_some_iff.mp here).1.le
  | lastHyphen closes ends => exact hcloses closes
  | emptyLabel here pos before => exact (List.getElem?_eq_some_iff.mp here).1.le
  | labelLength closes long => exact hcloses closes

/-- The pass from a position on stops at the first thing wrong, if nothing is wrong
before. -/
theorem FirstWrong.walkFrom_eq {i : Nat} (hhead : (front ++ rest).head? ≠ some dot)
    (h : FirstWrong (front ++ rest) i f) (hle : front.length ≤ i) :
    walkFrom front rest = .error f := by
  induction rest generalizing front with
  | nil =>
    have hi : i = front.length := by
      have hlength := h.wrong.le_length
      rw [List.append_nil] at hlength
      omega
    subst hi
    exact h.wrong.walkFrom_eq h.hyphen_first
  | cons b rest ih =>
    by_cases hi : i = front.length
    · subst hi
      exact h.wrong.walkFrom_eq h.hyphen_first
    · have hnot : ∀ g, ¬ WrongAt (front ++ b :: rest) front.length g :=
        fun g hg => hi (Nat.le_antisymm (h.least _ g hg) hle)
      have hcut : front ++ b :: rest = (front ++ [b]) ++ rest := by simp
      rw [walkFrom_cons hhead hnot]
      rw [hcut] at h hhead
      refine ih hhead h ?_
      rw [List.length_append, List.length_singleton]
      omega

/-- The pass from a position on reaches the end if nothing is wrong. -/
theorem walkFrom_eq_ok (hhead : (front ++ rest).head? ≠ some dot)
    (h : ∀ i f, ¬ WrongAt (front ++ rest) i f) :
    walkFrom front rest = .ok ((front ++ rest).any isNaming) := by
  induction rest generalizing front with
  | nil =>
    have hclose := closeLabel_eq_none (h _) (closes_iff.mpr (.inr rfl))
    rw [walkFrom, walk, hclose, List.append_nil]
  | cons b rest ih =>
    have hcut : front ++ b :: rest = (front ++ [b]) ++ rest := by simp
    rw [walkFrom_cons hhead (h _)]
    rw [hcut] at h hhead ⊢
    exact ih hhead h

/-- **The pass stops at the first thing wrong.** -/
theorem FirstWrong.walk_eq {i : Nat} (hhead : bytes.head? ≠ some dot)
    (h : FirstWrong bytes i f) : walk dot 0 false bytes = .error f :=
  @FirstWrong.walkFrom_eq [] bytes f i hhead h (Nat.zero_le i)

/-- **It reaches the end if nothing is wrong**, and tells whether a byte names. -/
theorem walk_eq_ok (hhead : bytes.head? ≠ some dot) (h : ∀ i f, ¬ WrongAt bytes i f) :
    walk dot 0 false bytes = .ok (bytes.any isNaming) :=
  @walkFrom_eq_ok [] bytes hhead h

/-! ## §6. The whole check. -/

variable {policy : Policy}

theorem badLength_iff : badLength bytes = true ↔ BadLength bytes := by
  unfold badLength BadLength maxLength
  simp only [Bool.or_eq_true, Bool.and_eq_true, decide_eq_true_eq, List.length_eq_zero_iff,
    or_assoc]

theorem any_isNaming_eq_false_iff : bytes.any isNaming = false ↔
    ∀ b ∈ bytes, (Char.ofNat b.toNat).isAlpha = false ∧ b ≠ underscore := by
  rw [List.any_eq_false]
  refine forall₂_congr fun b _ => ?_
  rw [isNaming_eq_true_iff, not_or, Bool.not_eq_true]

theorem FirstWrong.fault?_eq {i : Nat} (hread : IsRead bytes) (h : FirstWrong bytes i f) :
    fault? policy bytes = some f := by
  rw [fault?, if_neg (mt badLength_iff.mp hread.length), if_neg hread.ne_root,
    if_neg hread.head_ne, h.walk_eq hread.head_ne]

theorem IsClean.fault?_eq (h : IsClean bytes) : fault? policy bytes =
    if IsBare policy bytes then some .bareTld
    else if bytes.any isNaming = false then some .numeric
    else none := by
  rw [fault?, if_neg (mt badLength_iff.mp h.length), if_neg h.ne_root, if_neg h.head_ne,
    walk_eq_ok h.head_ne h.not_wrong]
  rfl

/-- The check finds the first rule broken. -/
theorem FirstBroken.fault?_eq (h : FirstBroken policy bytes f) :
    fault? policy bytes = some f := by
  cases h with
  | length bad => rw [fault?, if_pos (badLength_iff.mpr bad)]
  | root length root strict =>
    rw [fault?, if_neg (mt badLength_iff.mp length), if_pos root, strict]
    rfl
  | leadingDot length ne_root head =>
    rw [fault?, if_neg (mt badLength_iff.mp length), if_neg ne_root, if_pos head]
  | atByte read first => exact first.fault?_eq read
  | bareTld clean bare => rw [clean.fault?_eq, if_pos bare]
  | numeric clean not_bare unnamed =>
    rw [clean.fault?_eq, if_neg not_bare, if_pos (any_isNaming_eq_false_iff.mpr unnamed)]

/-- If no rule is broken first, the check finds none. -/
theorem fault?_eq_none (h : ∀ f, ¬ FirstBroken policy bytes f) : fault? policy bytes = none := by
  have hlength : ¬ BadLength bytes := fun bad => h _ (.length bad)
  by_cases hroot : bytes = [dot]
  · have haccepts : policy.acceptsRootAndBareTld = true :=
      Bool.eq_true_of_not_eq_false fun strict => h _ (.root hlength hroot strict)
    rw [fault?, if_neg (mt badLength_iff.mp hlength), if_pos hroot, if_pos haccepts]
  · have hread : IsRead bytes := ⟨hlength, hroot, fun head => h _ (.leadingDot hlength hroot head)⟩
    have hclean : IsClean bytes := by
      refine ⟨hread, fun i f hf => ?_⟩
      obtain ⟨i, f, hfirst⟩ := exists_firstWrong ⟨i, f, hf⟩
      exact h _ (.atByte hread hfirst)
    have hbare : ¬ IsBare policy bytes := fun bare => h _ (.bareTld hclean bare)
    have hnamed := fun unnamed => h _ (.numeric hclean hbare unnamed)
    rw [hclean.fault?_eq, if_neg hbare, if_neg (mt any_isNaming_eq_false_iff.mp hnamed)]

theorem fault?_eq_some_iff : fault? policy bytes = some f ↔ FirstBroken policy bytes f := by
  constructor
  · intro hf
    -- Some rule is broken first, and the check finds that one.
    by_contra hnot
    by_cases h : ∃ g, FirstBroken policy bytes g
    · obtain ⟨g, hg⟩ := h
      cases hf.symm.trans hg.fault?_eq
      exact hnot hg
    · rw [fault?_eq_none (not_exists.mp h)] at hf
      exact absurd hf (by simp)
  · exact FirstBroken.fault?_eq

end Bytes

/-- **The check fails with the name and the first rule that its bytes break, and
succeeds if they break none.** -/
theorem validate_first_broken (policy : Policy) (name : Text) :
    (∀ e, validate policy name = .error e ↔
      e.name = name ∧ Bytes.FirstBroken policy (Text.toBytes name) e.fault) ∧
    (validate policy name = .ok () ↔ ∀ f, ¬ Bytes.FirstBroken policy (Text.toBytes name) f) := by
  unfold validate
  simp only [← Bytes.fault?_eq_some_iff, Bytes.fault?_toBytes]
  cases fault? policy name with
  | none => simp
  | some fault =>
    constructor
    · intro e
      cases e
      simp [eq_comm]
    · simp

/-- The last label is empty, a character is no letter, and the label before both
ends in a hyphen: that is found first. -/
example : validate {} "a-..é".toList = .error ⟨"a-..é".toList, .hyphen⟩ := by decide

end DomainScope.Name
