/-
  DomainScope.Proofs.Name.Spelling
  ────────────────────────────────
  **LETTER CASE AND THE FINAL DOT MAKE NO DIFFERENCE.**

  The check runs over a name as it was given, and the look-up over its normal
  form.  The two fit together: the first fault that the check meets is the same
  whatever the case of the letters, and the same with a final dot as without,
  since a label is closed at the end of the name by the test that closes it at a
  dot.  So all spellings of a name are split alike, or rejected for one fault.

  Main results
    `fault?_lower`             the fault of a name is that of its small letters
    `fault?_append_dot`        a final dot adds no fault and hides none
    `decompose_respelled`      all spellings of a name have one outcome
-/
import DomainScope.Proofs.Name.Parts

namespace DomainScope

namespace Name

/-! ## §1. Spellings. -/

/-- A character and the same with its case changed, if it is a letter of ASCII. -/
def SameLetter (c d : Char) : Prop := d = c ∨ d = c.toLower ∨ d = c.toUpper

/-- A name and the same with the case of some letters changed. -/
def Respelled (name other : Text) : Prop := List.Forall₂ SameLetter name other

theorem SameLetter.toLower_eq {c d : Char} (h : SameLetter c d) : d.toLower = c.toLower := by
  rcases h with rfl | rfl | rfl
  · rfl
  · exact Char.toLower_toLower_eq_toLower c
  · exact Char.toLower_toUpper_eq_toLower c

/-- All spellings of a name have the same small letters. -/
theorem Respelled.lower_eq {name other : Text} (h : Respelled name other) :
    Text.lower other = Text.lower name := by
  induction h with
  | nil => rfl
  | cons hc _ ih => rw [Text.lower_cons, Text.lower_cons, hc.toLower_eq, ih]

/-! ## §2. The check and letter case. -/

/-- Small letters name as capital ones do. -/
theorem isNaming_toLower (c : Char) : isNaming c.toLower = isNaming c := by
  have hunderscore : (c.toLower = '_') = (c = '_') := propext (Text.toLower_eq_iff (by decide))
  unfold isNaming
  rw [Char.isAlpha_toLower_eq_isAlpha]
  simp only [hunderscore]

/-- A label is closed alike whichever letter it ends with. -/
theorem closeLabel_toLower (last : Char) (length : Nat) :
    closeLabel last.toLower length = closeLabel last length := by
  have hhyphen : (last.toLower = '-') = (last = '-') := propext (Text.toLower_eq_iff (by decide))
  unfold closeLabel
  simp only [hhyphen]

/-- **The walk meets the same fault in small letters.** -/
theorem walk_lower (last : Char) (length : Nat) (named : Bool) (name : Text) :
    walk last.toLower length named (Text.lower name) = walk last length named name := by
  induction name generalizing last length named with
  | nil =>
    rw [Text.lower_nil, walk, walk, closeLabel_toLower]
  | cons c cs ih =>
    -- Each test of the walk asks for a class that case does not change, or for a
    -- character that is no letter.
    have hhyphen : (c.toLower = '-') = (c = '-') := propext (Text.toLower_eq_iff (by decide))
    have hdot : (c.toLower = '.') = (c = '.') := propext (Text.toLower_eq_iff (by decide))
    have hlast : (last.toLower = '.') = (last = '.') := propext (Text.toLower_eq_iff (by decide))
    rw [Text.lower_cons, walk, walk]
    simp only [isNaming_toLower, Text.isDigit_toLower, hhyphen, hdot, hlast, closeLabel_toLower, ih]

theorem badLength_lower (name : Text) : badLength (Text.lower name) = badLength name := by
  have hlast : ((Text.lower name).getLast? = some '.') = (name.getLast? = some '.') :=
    propext (Text.getLast?_lower_eq_some_iff (by decide))
  unfold badLength
  simp only [Text.byteLength_lower, ne_eq, hlast]

/-- A dot has no small letter, so the final one is dropped alike. -/
theorem dropFinalDot_lower (name : Text) :
    dropFinalDot (Text.lower name) = Text.lower (dropFinalDot name) := by
  rcases dropFinalDot_cases name with ⟨body, rfl, hbody⟩ | ⟨hbody, hlast⟩
  · rw [hbody, Text.lower_append]
    exact dropFinalDot_append_dot _
  · rw [hbody]
    exact dropFinalDot_of_getLast?_ne (mt (Text.getLast?_lower_eq_some_iff (by decide)).mp hlast)

theorem lower_eq_dot_iff {name : Text} : Text.lower name = ['.'] ↔ name = ['.'] := by
  cases name with
  | nil => simp
  | cons c cs =>
    rw [Text.lower_cons, List.cons.injEq, List.cons.injEq, Text.lower_eq_nil_iff,
      Text.toLower_eq_iff (by decide)]

/-- **The fault of a name is that of its small letters.** -/
theorem fault?_lower (policy : Policy) (name : Text) :
    fault? policy (Text.lower name) = fault? policy name := by
  have hroot : (Text.lower name = ['.']) = (name = ['.']) := propext lower_eq_dot_iff
  have hhead : ((Text.lower name).head? = some '.') = (name.head? = some '.') :=
    propext (Text.head?_lower_eq_some_iff (by decide))
  have hdots : ('.' ∉ Text.lower (dropFinalDot name)) = ('.' ∉ dropFinalDot name) :=
    propext (not_congr (Text.mem_lower_iff (by decide)))
  have hwalk : walk '.' 0 false (Text.lower name) = walk '.' 0 false name :=
    walk_lower '.' 0 false name
  unfold fault?
  simp only [badLength_lower, hroot, hhead, hwalk, dropFinalDot_lower, hdots]

/-! ## §3. The check and the final dot. -/

/-- **The dot that closes a name closes its last label as the end does.**  The
induction is on what is left to read; `last` stands for what was read before. -/
theorem walk_append_dot {last : Char} {length : Nat} {named : Bool} {name : Text}
    (h : name.getLast?.getD last ≠ '.') :
    walk last length named (name ++ ['.']) = walk last length named name := by
  induction name generalizing last length named with
  | nil =>
    have hlast : last ≠ '.' := h
    show walk last length named ['.'] = walk last length named []
    conv_lhs =>
      rw [walk, if_neg (by decide), if_neg (by decide), if_neg (by decide), if_pos rfl,
        if_neg hlast]
    rfl
  | cons c cs ih =>
    have hrest : cs.getLast?.getD c ≠ '.' := by
      rw [List.getLast?_cons, Option.getD_some] at h
      exact h
    rw [List.cons_append, walk, walk]
    simp only [ih hrest]

/-- A final dot is not counted. -/
theorem badLength_append_dot {name : Text} (hne : name ≠ []) (hlast : name.getLast? ≠ some '.') :
    badLength (name ++ ['.']) = badLength name := by
  have hpos := mt Text.byteLength_eq_zero_iff.mp hne
  have hdot : Text.byteLength ['.'] = 1 := rfl
  have hclosed : (name ++ ['.']).getLast? = some '.' := by simp
  -- One byte more is allowed, and one byte more is there.
  rw [Bool.eq_iff_iff]
  unfold badLength maxLength
  rw [Text.byteLength_append, hdot, hclosed]
  simp [hlast]
  omega

theorem getLast?_getD_ne {name : Text} (hne : name ≠ []) (hlast : name.getLast? ≠ some '.')
    (last : Char) : name.getLast?.getD last ≠ '.' := by
  obtain ⟨front, c, rfl⟩ := (List.eq_nil_or_concat name).resolve_left hne
  simpa using hlast

/-- **A final dot adds no fault and hides none.** -/
theorem fault?_append_dot (policy : Policy) {name : Text} (hne : name ≠ [])
    (hlast : name.getLast? ≠ some '.') : fault? policy (name ++ ['.']) = fault? policy name := by
  obtain ⟨c, cs, rfl⟩ := List.exists_cons_of_ne_nil hne
  have hroot : ¬ c :: cs = ['.'] := by
    intro heq
    rw [heq] at hlast
    exact hlast rfl
  have hrootDot : ¬ c :: cs ++ ['.'] = ['.'] := by simp
  have hhead : (c :: cs ++ ['.']).head? = (c :: cs).head? := rfl
  unfold fault?
  rw [badLength_append_dot hne hlast, if_neg hroot, if_neg hrootDot, hhead,
    walk_append_dot (getLast?_getD_ne hne hlast '.'), dropFinalDot_append_dot,
    dropFinalDot_of_getLast?_ne hlast]

end Name

/-! ## §4. Splitting. -/

namespace Decomposer

open Name (Respelled fault?)

/-- A name is rejected for its fault, and any other name is split by its normal
form alone. -/
theorem decompose_eq (d : Decomposer) (name : Text) :
    d.decompose name =
      match fault? d.policy name with
      | some fault => .error ⟨name, fault⟩
      | none =>
        .ok (if (Name.clean name).isEmpty then {} else
          partsAt (Name.labels (Name.clean name)) (d.suffixLabels (Name.labels (Name.clean name)))) := by
  unfold decompose Name.validate
  cases fault? d.policy name with
  | some fault => rfl
  | none =>
    show (if (Name.clean name).isEmpty then _ else _) = _
    cases (Name.clean name).isEmpty <;> rfl

/-- **All spellings of a name have one outcome**: the same parts, or the same
fault, each reported with the name as it was given. -/
theorem decompose_respelled (d : Decomposer) {name other : Text} (hne : name ≠ [])
    (hlast : name.getLast? ≠ some '.') (h : Respelled name other) :
    (∃ parts, d.decompose name = .ok parts ∧ d.decompose other = .ok parts ∧
        d.decompose (other ++ ['.']) = .ok parts) ∨
      ∃ fault, d.decompose name = .error ⟨name, fault⟩ ∧
        d.decompose other = .error ⟨other, fault⟩ ∧
        d.decompose (other ++ ['.']) = .error ⟨other ++ ['.'], fault⟩ := by
  have hlower := h.lower_eq
  have hneOther : other ≠ [] := by
    rw [ne_eq, ← Text.lower_eq_nil_iff, hlower, Text.lower_eq_nil_iff]
    exact hne
  have hlastOther : other.getLast? ≠ some '.' := by
    rw [ne_eq, ← Text.getLast?_lower_eq_some_iff (by decide), hlower,
      Text.getLast?_lower_eq_some_iff (by decide)]
    exact hlast
  -- All that the splitting goes by is the fault and the normal form: both are the same.
  have hfault : fault? d.policy other = fault? d.policy name := by
    rw [← Name.fault?_lower, hlower, Name.fault?_lower]
  have hfaultDot : fault? d.policy (other ++ ['.']) = fault? d.policy name := by
    rw [Name.fault?_append_dot d.policy hneOther hlastOther, hfault]
  have hclean : Name.clean other = Name.clean name := by
    unfold Name.clean
    rw [Name.dropFinalDot_of_getLast?_ne hlastOther, Name.dropFinalDot_of_getLast?_ne hlast, hlower]
  have hcleanDot : Name.clean (other ++ ['.']) = Name.clean name := by
    rw [← hclean]
    unfold Name.clean
    rw [Name.dropFinalDot_append_dot, Name.dropFinalDot_of_getLast?_ne hlastOther]
  rw [decompose_eq d name, decompose_eq d other, decompose_eq d (other ++ ['.']), hfault, hfaultDot,
    hclean, hcleanDot]
  cases fault? d.policy name with
  | some fault => exact .inr ⟨fault, rfl, rfl, rfl⟩
  | none => exact .inl ⟨_, rfl, rfl, rfl⟩

/-- `Books.Amazon.co.uk` is split like `bOOKS.AMAZON.CO.UK.`, and `a-.com` is
rejected like `A-.Com.`. -/
theorem decompose_respelled_amazon :
    let d : Decomposer := ⟨Fallback.list, {}⟩
    let parts : Parts := ⟨"co.uk".toList, "amazon".toList, "books".toList⟩
    (d.decompose "Books.Amazon.co.uk".toList = .ok parts ∧
      d.decompose "bOOKS.AMAZON.CO.UK.".toList = .ok parts) ∧
    d.decompose "a-.com".toList = .error ⟨"a-.com".toList, .hyphen⟩ ∧
      d.decompose "A-.Com.".toList = .error ⟨"A-.Com.".toList, .hyphen⟩ := by
  intro d parts
  have hspelled : Respelled "Books.Amazon.co.uk".toList "bOOKS.AMAZON.CO.UK".toList := by
    unfold Respelled Name.SameLetter
    decide
  have hspelled' : Respelled "a-.com".toList "A-.Com".toList := by
    unfold Respelled Name.SameLetter
    decide
  have hls : Name.labels (Name.clean "Books.Amazon.co.uk".toList)
      = ["books".toList, "amazon".toList, "co".toList, "uk".toList] := by decide
  have hparts : d.decompose "Books.Amazon.co.uk".toList = .ok parts := by
    rw [decompose_of_valid (by decide) (by decide), hls, suffixLabels_of_isAnswered (by decide)]
    decide
  have hfault : d.decompose "a-.com".toList = .error ⟨"a-.com".toList, .hyphen⟩ := by decide
  refine ⟨⟨hparts, ?_⟩, hfault, ?_⟩
  · rcases decompose_respelled d (by decide) (by decide) hspelled with
      ⟨p, hp, -, hdot⟩ | ⟨fault, herror, -⟩
    · rw [hparts] at hp
      cases hp
      exact hdot
    · rw [hparts] at herror
      cases herror
  · rcases decompose_respelled d (by decide) (by decide) hspelled' with
      ⟨p, hp, -⟩ | ⟨fault, herror, -, hdot⟩
    · rw [hfault] at hp
      cases hp
    · rw [hfault] at herror
      cases herror
      exact hdot

end Decomposer

end DomainScope
