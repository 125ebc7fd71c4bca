/-
  DomainScope.Proofs.Name.Accepted
  ────────────────────────────────
  **THE CHECK ACCEPTS EXACTLY THE NAMES.**

  What a name is, said on its labels and not through the walk of the check:
  labels of 1 to 63 bytes joined by dots, 253 bytes at most, some letter or
  underscore, and two labels unless the policy is content with one.  The walk
  carries three pieces of state; they are the last character, the length and the
  letters of what has been read since the last dot (`walk_eq_ok_iff`).

  Main results
    `walk_eq_ok_iff`         the walk accepts labels and tells whether they name
    `validate_accepts_iff`   the check succeeds on the root name, where the
                             policy accepts it, and on names, and on nothing else
-/
import DomainScope.Name.Validate
import DomainScope.Proofs.Name.Labels
import DomainScope.Proofs.Text.Lower

namespace DomainScope.Name

/-! ## §1. What a name is. -/

/-- A character that can stand in a label. -/
def IsLabelChar (c : Char) : Prop := c.isAlphanum ∨ c = '_' ∨ c = '-'

instance (c : Char) : Decidable (IsLabelChar c) := inferInstanceAs (Decidable (_ ∨ _ ∨ _))

/-- A label: 1 to 63 bytes of letters, digits, underscores and hyphens, with no
hyphen at its ends. -/
structure IsNameLabel (label : Text) : Prop where
  length_pos : 1 ≤ Text.byteLength label
  length_le : Text.byteLength label ≤ maxLabelLength
  chars : ∀ c ∈ label, IsLabelChar c
  head_ne : label.head? ≠ some '-'
  last_ne : label.getLast? ≠ some '-'

/-- A name without final dot: its labels joined by dots. -/
structure IsName (policy : Policy) (ls : List Text) : Prop where
  length_pos : 1 ≤ Text.byteLength (ofLabels ls)
  length_le : Text.byteLength (ofLabels ls) ≤ maxLength
  areLabels : ∀ label ∈ ls, IsNameLabel label
  two_labels : policy.acceptsRootAndBareTld = false → 2 ≤ ls.length
  named : ∃ c ∈ ofLabels ls, c.isAlpha ∨ c = '_'

/-! ## §2. Labels as the walk closes them. -/

theorem IsLabelChar.ne_dot {c : Char} (h : IsLabelChar c) : c ≠ '.' := by
  intro heq
  subst heq
  revert h
  unfold IsLabelChar
  decide

theorem IsNameLabel.ne_nil {label : Text} (h : IsNameLabel label) : label ≠ [] := by
  intro heq
  subst heq
  exact absurd h.length_pos (by simp)

theorem IsNameLabel.not_mem_dot {label : Text} (h : IsNameLabel label) : '.' ∉ label :=
  fun hmem => (h.chars '.' hmem).ne_dot rfl

theorem IsLabelChar.utf8Size_eq_one {c : Char} (h : IsLabelChar c) : c.utf8Size = 1 := by
  rcases h with h | rfl | rfl
  · exact Text.utf8Size_of_isAlphanum h
  · decide
  · decide

/-- Labels are in ASCII, so their bytes are their characters. -/
theorem byteLength_eq_length {t : Text} (h : ∀ c ∈ t, IsLabelChar c) :
    Text.byteLength t = t.length := by
  induction t with
  | nil => rfl
  | cons c cs ih =>
    obtain ⟨hc, hcs⟩ := List.forall_mem_cons.mp h
    rw [Text.byteLength_cons, ih hcs, hc.utf8Size_eq_one, List.length_cons]
    omega

/-- Letters and digits alone have no bad ends. -/
theorem isNameLabel_of_isAlphanum {label : Text} (hpos : 1 ≤ Text.byteLength label)
    (hle : Text.byteLength label ≤ maxLabelLength) (hchars : ∀ c ∈ label, c.isAlphanum) :
    IsNameLabel label := by
  have hhyphen : '-' ∉ label := by
    intro hmem
    exact absurd (hchars '-' hmem) (by decide)
  refine ⟨hpos, hle, fun c hc => .inl (hchars c hc), ?_, ?_⟩
  · exact fun he => hhyphen (List.mem_of_head? he)
  · exact fun he => hhyphen (List.mem_of_getLast? he)

/-- The last character read: the label so far begins after a dot. -/
def lastRead (label : Text) : Char := label.getLast?.getD '.'

@[simp] theorem lastRead_concat (label : Text) (c : Char) : lastRead (label ++ [c]) = c := by
  simp [lastRead]

/-- In a label the last character read is a dot only if nothing of the label was read. -/
theorem lastRead_eq_dot_iff {label : Text} (h : ∀ c ∈ label, IsLabelChar c) :
    lastRead label = '.' ↔ label = [] := by
  rcases List.eq_nil_or_concat label with rfl | ⟨front, c, rfl⟩
  · simp [lastRead]
  · simpa using (h c (by simp)).ne_dot

/-- A label that begins well is one if the walk can close it. -/
theorem closeLabel_eq_none_iff {label : Text} (hne : label ≠ [])
    (hchars : ∀ c ∈ label, IsLabelChar c) (hhead : label.head? ≠ some '-') :
    closeLabel (lastRead label) label.length = none ↔ IsNameLabel label := by
  -- Only the last character and the length are left to look at.
  obtain ⟨front, c, rfl⟩ := (List.eq_nil_or_concat label).resolve_left hne
  rw [List.concat_eq_append] at *
  have hlen := byteLength_eq_length hchars
  rw [lastRead_concat]
  unfold closeLabel
  constructor
  · intro h
    split at h
    · exact absurd h (by simp)
    next hlast =>
      split at h
      · exact absurd h (by simp)
      next hle =>
        refine ⟨?_, ?_, hchars, hhead, ?_⟩
        · rw [hlen]
          simp
        · rw [hlen]
          omega
        · simpa using hlast
  · intro h
    have hlast : c ≠ '-' := by
      have := h.last_ne
      simpa using this
    have hle := h.length_le
    rw [hlen] at hle
    rw [if_neg hlast, if_neg (by omega)]

/-! ## §3. The walk. -/

/-- Labels of which the last may be empty: the end of a name with a final dot. -/
def AreClosed : List Text → Prop
  | [] => True
  | [label] => label = [] ∨ IsNameLabel label
  | label :: next :: ls => IsNameLabel label ∧ AreClosed (next :: ls)

/-- A label in front of others is closed by the dot behind it. -/
theorem areClosed_cons {ls : List Text} (label : Text) (h : ls ≠ []) :
    AreClosed (label :: ls) ↔ IsNameLabel label ∧ AreClosed ls := by
  obtain ⟨next, ls, rfl⟩ := List.exists_cons_of_ne_nil h
  rfl

/-- All labels but the last are closed; that one may be empty. -/
theorem areClosed_concat (ls : List Text) (label : Text) :
    AreClosed (ls ++ [label]) ↔ (∀ l ∈ ls, IsNameLabel l) ∧ (label = [] ∨ IsNameLabel label) := by
  induction ls with
  | nil => simp [AreClosed]
  | cons l ls ih =>
    rw [List.cons_append, areClosed_cons l (by simp), ih, List.forall_mem_cons, and_assoc]

/-- A first label that begins badly is closed by nothing that follows. -/
theorem not_areClosed {front name : Text} {c : Char} (hfront : '.' ∉ front) (hc : c ≠ '.')
    (hbad : ∀ rest, ¬ IsNameLabel (front ++ c :: rest)) :
    ¬ AreClosed (labels (front ++ c :: name)) := by
  obtain ⟨l, ls, hls⟩ := List.exists_cons_of_ne_nil (labels_ne_nil name)
  rw [labels_append hfront, labels_cons hc, hls]
  show ¬ AreClosed ((front ++ c :: l) :: ls)
  intro h
  cases ls with
  | nil =>
    rcases h with h | h
    · simp at h
    · exact hbad l h
  | cons next ls => exact hbad l h.1

/-- What the walk knows of the label it is in: its characters can stand there,
and it does not begin with a hyphen. -/
structure Begins (label : Text) : Prop where
  chars : ∀ c ∈ label, IsLabelChar c
  head_ne : label.head? ≠ some '-'

theorem Begins.nil : Begins [] := ⟨by simp, by simp⟩

theorem Begins.not_mem_dot {label : Text} (h : Begins label) : '.' ∉ label :=
  fun hmem => (h.chars '.' hmem).ne_dot rfl

/-- One more character of a label: a hyphen may not be the first. -/
theorem Begins.concat {label : Text} (h : Begins label) {c : Char} (hc : IsLabelChar c)
    (hhyphen : c = '-' → label ≠ []) : Begins (label ++ [c]) := by
  constructor
  · intro d hd
    rcases List.mem_append.mp hd with hd | hd
    · exact h.chars d hd
    · rw [List.mem_singleton.mp hd]
      exact hc
  · cases label with
    | nil =>
      simp only [List.nil_append, List.head?_cons, ne_eq, Option.some.injEq]
      exact fun he => hhyphen he rfl
    | cons d ds => exact h.head_ne

/-- One step inside a label. -/
theorem walk_cons_of_isLabelChar {label name : Text} {c : Char} {named : Bool}
    (hc : IsLabelChar c) (hhyphen : c = '-' → lastRead label ≠ '.') :
    walk (lastRead label) label.length named (c :: name)
      = walk (lastRead (label ++ [c])) (label ++ [c]).length (named || isNaming c) name := by
  rw [lastRead_concat, List.length_append, List.length_singleton, walk]
  by_cases hnaming : isNaming c
  · rw [if_pos hnaming, hnaming, Bool.or_true]
  · have hnamed : (named || isNaming c) = named := by simp [hnaming]
    rw [if_neg hnaming, hnamed]
    by_cases hdigit : c.isDigit
    · rw [if_pos hdigit]
    · have hc' : c = '-' := by
        simp only [isNaming, Bool.or_eq_true, decide_eq_true_eq, not_or] at hnaming
        simpa [IsLabelChar, Char.isAlphanum, hnaming, hdigit] using hc
      rw [if_neg hdigit, if_pos hc', if_neg (hhyphen hc')]

/-- One step over the dot behind a label. -/
theorem walk_cons_dot {label name : Text} {named outcome : Bool} (h : Begins label)
    (hne : label ≠ []) :
    walk (lastRead label) label.length named ('.' :: name) = .ok outcome ↔
      IsNameLabel label ∧ walk '.' 0 named name = .ok outcome := by
  have hlast : lastRead label ≠ '.' := mt (lastRead_eq_dot_iff h.chars).mp hne
  rw [← closeLabel_eq_none_iff hne h.chars h.head_ne, walk, if_neg (by decide), if_neg (by decide),
    if_neg (by decide), if_pos rfl, if_neg hlast]
  cases closeLabel (lastRead label) label.length with
  | none => simp
  | some fault => simp

/-- A character that no name holds. -/
theorem walk_cons_of_not_isLabelChar {label name : Text} {c : Char} {named outcome : Bool}
    (hc : ¬ IsLabelChar c) (hdot : c ≠ '.') :
    walk (lastRead label) label.length named (c :: name) ≠ .ok outcome := by
  simp only [IsLabelChar, Char.isAlphanum, Bool.or_eq_true, not_or] at hc
  obtain ⟨⟨halpha, hdigit⟩, hunderscore, hhyphen⟩ := hc
  have hnaming : ¬ isNaming c := by simp [isNaming, halpha, hunderscore]
  rw [walk, if_neg hnaming, if_neg hdigit, if_neg hhyphen, if_neg hdot]
  simp

/-- **The walk accepts labels, and tells whether some character names.**  The
induction is on what is left to read; `label` is what was read since the last
dot, and stands for the three pieces of state. -/
theorem walk_eq_ok_iff {label name : Text} {named outcome : Bool} (h : Begins label) :
    walk (lastRead label) label.length named name = .ok outcome ↔
      AreClosed (labels (label ++ name)) ∧ outcome = (named || name.any isNaming) := by
  -- The induction is on what is left; `label` is what was read since the last dot, and the
  -- walk keeps its last character and its length only.
  induction name generalizing label named with
  | nil =>
    rw [List.append_nil, labels_of_not_mem h.not_mem_dot, walk, List.any_nil, Bool.or_false]
    by_cases hne : label = []
    · subst hne
      simp [AreClosed, closeLabel, lastRead, eq_comm]
    · have hiff := closeLabel_eq_none_iff hne h.chars h.head_ne
      cases hclose : closeLabel (lastRead label) label.length with
      | none => simp [AreClosed, hiff.mp hclose, eq_comm]
      | some fault =>
        have hbad : ¬ IsNameLabel label := mt hiff.mpr (by simp [hclose])
        simp [AreClosed, hne, hbad]
  | cons c cs ih =>
    have hassoc : label ++ c :: cs = (label ++ [c]) ++ cs := by simp
    by_cases hdot : c = '.'
    · subst hdot
      rw [labels_append_dot_cons h.not_mem_dot, areClosed_cons label (labels_ne_nil cs)]
      by_cases hne : label = []
      · subst hne
        have hbad : ¬ IsNameLabel [] := fun hl => hl.ne_nil rfl
        have hwalk : walk (lastRead []) 0 named ('.' :: cs) = .error .emptyLabel := rfl
        rw [List.length_nil, hwalk]
        simp [hbad]
      · rw [walk_cons_dot h hne, and_assoc]
        have hih := @ih [] named Begins.nil
        rw [List.nil_append] at hih
        show _ ∧ walk (lastRead []) ([] : Text).length named cs = .ok outcome ↔ _
        rw [hih]
        rfl
    · by_cases hc : IsLabelChar c
      · -- A hyphen may not be the first character of a label.
        by_cases hstart : c = '-' ∧ label = []
        · obtain ⟨rfl, rfl⟩ := hstart
          have hbad := @not_areClosed [] cs '-' h.not_mem_dot hdot fun rest hl => hl.head_ne rfl
          have hwalk : walk (lastRead []) 0 named ('-' :: cs) = .error .hyphen := rfl
          rw [List.nil_append] at hbad ⊢
          rw [List.length_nil, hwalk]
          simp [hbad]
        · have hne : c = '-' → label ≠ [] := fun he hn => hstart ⟨he, hn⟩
          rw [walk_cons_of_isLabelChar hc fun he =>
              mt (lastRead_eq_dot_iff h.chars).mp (hne he),
            ih (h.concat hc hne), hassoc, List.any_cons, Bool.or_assoc]
      · -- Any other character is in no label, so neither side holds.
        have hbad := @not_areClosed label cs c h.not_mem_dot hdot fun rest hl =>
          hc (hl.chars c (by simp))
        simp [walk_cons_of_not_isLabelChar hc hdot, hbad]

/-! ## §4. The check. -/

/-- The length of the check is the length of the name without its final dot. -/
theorem badLength_eq_false_iff {name : Text} (hroot : name ≠ ['.']) :
    badLength name = false ↔
      1 ≤ Text.byteLength (dropFinalDot name) ∧
        Text.byteLength (dropFinalDot name) ≤ maxLength := by
  have hdot : Text.byteLength ['.'] = 1 := rfl
  unfold badLength maxLength
  rcases dropFinalDot_cases name with ⟨body, rfl, hbody⟩ | ⟨hbody, hlast⟩
  · have hne : body ≠ [] := by
      intro heq
      subst heq
      exact hroot rfl
    have hpos := mt Text.byteLength_eq_zero_iff.mp hne
    have hlast : (body ++ ['.']).getLast? = some '.' := by simp
    rw [hbody, Text.byteLength_append, hdot, hlast]
    simp
    omega
  · rw [hbody]
    simp [hlast]
    omega

/-- The labels of a name are closed if the labels without final dot are labels. -/
theorem areClosed_labels_iff {name : Text} (hne : name ≠ []) :
    AreClosed (labels name) ↔ ∀ label ∈ labels (dropFinalDot name), IsNameLabel label := by
  rcases dropFinalDot_cases name with ⟨body, rfl, hbody⟩ | ⟨hbody, hlast⟩
  · rw [hbody, labels_append_dot, areClosed_concat]
    simp
  · obtain ⟨front, label, hls⟩ := (List.eq_nil_or_concat (labels name)).resolve_left
      (labels_ne_nil name)
    have hlabel := getLast?_labels_ne hne hlast
    rw [hls, List.concat_eq_append, List.getLast?_concat] at hlabel
    rw [hbody, hls, List.concat_eq_append, areClosed_concat, List.forall_mem_append]
    have hne' : label ≠ [] := fun h => hlabel (congrArg some h)
    simp [hne']

theorem head?_ne_of_areClosed {name : Text} (h : AreClosed (labels name)) :
    name.head? ≠ some '.' := by
  cases name with
  | nil => simp
  | cons c cs =>
    simp only [List.head?_cons, ne_eq, Option.some.injEq]
    intro heq
    subst heq
    rw [labels_dot_cons, areClosed_cons [] (labels_ne_nil cs)] at h
    exact h.1.ne_nil rfl

/-- A name does not name by its final dot. -/
theorem any_isNaming_iff {name : Text} :
    name.any isNaming = true ↔ ∃ c ∈ dropFinalDot name, c.isAlpha ∨ c = '_' := by
  have hany : ∀ t : Text, t.any isNaming = true ↔ ∃ c ∈ t, c.isAlpha ∨ c = '_' := by
    intro t
    simp [isNaming]
  rcases dropFinalDot_cases name with ⟨body, rfl, hbody⟩ | ⟨hbody, -⟩
  · have hdot : isNaming '.' = false := by decide
    rw [hbody, ← hany, List.any_append]
    simp [hdot]
  · rw [hbody, hany]

/-- The labels that make up a name are the ones between its dots. -/
theorem exists_isName_iff {policy : Policy} {body : Text} :
    (∃ ls, body = ofLabels ls ∧ IsName policy ls) ↔ IsName policy (labels body) := by
  constructor
  · intro hyp
    obtain ⟨ls, rfl, h⟩ := hyp
    have hne : ls ≠ [] := by
      intro heq
      subst heq
      exact absurd h.length_pos (by decide)
    rwa [labels_ofLabels hne fun l hl => (h.areLabels l hl).not_mem_dot]
  · intro h
    exact ⟨labels body, (ofLabels_labels body).symm, h⟩

theorem validate_eq_ok_iff_fault? {policy : Policy} {name : Text} :
    validate policy name = .ok () ↔ fault? policy name = none := by
  unfold validate
  cases fault? policy name <;> simp

theorem isValid_iff {policy : Policy} {name : Text} :
    isValid policy name = true ↔ validate policy name = .ok () := by
  rw [validate_eq_ok_iff_fault?]
  exact Option.isNone_iff_eq_none

/-- What the check asks of a name other than the root name, part by part. -/
theorem fault?_eq_none_iff {policy : Policy} {name : Text} (hroot : name ≠ ['.']) :
    fault? policy name = none ↔
      badLength name = false ∧ name.head? ≠ some '.' ∧ walk '.' 0 false name = .ok true ∧
        (policy.acceptsRootAndBareTld = false → '.' ∈ dropFinalDot name) := by
  unfold fault?
  rw [if_neg hroot]
  cases badLength name with
  | true => simp
  | false =>
    rw [if_neg (by decide)]
    by_cases hhead : name.head? = some '.'
    · simp [hhead]
    · rw [if_neg hhead]
      cases walk '.' 0 false name with
      | error fault => simp
      | ok named =>
        cases named with
        | true => simp [hhead]
        | false =>
          simp only [if_true]
          split <;> simp

/-- The root name is accepted if the policy says so. -/
theorem validate_root_eq_ok_iff {policy : Policy} :
    validate policy ['.'] = .ok () ↔ policy.acceptsRootAndBareTld = true := by
  have hbad : badLength ['.'] = false := by decide
  rw [validate_eq_ok_iff_fault?]
  simp [fault?, hbad]

theorem ne_dot_of_strict {policy : Policy} {name : Text}
    (hstrict : policy.acceptsRootAndBareTld = false) (h : validate policy name = .ok ()) :
    name ≠ ['.'] := by
  intro hroot
  rw [hroot, validate_root_eq_ok_iff, hstrict] at h
  exact absurd h (by decide)

/-- Other than the root name, the check accepts what is a name without its
final dot. -/
theorem validate_eq_ok_iff {policy : Policy} {name : Text} (hroot : name ≠ ['.']) :
    validate policy name = .ok () ↔ IsName policy (labels (dropFinalDot name)) := by
  rw [validate_eq_ok_iff_fault?, fault?_eq_none_iff hroot, badLength_eq_false_iff hroot]
  have hwalk := @walk_eq_ok_iff [] name false true Begins.nil
  rw [List.nil_append, Bool.false_or] at hwalk
  change walk '.' 0 false name = .ok true ↔ _ at hwalk
  rw [hwalk]
  -- The walk starts as if a dot stood in front of the name.
  constructor
  · intro hyp
    obtain ⟨⟨hpos, hle⟩, -, ⟨hclosed, hnaming⟩, htwo⟩ := hyp
    have hne : name ≠ [] := by
      intro heq
      subst heq
      exact absurd hpos (by decide)
    refine ⟨?_, ?_, (areClosed_labels_iff hne).mp hclosed, ?_, ?_⟩
    · rwa [ofLabels_labels]
    · rwa [ofLabels_labels]
    · exact fun hstrict => two_le_length_labels_iff.mpr (htwo hstrict)
    · rw [ofLabels_labels]
      exact any_isNaming_iff.mp hnaming.symm
  · intro h
    have hpos := h.length_pos
    have hle := h.length_le
    have hnamed := h.named
    rw [ofLabels_labels] at hpos hle hnamed
    have hne : name ≠ [] := by
      intro heq
      subst heq
      exact absurd hpos (by decide)
    have hclosed := (areClosed_labels_iff hne).mpr h.areLabels
    refine ⟨⟨hpos, hle⟩, ?_, ⟨hclosed, (any_isNaming_iff.mpr hnamed).symm⟩, ?_⟩
    · exact head?_ne_of_areClosed hclosed
    · exact fun hstrict => two_le_length_labels_iff.mp (h.two_labels hstrict)

/-- The empty text is no name. -/
theorem ne_nil_of_validate {policy : Policy} {name : Text} (h : validate policy name = .ok ()) :
    name ≠ [] := by
  intro hnil
  subst hnil
  have hname := (validate_eq_ok_iff (by decide)).mp h
  exact absurd hname.length_pos (by decide)

/-- Behind a label there is no root name. -/
theorem ne_dot_of_validate {policy : Policy} {label name : Text}
    (h : validate policy (label ++ '.' :: name) = .ok ()) : name ≠ ['.'] := by
  intro hroot
  subst hroot
  have hname := (validate_eq_ok_iff (append_dot_ne_dot (by simp))).mp h
  have hsplit : label ++ ['.', '.'] = (label ++ ['.']) ++ ['.'] := by simp
  rw [hsplit, dropFinalDot_append_dot, labels_append_dot] at hname
  exact (hname.areLabels [] (by simp)).ne_nil rfl

/-- **The check succeeds exactly on names**, and on the root name where the
policy accepts it. -/
theorem validate_accepts_iff (policy : Policy) (name : Text) :
    validate policy name = .ok () ↔
      (name = ['.'] ∧ policy.acceptsRootAndBareTld = true) ∨
        ∃ ls, dropFinalDot name = ofLabels ls ∧ IsName policy ls := by
  rw [exists_isName_iff]
  by_cases hroot : name = ['.']
  · subst hroot
    have hbody : dropFinalDot ['.'] = [] := rfl
    have hnot : ¬ IsName policy [[]] := fun h => absurd h.length_pos (by decide)
    rw [validate_root_eq_ok_iff, hbody, labels_nil]
    simp [hnot]
  · rw [validate_eq_ok_iff hroot]
    simp [hroot]

/-- A label of 63 bytes is accepted, and one of 64 is not. -/
example :
    (validate {} (List.replicate 63 'a' ++ ".com.".toList)).isOk = true ∧
      (validate {} (List.replicate 64 'a' ++ ".com.".toList)).isOk = false := by
  decide +kernel

end DomainScope.Name
