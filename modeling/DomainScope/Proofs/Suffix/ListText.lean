/-
  DomainScope.Proofs.Suffix.ListText
  ──────────────────────────────────
  **WHAT THE TEXT OF A LIST SAYS.**

  A list is read line by line: a comment may open a section, any other line that
  is not blank carries one rule, and a rule written again takes the section of
  the line it is written on.  Said without reading: a list holds the rules that
  some line carries, each with the section in which the last line carrying it
  stands, and that section was opened by the nearest comment in front of the
  line that opens one.

  Main results
    `read?_eq_some_iff`           a rule is read from its spelling, which is its own
    `givenLast_writtenRules_iff`  the kind given last is the section of the last line
    `holdsText_ofText`            a text is read into the rules its lines carry
    `rewrites_insert`             a rule written later changes that rule alone
    `parse_holds`                 both, and when a text is no list
-/
import DomainScope.Proofs.Suffix.Sections
import DomainScope.Proofs.Suffix.Written
import DomainScope.Proofs.Text.Lines
import Mathlib.Data.Finset.Card

namespace DomainScope

open RuleList (GivenLast Reads)

/-! ## §1. Rules and their spelling. -/

/-- The normal form of a rule as it is written: no dots at its end, small
letters. -/
def Rule.normalText (written : Text) : Text := Text.lower (Text.dropTrailing '.' written)

/-- A text that is not empty, and the rule that it spells. -/
inductive Spells : Text → Rule → Prop where
  | exception (base : Text) : Spells ('!' :: base) ⟨.exception, Name.labels base⟩
  | wildcard (base : Text) : Spells ('*' :: '.' :: base) ⟨.wildcard, Name.labels base⟩
  | exact {text : Text} (hne : text ≠ []) (hbang : ¬ ['!'] <+: text) (hstar : ¬ ['*', '.'] <+: text) :
      Spells text ⟨.exact, Name.labels text⟩

/-- The spelling of a rule. -/
def Rule.spelling (rule : Rule) : Text := rule.shape.mark ++ Name.ofLabels rule.base

namespace Spells

variable {text other : Text} {rule rule' : Rule}

theorem ne_nil (h : Spells text rule) : text ≠ [] := by
  cases h with
  | exception => exact List.cons_ne_nil _ _
  | wildcard => exact List.cons_ne_nil _ _
  | exact hne => exact hne

/-- A rule tells the text that spells it. -/
theorem spelling_eq (h : Spells text rule) : rule.spelling = text := by
  unfold Rule.spelling
  cases h with
  | exception base => exact congrArg ('!' :: ·) (Name.ofLabels_labels base)
  | wildcard base => exact congrArg ('*' :: '.' :: ·) (Name.ofLabels_labels base)
  | exact => exact Name.ofLabels_labels text

theorem text_unique (h : Spells text rule) (h' : Spells other rule) : text = other :=
  h.spelling_eq.symm.trans h'.spelling_eq

/-- A text spells one rule. -/
theorem unique (h : Spells text rule) (h' : Spells text rule') : rule = rule' := by
  cases h with
  | exception base =>
    cases h' with
    | exception => rfl
    | exact _ hbang => exact absurd (List.prefix_append ['!'] base) hbang
  | wildcard base =>
    cases h' with
    | wildcard => rfl
    | exact _ _ hstar => exact absurd (List.prefix_append ['*', '.'] base) hstar
  | exact _ hbang hstar =>
    cases h' with
    | exception base => exact absurd (List.prefix_append ['!'] base) hbang
    | wildcard base => exact absurd (List.prefix_append ['*', '.'] base) hstar
    | exact => rfl

end Spells

/-- Every text that is not empty spells a rule. -/
theorem exists_spells {text : Text} (h : text ≠ []) : ∃ rule, Spells text rule := by
  by_cases hbang : ['!'] <+: text
  · obtain ⟨base, rfl⟩ := hbang
    exact ⟨_, .exception base⟩
  · by_cases hstar : ['*', '.'] <+: text
    · obtain ⟨base, rfl⟩ := hstar
      exact ⟨_, .wildcard base⟩
    · exact ⟨_, .exact h hbang hstar⟩

/-- **A rule is read from the text that spells it**, once that is in normal
form. -/
theorem read?_eq_some_iff {written : Text} {rule : Rule} :
    Rule.read? written = some rule ↔ Spells (Rule.normalText written) rule := by
  unfold Rule.read? Rule.normalText
  generalize Text.lower (Text.dropTrailing '.' written) = text
  -- The reader tries the marks in order, and what bears neither is an exact rule.
  constructor
  · intro h
    simp only at h
    split at h
    · cases h
    · cases h
      exact .exception _
    · cases h
      exact .wildcard _
    next hne hbang hstar =>
      cases h
      refine .exact hne ?_ ?_
      · intro hprefix
        obtain ⟨base, heq⟩ := hprefix
        exact hbang base heq.symm
      · intro hprefix
        obtain ⟨base, heq⟩ := hprefix
        exact hstar base heq.symm
  · intro h
    cases h with
    | exception base => rfl
    | wildcard base => rfl
    | exact hne hbang hstar =>
      simp only
      split
      · exact absurd rfl hne
      · exact absurd (List.prefix_append ['!'] _) hbang
      · exact absurd (List.prefix_append ['*', '.'] _) hstar
      · rfl

theorem read?_eq_none_iff {written : Text} :
    Rule.read? written = none ↔ Rule.normalText written = [] := by
  constructor
  · intro hnone
    by_contra hne
    obtain ⟨rule, hrule⟩ := exists_spells hne
    rw [read?_eq_some_iff.mpr hrule] at hnone
    cases hnone
  · intro hnil
    cases hread : Rule.read? written with
    | none => rfl
    | some rule => exact absurd hnil (read?_eq_some_iff.mp hread).ne_nil

/-! ## §2. Lines of a list. -/

/-- A comment: a line that begins with two slashes, once it is trimmed. -/
def IsCommentLine (line : Text) : Prop := ['/', '/'] <+: Text.trim line

/-- A line that is neither blank nor a comment. -/
def IsRuleLine (line : Text) : Prop := Text.trim line ≠ [] ∧ ¬ IsCommentLine line

/-- A line and the rule it carries: its first word in normal form, which is
empty if the word is made of dots. -/
def Carries (line text : Text) : Prop :=
  IsRuleLine line ∧ ∃ word, Text.IsFirstWord line word ∧ Rule.normalText word = text

/-- The section that a comment opens; the private one if it has both marks. -/
inductive Opens (line : Text) : SuffixKind → Prop where
  | privatelyOwned (comment : IsCommentLine line) (mark : privateMark <:+: line) :
      Opens line .privatelyOwned
  | icann (comment : IsCommentLine line) (mark : icannMark <:+: line)
      (other : ¬ privateMark <:+: line) : Opens line .icann

/-- The section behind some lines: what the last of them that opens one opens,
or `first` if none does. -/
inductive SectionBehind (first : SuffixKind) (lines : List Text) : SuffixKind → Prop where
  | opened {before after : List Text} {line : Text} {kind : SuffixKind}
      (split : lines = before ++ line :: after) (opens : Opens line kind)
      (last : ∀ later ∈ after, ∀ k, ¬ Opens later k) : SectionBehind first lines kind
  | unopened (none : ∀ line ∈ lines, ∀ k, ¬ Opens line k) : SectionBehind first lines first

/-- The section in which the last line that carries a rule stands; `first` is
the one in front of all lines. -/
def LastCarried (first : SuffixKind) (lines : List Text) (text : Text) (kind : SuffixKind) : Prop :=
  ∃ before line after, lines = before ++ line :: after ∧ Carries line text ∧
    SectionBehind first before kind ∧ ∀ later ∈ after, ¬ Carries later text

/-! ## §3. Reading a line. -/

namespace ListLine

/-- A line is blank, a comment, or carries a rule. -/
theorem cases_of_line (line : Text) :
    Text.trim line = [] ∨ (∃ body, Text.trim line = '/' :: '/' :: body) ∨ IsRuleLine line := by
  by_cases hnil : Text.trim line = []
  · exact .inl hnil
  · by_cases hcomment : IsCommentLine line
    · obtain ⟨body, hbody⟩ := hcomment
      exact .inr (.inl ⟨body, hbody.symm⟩)
    · exact .inr (.inr ⟨hnil, hcomment⟩)

theorem read_of_trim_eq_nil {line : Text} (h : Text.trim line = []) : read line = .blank := by
  unfold read
  rw [h]
  rfl

theorem read_of_comment {line body : Text} (h : Text.trim line = '/' :: '/' :: body) :
    read line = .comment body := by
  unfold read
  rw [h]
  rfl

theorem read_of_isRuleLine {line : Text} (h : IsRuleLine line) :
    read line = .rule (Text.firstWord (Text.trim line)) := by
  obtain ⟨hne, hcomment⟩ := h
  have hempty : (Text.trim line).isEmpty = false := by simpa using hne
  have hnone : ['/', '/'].isPrefixOf? (Text.trim line) = none := by
    cases hprefix : ['/', '/'].isPrefixOf? (Text.trim line) with
    | none => rfl
    | some body => exact absurd ⟨body, List.append_eq_of_isPrefixOf?_eq_some hprefix⟩ hcomment
  unfold read
  simp only [hempty, hnone]
  rfl

/-- Only rule lines are read as rules. -/
theorem read_eq_rule_iff {line word : Text} :
    read line = .rule word ↔ IsRuleLine line ∧ Text.IsFirstWord line word := by
  rw [Text.isFirstWord_iff]
  rcases cases_of_line line with hnil | ⟨body, hbody⟩ | hrule
  · rw [read_of_trim_eq_nil hnil]
    exact iff_of_false nofun fun hyp => hyp.1.1 hnil
  · rw [read_of_comment hbody]
    exact iff_of_false nofun fun hyp => hyp.1.2 ⟨body, hbody.symm⟩
  · rw [read_of_isRuleLine hrule]
    simp [hrule, hrule.1]

end ListLine

/-- A line carries a rule if it is read as a text of that rule. -/
theorem carries_iff {line text : Text} {rule : Rule} (h : Spells text rule) :
    Carries line text ↔ ∃ word, ListLine.read line = .rule word ∧ Reads word rule := by
  unfold Carries
  constructor
  · intro hyp
    obtain ⟨hline, word, hword, rfl⟩ := hyp
    exact ⟨word, ListLine.read_eq_rule_iff.mpr ⟨hline, hword⟩, read?_eq_some_iff.mpr h⟩
  · intro hyp
    obtain ⟨word, hread, hreads⟩ := hyp
    obtain ⟨hline, hword⟩ := ListLine.read_eq_rule_iff.mp hread
    exact ⟨hline, word, hword, (read?_eq_some_iff.mp hreads).text_unique h⟩

/-! ## §4. Sections. -/

/-- A mark that occurs in a comment occurs behind its slashes and before its
last blanks. -/
theorem occurs_mark_iff {line body mark : Text} (h : Text.trim line = '/' :: '/' :: body)
    (hhead : mark.head? = some '=') (hlast : mark.getLast? = some '=') :
    Text.occurs mark body = true ↔ mark <:+: line := by
  have hne : mark ≠ [] := by
    intro hnil
    rw [hnil] at hhead
    cases hhead
  have hblank : Text.isBlank '=' = false := by decide
  have hnotBlank : ∀ t : Text, (∀ c ∈ t, Text.isBlank c = true) → '=' ∉ t := by
    intro t ht hmem
    rw [ht '=' hmem] at hblank
    cases hblank
  obtain ⟨front, back, hline, hfront, hback, -⟩ := Text.exists_trim line
  have hbody : '/' :: '/' :: body = ['/', '/'] ++ body := rfl
  rw [Text.occurs_iff, hline, h, hbody,
    Text.infix_append_iff_left hne (by simpa [hlast] using hnotBlank back hback),
    Text.infix_append_iff hne (by simpa [hhead] using hnotBlank front hfront),
    Text.infix_append_iff hne (by simp [hhead])]

theorem Opens.isCommentLine {line : Text} {kind : SuffixKind} (h : Opens line kind) :
    IsCommentLine line := by
  cases h with
  | privatelyOwned comment => exact comment
  | icann comment => exact comment

/-- A comment opens one section at most. -/
theorem Opens.unique {line : Text} {kind kind' : SuffixKind} (h : Opens line kind)
    (h' : Opens line kind') : kind = kind' := by
  cases h with
  | privatelyOwned _ mark =>
    cases h' with
    | privatelyOwned => rfl
    | icann _ _ other => exact absurd mark other
  | icann _ _ other =>
    cases h' with
    | privatelyOwned _ mark => exact absurd mark other
    | icann => rfl

/-- After a comment stands the section it opens, or the one before it. -/
theorem sectionAfter_cases {line body : Text} (h : Text.trim line = '/' :: '/' :: body)
    (current : SuffixKind) :
    Opens line (sectionAfter current body) ∨
      (∀ kind, ¬ Opens line kind) ∧ sectionAfter current body = current := by
  have hcomment : IsCommentLine line := ⟨body, h.symm⟩
  have hprivate := @occurs_mark_iff line body privateMark h (by decide) (by decide)
  have hicann := @occurs_mark_iff line body icannMark h (by decide) (by decide)
  unfold sectionAfter
  split
  next hmark => exact .inl (.privatelyOwned hcomment (hprivate.mp hmark))
  next hother =>
    split
    next hmark => exact .inl (.icann hcomment (hicann.mp hmark) (mt hprivate.mpr hother))
    next hnone =>
      refine .inr ⟨?_, rfl⟩
      intro kind hopens
      cases hopens with
      | privatelyOwned _ mark => exact hother (hprivate.mpr mark)
      | icann _ mark => exact hnone (hicann.mpr mark)

namespace SectionBehind

variable {first next kind : SuffixKind} {line : Text} {lines : List Text}

theorem nil_iff : SectionBehind first [] kind ↔ first = kind := by
  constructor
  · intro h
    cases h with
    | opened split => simp at split
    | unopened => rfl
  · intro heq
    subst heq
    exact .unopened fun line hmem => absurd hmem List.not_mem_nil

/-- Behind a line that opens a section, that section counts as the first. -/
theorem cons_iff_of_opens (h : Opens line next) :
    SectionBehind first (line :: lines) kind ↔ SectionBehind next lines kind := by
  constructor
  · intro hbehind
    cases hbehind with
    | @opened before after line' _ split opens last =>
      cases before with
      | nil =>
        obtain ⟨rfl, rfl⟩ := List.cons.inj split
        rw [opens.unique h]
        exact .unopened last
      | cons l before => exact .opened (List.cons.inj split).2 opens last
    | unopened none => exact absurd h (none line List.mem_cons_self next)
  · intro hbehind
    cases hbehind with
    | @opened before after line' _ split opens last =>
      have hsplit : line :: lines = (line :: before) ++ line' :: after := congrArg (line :: ·) split
      exact .opened hsplit opens last
    | unopened none =>
      have hsplit : line :: lines = [] ++ line :: lines := rfl
      exact .opened hsplit h none

/-- A line that opens none leaves the section as it is. -/
theorem cons_iff_of_not_opens (h : ∀ k, ¬ Opens line k) :
    SectionBehind first (line :: lines) kind ↔ SectionBehind first lines kind := by
  constructor
  · intro hbehind
    cases hbehind with
    | @opened before after line' _ split opens last =>
      cases before with
      | nil =>
        obtain ⟨rfl, -⟩ := List.cons.inj split
        exact absurd opens (h kind)
      | cons l before => exact .opened (List.cons.inj split).2 opens last
    | unopened none => exact .unopened fun l hl => none l (List.mem_cons_of_mem line hl)
  · intro hbehind
    cases hbehind with
    | @opened before after line' _ split opens last =>
      have hsplit : line :: lines = (line :: before) ++ line' :: after := congrArg (line :: ·) split
      exact .opened hsplit opens last
    | unopened none => exact .unopened (List.forall_mem_cons.mpr ⟨h, none⟩)

end SectionBehind

/-! ## §5. Reading all lines. -/

variable {first second kind : SuffixKind} {line text : Text} {lines : List Text} {rule : Rule}

/-- The last line that carries a rule is one of the later lines, or the first
line if none of them carries it. -/
theorem lastCarried_cons_iff
    (hsection : ∀ before k, SectionBehind first (line :: before) k ↔ SectionBehind second before k) :
    LastCarried first (line :: lines) text kind ↔
      LastCarried second lines text kind ∨
        (Carries line text ∧ first = kind ∧ ∀ later ∈ lines, ¬ Carries later text) := by
  constructor
  · intro hyp
    obtain ⟨before, l, after, heq, hcarries, hbehind, hafter⟩ := hyp
    cases before with
    | nil =>
      obtain ⟨rfl, rfl⟩ := List.cons.inj heq
      exact .inr ⟨hcarries, SectionBehind.nil_iff.mp hbehind, hafter⟩
    | cons b before =>
      obtain ⟨rfl, heq'⟩ := List.cons.inj heq
      exact .inl ⟨before, l, after, heq', hcarries, (hsection before kind).mp hbehind, hafter⟩
  · intro hcases
    rcases hcases with ⟨before, l, after, rfl, hcarries, hbehind, hafter⟩ | ⟨hcarries, rfl, hafter⟩
    · exact ⟨line :: before, l, after, rfl, hcarries, (hsection before kind).mpr hbehind, hafter⟩
    · exact ⟨[], line, lines, rfl, hcarries, SectionBehind.nil_iff.mpr rfl, hafter⟩

/-- A line that carries no rule passes on its section to the lines behind it. -/
theorem lastCarried_cons_of_not_isRuleLine (hline : ¬ IsRuleLine line)
    (hsection : ∀ before k, SectionBehind first (line :: before) k ↔ SectionBehind second before k) :
    LastCarried first (line :: lines) text kind ↔ LastCarried second lines text kind := by
  rw [lastCarried_cons_iff hsection]
  exact or_iff_left fun hyp => hline hyp.1.1

theorem mem_writtenRules_iff {word : Text} :
    (∃ k, (word, k) ∈ writtenRules first lines) ↔
      ∃ line ∈ lines, ListLine.read line = .rule word := by
  induction lines generalizing first with
  | nil => simp [writtenRules]
  | cons line lines ih =>
    rw [List.exists_mem_cons_iff, writtenRules]
    cases hread : ListLine.read line with
    | blank => simp [ih]
    | comment body => simp [ih]
    | rule written =>
      rw [← @ih first]
      simp [exists_or, @eq_comm _ word]

/-- A rule that no line carries is not written. -/
theorem forall_mem_writtenRules_iff (h : Spells text rule) :
    (∀ entry ∈ writtenRules first lines, ¬ Reads entry.1 rule) ↔
      ∀ line ∈ lines, ¬ Carries line text := by
  constructor
  · intro hnone line hmem hcarries
    obtain ⟨word, hread, hreads⟩ := (carries_iff h).mp hcarries
    obtain ⟨k, hk⟩ := mem_writtenRules_iff.mpr ⟨line, hmem, hread⟩
    exact hnone _ hk hreads
  · intro hnone entry hmem hreads
    obtain ⟨line, hline, hread⟩ := mem_writtenRules_iff.mp ⟨entry.2, hmem⟩
    exact hnone line hline ((carries_iff h).mpr ⟨_, hread, hreads⟩)

/-- **The kind that a rule is given last is the section of the last line that
carries it.**  The induction is on the lines that are left, and `first` is the
section in which they begin. -/
theorem givenLast_writtenRules_iff (h : Spells text rule) :
    GivenLast Reads (writtenRules first lines) rule kind ↔ LastCarried first lines text kind := by
  induction lines generalizing first with
  | nil =>
    refine iff_of_false ?_ ?_
    · intro hyp
      obtain ⟨before, word, after, heq, -⟩ := hyp
      simp [writtenRules] at heq
    · intro hyp
      obtain ⟨before, line, after, heq, -⟩ := hyp
      simp at heq
  | cons line lines ih =>
    have hkeeps : ¬ IsCommentLine line → ∀ before k,
        SectionBehind first (line :: before) k ↔ SectionBehind first before k :=
      fun hnot _ _ => SectionBehind.cons_iff_of_not_opens fun _ hopens => hnot hopens.isCommentLine
    rw [writtenRules]
    -- A line is blank, a comment that may open a section, or carries a rule.
    rcases ListLine.cases_of_line line with hnil | ⟨body, hbody⟩ | hrule
    · have hnot : ¬ IsCommentLine line := by
        intro hcomment
        rw [IsCommentLine, hnil] at hcomment
        simp at hcomment
      rw [ListLine.read_of_trim_eq_nil hnil,
        lastCarried_cons_of_not_isRuleLine (fun hyp => hyp.1 hnil) (hkeeps hnot)]
      exact ih
    · have hpasses : ∀ before k, SectionBehind first (line :: before) k ↔
          SectionBehind (sectionAfter first body) before k := by
        intro before k
        rcases sectionAfter_cases hbody first with hopens | ⟨hnone, heq⟩
        · exact SectionBehind.cons_iff_of_opens hopens
        · rw [heq]
          exact SectionBehind.cons_iff_of_not_opens hnone
      rw [ListLine.read_of_comment hbody,
        lastCarried_cons_of_not_isRuleLine (fun hyp => hyp.2 ⟨body, hbody.symm⟩) hpasses]
      exact ih
    · have hcarries : Reads (Text.firstWord (Text.trim line)) rule ↔ Carries line text := by
        rw [carries_iff h, ListLine.read_of_isRuleLine hrule]
        simp
      rw [ListLine.read_of_isRuleLine hrule, lastCarried_cons_iff (hkeeps hrule.2)]
      show GivenLast Reads ((_, first) :: writtenRules first lines) rule kind ↔ _
      rw [RuleList.givenLast_cons_iff, ih, hcarries, forall_mem_writtenRules_iff h]

/-- Lines that are the same once trimmed are read alike. -/
theorem writtenRules_congr {pieces : List Text}
    (h : List.Forall₂ (fun piece line => Text.trim piece = Text.trim line) pieces lines) :
    writtenRules first pieces = writtenRules first lines := by
  induction h generalizing first with
  | nil => rfl
  | @cons piece line pieces lines htrim _ ih =>
    have hread : ListLine.read piece = ListLine.read line := by
      unfold ListLine.read
      rw [htrim]
    rw [writtenRules, writtenRules, hread]
    cases ListLine.read line with
    | blank => exact ih
    | comment body => exact ih
    | rule word => exact congrArg (_ :: ·) ih

theorem writtenRules_append_blank (first : SuffixKind) (lines : List Text) :
    writtenRules first (lines ++ [[]]) = writtenRules first lines := by
  induction lines generalizing first with
  | nil => rfl
  | cons line lines ih =>
    rw [List.cons_append, writtenRules, writtenRules]
    cases ListLine.read line with
    | blank => exact ih first
    | comment body => exact ih _
    | rule word => exact congrArg (_ :: ·) (ih first)

/-- **A text is read line by line**, whatever its lines end in. -/
theorem writtenRulesOfText_eq (text : Text) :
    writtenRulesOfText text = writtenRules .icann (Text.lines text) := by
  obtain ⟨rest, hrest, halike⟩ := Text.splitOn_lines text
  unfold writtenRulesOfText
  rw [writtenRules_congr (halike.imp fun _ _ h => h.trim_eq)]
  rcases hrest with rfl | rfl
  · rw [List.append_nil]
  · exact writtenRules_append_blank _ _

/-! ## §6. The rules of a list. -/

namespace RuleList

/-- A list holds the rule that a text spells, with a kind. -/
def Holds (list : RuleList) (text : Text) (kind : SuffixKind) : Prop :=
  ∃ rule, Spells text rule ∧ list.kindOf? rule = some kind

theorem holds_iff_of_spells {list : RuleList} (h : Spells text rule) :
    list.Holds text kind ↔ list.kindOf? rule = some kind := by
  constructor
  · intro hyp
    obtain ⟨read, hread, hkind⟩ := hyp
    rwa [h.unique hread]
  · intro hkind
    exact ⟨rule, h, hkind⟩

/-- No list holds the empty rule. -/
theorem Holds.ne_nil {list : RuleList} (h : list.Holds text kind) : text ≠ [] := by
  obtain ⟨rule, hspells, -⟩ := h
  exact hspells.ne_nil

/-- What a list holds that has read a text: the rules that some line carries,
with their sections, and no others. -/
structure HoldsText (list : RuleList) (source : Text) : Prop where
  holds : ∀ text kind, list.Holds text kind ↔
    text ≠ [] ∧ LastCarried .icann (Text.lines source) text kind
  size : ∃ rules : Finset Text, list.size = rules.card ∧
    ∀ text, text ∈ rules ↔ text ≠ [] ∧ ∃ line ∈ Text.lines source, Carries line text

/-- What a list becomes when one rule is written into it. -/
structure Rewrites (list list' : RuleList) (text : Text) (kind : SuffixKind) : Prop where
  given : ∀ k, list'.Holds text k ↔ k = kind
  others : ∀ other k, other ≠ text → (list'.Holds other k ↔ list.Holds other k)
  size_of_held : (∃ k, list.Holds text k) → list'.size = list.size
  size_of_new : (∀ k, ¬ list.Holds text k) → list'.size = list.size + 1

/-- The rules of a list are as many as the rules it shows. -/
theorem exists_keys (list : RuleList) : ∃ keys : Finset Rule, list.size = keys.card ∧
    ∀ rule, rule ∈ keys ↔ ∃ kind, list.kindOf? rule = some kind := by
  refine ⟨list.rules.keys.toFinset, ?_, ?_⟩
  · rw [List.toFinset_card_of_nodup Std.HashMap.nodup_keys, Std.HashMap.length_keys]
    rfl
  · intro rule
    rw [List.mem_toFinset, Std.HashMap.mem_keys, ← Std.HashMap.isSome_getElem?_iff_mem,
      Option.isSome_iff_exists]
    rfl

/-! ## §7. Reading a text. -/

section

variable {source : Text}

/-- The list that a text is read into, empty or not. -/
def ofText (source : Text) : RuleList := empty.insertAll (writtenRulesOfText source)

theorem kindOf?_ofText_iff (h : Spells text rule) :
    (ofText source).kindOf? rule = some kind ↔ LastCarried .icann (Text.lines source) text kind := by
  unfold ofText
  rw [kindOf?_insertAll, kindOf?_empty, writtenRulesOfText_eq, givenLast_writtenRules_iff h]
  exact or_iff_left fun hyp => nomatch hyp.1

/-- Only rules that some text spells are read. -/
theorem exists_spells_of_kindOf?_ofText (h : (ofText source).kindOf? rule = some kind) :
    ∃ text, Spells text rule := by
  unfold ofText at h
  rw [kindOf?_insertAll, kindOf?_empty] at h
  rcases h with ⟨_, written, _, _, hreads, _⟩ | ⟨hnone, _⟩
  · exact ⟨_, read?_eq_some_iff.mp hreads⟩
  · cases hnone

/-- A rule has a last line that carries it if it has any. -/
theorem exists_lastCarried_iff (h : Spells text rule) :
    (∃ kind, LastCarried first lines text kind) ↔ ∃ line ∈ lines, Carries line text := by
  constructor
  · intro hyp
    obtain ⟨kind, before, line, after, rfl, hcarries, -⟩ := hyp
    exact ⟨line, List.mem_append_right before List.mem_cons_self, hcarries⟩
  · intro hyp
    have hwritten : ∃ entry ∈ writtenRules first lines, Reads entry.1 rule := by
      by_contra hnone
      obtain ⟨line, hline, hcarries⟩ := hyp
      have hunread : ∀ entry ∈ writtenRules first lines, ¬ Reads entry.1 rule :=
        fun entry hmem hreads => hnone ⟨entry, hmem, hreads⟩
      exact (forall_mem_writtenRules_iff h).mp hunread line hline hcarries
    obtain ⟨kind, hlast⟩ := exists_givenLast hwritten
    exact ⟨kind, (givenLast_writtenRules_iff h).mp hlast⟩

theorem holds_ofText_iff :
    (ofText source).Holds text kind ↔ text ≠ [] ∧ LastCarried .icann (Text.lines source) text kind := by
  constructor
  · intro hyp
    obtain ⟨rule, hspells, hkind⟩ := hyp
    exact ⟨hspells.ne_nil, (kindOf?_ofText_iff hspells).mp hkind⟩
  · intro hyp
    obtain ⟨hne, hlast⟩ := hyp
    obtain ⟨rule, hspells⟩ := exists_spells hne
    exact ⟨rule, hspells, (kindOf?_ofText_iff hspells).mpr hlast⟩

/-- The rules read are as many as their spellings. -/
theorem holdsText_ofText (source : Text) : (ofText source).HoldsText source := by
  refine ⟨fun text kind => holds_ofText_iff, ?_⟩
  -- The keys are counted by rules; what they spell is as many texts.
  obtain ⟨keys, hsize, hkeys⟩ := exists_keys (ofText source)
  have hspelled : ∀ rule ∈ keys, ∃ text, Spells text rule := by
    intro rule hmem
    obtain ⟨kind, hkind⟩ := (hkeys rule).mp hmem
    exact exists_spells_of_kindOf?_ofText hkind
  refine ⟨keys.image Rule.spelling, ?_, ?_⟩
  · -- Two rules with one spelling are the rule that it spells.
    rw [hsize, Finset.card_image_of_injOn]
    intro rule hmem other hother heq
    obtain ⟨text, htext⟩ := hspelled rule hmem
    obtain ⟨text', htext'⟩ := hspelled other hother
    rw [htext.spelling_eq, htext'.spelling_eq] at heq
    subst heq
    exact htext.unique htext'
  · intro text
    rw [Finset.mem_image]
    constructor
    · intro hyp
      obtain ⟨rule, hmem, rfl⟩ := hyp
      obtain ⟨text, htext⟩ := hspelled rule hmem
      obtain ⟨kind, hkind⟩ := (hkeys rule).mp hmem
      rw [htext.spelling_eq]
      exact ⟨htext.ne_nil, (exists_lastCarried_iff htext).mp
        ⟨kind, (kindOf?_ofText_iff htext).mp hkind⟩⟩
    · intro hyp
      obtain ⟨hne, hcarried⟩ := hyp
      obtain ⟨rule, hspells⟩ := exists_spells hne
      obtain ⟨kind, hlast⟩ := (exists_lastCarried_iff hspells).mpr hcarried
      exact ⟨rule, (hkeys rule).mpr ⟨kind, (kindOf?_ofText_iff hspells).mpr hlast⟩,
        hspells.spelling_eq⟩

theorem size_ofText_eq_zero_iff :
    (ofText source).size = 0 ↔ ∀ line ∈ Text.lines source, ∀ text, Carries line text → text = [] := by
  obtain ⟨rules, hsize, hrules⟩ := (holdsText_ofText source).size
  rw [hsize, Finset.card_eq_zero, Finset.eq_empty_iff_forall_notMem]
  constructor
  · intro hnone line hmem text hcarries
    by_contra hne
    exact hnone text ((hrules text).mpr ⟨hne, line, hmem, hcarries⟩)
  · intro hnone text hmem
    obtain ⟨hne, line, hline, hcarries⟩ := (hrules text).mp hmem
    exact hne (hnone line hline text hcarries)

end

/-! ## §8. Writing one rule more. -/

/-- A rule that is not empty is added or given its new kind, and the rest of
the list stays. -/
theorem rewrites_insert (list : RuleList) {written : Text} (kind : SuffixKind)
    (h : Rule.normalText written ≠ []) :
    list.Rewrites (list.insert written kind) (Rule.normalText written) kind := by
  obtain ⟨rule, hspells⟩ := exists_spells h
  have hread : Rule.read? written = some rule := read?_eq_some_iff.mpr hspells
  have hsize : (list.insert written kind).size =
      if (list.kindOf? rule).isSome then list.size else list.size + 1 := by
    unfold insert
    rw [hread]
    exact size_add list rule kind
  -- The four parts: what the text holds now, what all others hold, and the two sizes.
  constructor
  · intro k
    rw [holds_iff_of_spells hspells, kindOf?_insert, if_pos hread, Option.some.injEq]
    exact eq_comm
  · intro other k hother
    by_cases hne : other = []
    · exact iff_of_false (fun hyp => hyp.ne_nil hne) fun hyp => hyp.ne_nil hne
    · obtain ⟨rule', hspells'⟩ := exists_spells hne
      have hdiff : ¬ Rule.read? written = some rule' := by
        intro hsame
        rw [Option.some.inj (hread.symm.trans hsame)] at hspells
        exact hother (hspells'.text_unique hspells)
      rw [holds_iff_of_spells hspells', holds_iff_of_spells hspells', kindOf?_insert, if_neg hdiff]
  · intro hheld
    obtain ⟨k, hk⟩ := hheld
    rw [hsize, (holds_iff_of_spells hspells).mp hk]
    rfl
  · intro hnew
    have hnone : list.kindOf? rule = none := by
      cases hkind : list.kindOf? rule with
      | none => rfl
      | some k => exact absurd ((holds_iff_of_spells hspells).mpr hkind) (hnew k)
    rw [hsize, hnone]
    rfl

/-- **What a text says, the list says.**  A text whose rules are all empty is
no list; any other is read into the list of its rules, each with the section of
the last line that carries it.  Writing a rule into a list changes that rule
alone. -/
theorem parse_holds (source : Text) :
    ((parse source = .error .empty ∧
          ∀ line ∈ Text.lines source, ∀ text, Carries line text → text = []) ∨
        (∃ line ∈ Text.lines source, ∃ text, Carries line text ∧ text ≠ []) ∧
          ∃ list, parse source = .ok list ∧ list.HoldsText source) ∧
      ∀ (list : RuleList) (written : Text) (kind : SuffixKind),
        (Rule.normalText written = [] ∧ list.insert written kind = list) ∨
          (Rule.normalText written ≠ [] ∧
            list.Rewrites (list.insert written kind) (Rule.normalText written) kind) := by
  constructor
  · have hparse : parse source = if (ofText source).size = 0 then .error .empty
        else .ok (ofText source) := rfl
    -- The text is refused exactly if nothing was inserted.
    by_cases hsize : (ofText source).size = 0
    · left
      rw [hparse, if_pos hsize]
      exact ⟨rfl, size_ofText_eq_zero_iff.mp hsize⟩
    · right
      rw [hparse, if_neg hsize]
      refine ⟨?_, ofText source, rfl, holdsText_ofText source⟩
      by_contra hnone
      refine hsize (size_ofText_eq_zero_iff.mpr ?_)
      intro line hline text hcarries
      by_contra hne
      exact hnone ⟨line, hline, text, hcarries, hne⟩
  · intro list written kind
    by_cases hnil : Rule.normalText written = []
    · left
      refine ⟨hnil, ?_⟩
      unfold insert
      rw [read?_eq_none_iff.mpr hnil]
    · right
      exact ⟨hnil, rewrites_insert list kind hnil⟩

end RuleList

end DomainScope
