/-
  DomainScope.Suffix.Rule
  ───────────────────────
  **RULES OF A PUBLIC SUFFIX LIST AND THE TEXT THAT HOLDS THEM.**

  A rule is written `base`, `*.base` or `!base`.  The text of a list has one
  rule per line; what follows the rule after a blank is ignored.  Lines that
  begin with `//` are comments, and a comment may open the ICANN or the PRIVATE
  section; lines before the first such comment belong to ICANN.
-/
import DomainScope.Suffix.Basic

namespace DomainScope

/-! ## §1. Rules. -/

/-- The three kinds of rules. -/
inductive RuleShape where
  /-- `base`: the base itself is a suffix. -/
  | exact
  /-- `*.base`: the base with any one label in front is a suffix. -/
  | wildcard
  /-- `!base`: the base is no suffix, although a wildcard says so. -/
  | exception
  deriving DecidableEq, Hashable, Repr

/-- A rule: its kind, and the labels of its base from left to right. -/
structure Rule where
  shape : RuleShape
  base : List Text
  deriving DecidableEq, Repr

/-- The hash of a rule: its labels one after the other. -/
instance : Hashable Rule where
  hash rule :=
    rule.base.foldl (fun h label => mixHash h (hash (String.ofList label))) (hash rule.shape)

/-- Reads a rule; letters are made small and final dots dropped, and nothing
is left of the empty rule. -/
def Rule.read? (written : Text) : Option Rule :=
  -- The final dots go first, so a rule of dots alone is empty.
  let body := Text.lower (Text.dropTrailing '.' written)
  match body with
  | [] => none
  | '!' :: base => some ⟨.exception, Name.labels base⟩
  | '*' :: '.' :: base => some ⟨.wildcard, Name.labels base⟩
  | _ => some ⟨.exact, Name.labels body⟩

/-! ## §2. The text of a list. -/

/-- The comment that opens the section of ICANN rules. -/
def icannMark : Text := "===BEGIN ICANN DOMAINS===".toList

/-- The comment that opens the section of private rules. -/
def privateMark : Text := "===BEGIN PRIVATE DOMAINS===".toList

/-- The section after a comment. -/
def sectionAfter (current : SuffixKind) (comment : Text) : SuffixKind :=
  if Text.occurs privateMark comment then .privatelyOwned
  else if Text.occurs icannMark comment then .icann
  else current

/-- A line of the text, without the blanks around it. -/
inductive ListLine where
  | blank
  | comment (text : Text)
  | rule (written : Text)
  deriving DecidableEq, Repr

/-- Reads a line. -/
def ListLine.read (line : Text) : ListLine :=
  let t := Text.trim line
  if t.isEmpty then .blank
  else
    match ['/', '/'].isPrefixOf? t with
    | some body => .comment body
    | none => .rule (Text.firstWord t)

/-- The rules of the lines as they are written, with the sections they stand
in, in order. -/
def writtenRules (current : SuffixKind) : List Text → List (Text × SuffixKind)
  | [] => []
  | line :: lines =>
    match ListLine.read line with
    | .blank => writtenRules current lines
    | .comment text => writtenRules (sectionAfter current text) lines
    | .rule written => (written, current) :: writtenRules current lines

/-- The rules of a text as they are written, with their sections, in order. -/
def writtenRulesOfText (text : Text) : List (Text × SuffixKind) :=
  writtenRules .icann (text.splitOn '\n')

/-- The rules of a text with their sections, in order; rules that are empty
once read are left out. -/
def rulesOfText (text : Text) : List (Rule × SuffixKind) :=
  (writtenRulesOfText text).filterMap fun (written, kind) =>
    (Rule.read? written).map fun rule => (rule, kind)

end DomainScope
