/-
  DomainScope.Suffix.RuleList
  ───────────────────────────
  **SUFFIX LISTS MADE OF RULES.**

  A rule list keeps each rule once, with the kind it was given last.  A lookup
  walks through the labels of the name from the right.  At each label it asks
  whether the tail reached is an exception (then the tail before it is the
  suffix), an exact rule, or covered by a wildcard rule on the tail before it.
  The longest tail found wins; if none is found, the rightmost label is the
  suffix and nobody manages it.

  Main definitions
    `RuleList.insert`, `RuleList.parse`, `RuleList.load`   building a list
    `RuleList.kindOf?`                                     the one view of a list
    `RuleList.lookup`, `RuleList.toSuffixList`             asking it
-/
import DomainScope.Suffix.Rule
import DomainScope.Text.Utf8
import Std.Data.HashMap

namespace DomainScope

/-! ## §1. Lists and the errors of building them. -/

/-- A set of rules, each with its kind. -/
structure RuleList where
  rules : Std.HashMap Rule SuffixKind

/-- Why no list could be built. -/
inductive RuleListError where
  /-- The text holds no rule. -/
  | empty
  /-- The file at `path` cannot be read. -/
  | unreadable (path cause : Text)
  deriving DecidableEq, Repr

/-- The report on a list that could not be built. -/
def RuleListError.message : RuleListError → Text
  | .empty => "suffix list contains no rules".toList
  | .unreadable path cause =>
    "cannot read suffix list ".toList ++ path ++ ": ".toList ++ cause

/-- The report and the causes behind it, from the outermost to the innermost. -/
def RuleListError.causes (e : RuleListError) : List Text :=
  match e with
  | .empty => [e.message]
  | .unreadable _ cause => [e.message, cause]

namespace RuleList

/-! ## §2. Building. -/

/-- The list without rules. -/
def empty : RuleList := ⟨∅⟩

/-- The kind of a rule, if the list has the rule. -/
def kindOf? (list : RuleList) (rule : Rule) : Option SuffixKind := list.rules[rule]?

/-- The number of rules. -/
def size (list : RuleList) : Nat := list.rules.size

/-- Adds a rule, or gives it another kind. -/
def add (list : RuleList) (rule : Rule) (kind : SuffixKind) : RuleList :=
  ⟨list.rules.insert rule kind⟩

/-- Reads a rule and adds it; an empty one changes nothing. -/
def insert (list : RuleList) (written : Text) (kind : SuffixKind) : RuleList :=
  match Rule.read? written with
  | some rule => list.add rule kind
  | none => list

/-- Reads and adds rules in order. -/
def insertAll (list : RuleList) (rules : List (Text × SuffixKind)) : RuleList :=
  rules.foldl (fun list (written, kind) => list.insert written kind) list

/-- The list written in a text, which must hold a rule. -/
def parse (text : Text) : Except RuleListError RuleList :=
  let list := empty.insertAll (writtenRulesOfText text)
  if list.size = 0 then .error .empty else .ok list

/-- What a file system says about bytes that are not UTF-8. -/
def notUtf8 : Text := "stream did not contain valid UTF-8".toList

/-- The list written in a file, given the contents of the file or the reason
why they are out of reach. -/
def load (path : Text) (contents : Except Text (List UInt8)) : Except RuleListError RuleList :=
  match contents with
  | .error cause => .error (.unreadable path cause)
  | .ok bytes =>
    match Text.ofBytes? bytes with
    | none => .error (.unreadable path notUtf8)
    | some text => parse text

/-! ## §3. The view of a list. -/

@[simp] theorem kindOf?_empty (rule : Rule) : empty.kindOf? rule = none := by
  simp [kindOf?, empty]

theorem kindOf?_add (list : RuleList) (rule other : Rule) (kind : SuffixKind) :
    (list.add rule kind).kindOf? other = if rule = other then some kind else list.kindOf? other := by
  simp only [kindOf?, add, Std.HashMap.getElem?_insert, beq_iff_eq]

@[simp] theorem size_empty : empty.size = 0 := by
  simp [size, empty]

theorem size_add (list : RuleList) (rule : Rule) (kind : SuffixKind) :
    (list.add rule kind).size = if (list.kindOf? rule).isSome then list.size else list.size + 1 := by
  simp only [size, add, kindOf?, Std.HashMap.size_insert, Std.HashMap.isSome_getElem?_eq_contains,
    Std.HashMap.mem_iff_contains]

/-! ## §4. Looking up a name. -/

/-- The kind that the rules give to a tail of a name, exceptions aside.  Where
an exact rule and a wildcard cover the same tail, the wildcard gives the kind. -/
def tailKind? (kindOf? : Rule → Option SuffixKind) : List Text → Option SuffixKind
  | [] => none
  | label :: base => (kindOf? ⟨.wildcard, base⟩).or (kindOf? ⟨.exact, label :: base⟩)

@[simp] theorem tailKind?_nil (kindOf? : Rule → Option SuffixKind) : tailKind? kindOf? [] = none :=
  rfl

theorem tailKind?_cons (kindOf? : Rule → Option SuffixKind) (label : Text) (base : List Text) :
    tailKind? kindOf? (label :: base) =
      (kindOf? ⟨.wildcard, base⟩).or (kindOf? ⟨.exact, label :: base⟩) :=
  rfl

/-- The suffix of a name under an exception: what stands behind its first label. -/
def exceptionSuffix (behind : List Text) (kind : SuffixKind) : Suffix :=
  -- An exception of a single label leaves no suffix but that label.
  if behind.isEmpty then .unmanaged else ⟨behind.length, kind⟩

/-- The walk from the right: `before` is the tail reached, `best` the suffix
found so far, and the remaining labels stand in reverse order. -/
def walk (kindOf? : Rule → Option SuffixKind) (before : List Text) (best : Suffix) :
    List Text → Suffix
  | [] => best
  | label :: rest =>
    let here := label :: before
    match kindOf? ⟨.exception, here⟩ with
    | some kind => exceptionSuffix before kind
    | none =>
      match tailKind? kindOf? here with
      | some kind => walk kindOf? here ⟨here.length, kind⟩ rest
      | none => walk kindOf? here best rest

/-- The public suffix of the name with the given labels. -/
def lookup (list : RuleList) (ls : List Text) : Suffix :=
  walk list.kindOf? [] .unmanaged ls.reverse

/-- The list as a source of suffixes. -/
def toSuffixList (list : RuleList) : SuffixList := ⟨list.lookup⟩

end RuleList

end DomainScope
