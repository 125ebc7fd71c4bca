/-
  DomainScope.Suffix.Tails
  ────────────────────────
  **LOOKING UP A TEXT TAIL BY TAIL.**

  The same look-ups as on labels, on the text of a name: the text is cut behind
  its dots, from the right, and never taken apart into labels.  A list of rules
  goes through all tails, from the last label outwards; the list for running
  without a list cuts off one tail of two labels.  Any text can be looked up:
  where dots stand at its ends or side by side, some tails begin with a dot or
  are empty.

  Main definitions
    `Name.tailsOutwards`, `Name.tailOf`, `Name.lastLabel`   tails of a text
    `RuleList.suffixOfText`                                 asking a list of rules
    `Fallback.suffixOfText`                                 asking without a list
-/
import DomainScope.Suffix.Fallback
import DomainScope.Suffix.RuleList

namespace DomainScope

/-! ## §1. Tails of a text. -/

namespace Name

/-- What stands behind the dots of a text, from the first dot to the last. -/
def behindDots : Text → List Text
  | [] => []
  | c :: cs => if c = '.' then cs :: behindDots cs else behindDots cs

/-- The tails of a text from the last label outwards: `c`, `b.c`, `a.b.c`. -/
def tailsOutwards (name : Text) : List Text := (behindDots name).reverse ++ [name]

/-- What stands behind the last dot, or the whole text if it has none. -/
def lastLabel (name : Text) : Text := ((Text.splitLast '.' name).map Prod.snd).getD name

/-- The text of the last `count` labels, or the whole text if it has fewer. -/
def tailOf (count : Nat) (name : Text) : Text :=
  match count with
  | 0 => []
  -- The last dot but `count` stands in front of them.
  | count + 1 => (behindDots name).reverse[count]?.getD name

/-- The suffix of a text that no rule matches. -/
def unlisted (name : Text) : Text × SuffixKind := (lastLabel name, .unmanaged)

end Name

/-! ## §2. Asking a list of rules. -/

namespace RuleList

/-- The walk over the tails of a text: `parent` is the tail before, if there is
one, and `best` the suffix found so far. -/
def scan (kindOf? : Rule → Option SuffixKind) (name : Text) (parent : Option Text)
    (best : Option (Text × SuffixKind)) : List Text → Text × SuffixKind
  | [] => best.getD (Name.unlisted name)
  | tail :: rest =>
    match kindOf? ⟨.exception, Name.labels tail⟩ with
    | some kind =>
      match parent with
      | some before => (before, kind)
      | none => Name.unlisted name
    | none =>
      let exact := (kindOf? ⟨.exact, Name.labels tail⟩).map fun kind => (tail, kind)
      let wildcard := (parent.bind fun before => kindOf? ⟨.wildcard, Name.labels before⟩).map
        fun kind => (tail, kind)
      -- What is found later replaces what was found before.
      scan kindOf? name (some tail) (wildcard.or (exact.or best)) rest

/-- The public suffix of a text, and its kind. -/
def suffixOfText (list : RuleList) (name : Text) : Text × SuffixKind :=
  if name.isEmpty then Name.unlisted name
  else scan list.kindOf? name none none (Name.tailsOutwards name)

end RuleList

/-! ## §3. Asking without a list. -/

namespace Fallback

/-- The public suffix of a text, and its kind. -/
def suffixOfText (name : Text) : Text × SuffixKind :=
  let tail := Name.tailOf 2 name
  if tail ≠ Name.lastLabel name ∧ suffixes.any (fun suffix => suffix.toList = tail) then
    (tail, .icann)
  else Name.unlisted name

/-- The suffixes known as a list of rules, all of them of ICANN. -/
def asRules : RuleList :=
  RuleList.empty.insertAll (suffixes.map fun suffix => (suffix.toList, .icann))

end Fallback

end DomainScope
