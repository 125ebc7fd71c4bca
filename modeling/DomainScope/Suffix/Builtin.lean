/-
  DomainScope.Suffix.Builtin
  ──────────────────────────
  **A LIST BEHIND A SEARCH OF ITS OWN.**

  A compiled list comes with its own search: asked for a name, the search gives
  the text of the public suffix, whether a rule of the list gave it, and the
  section of that rule.  Only the length of that text is relied on; a suffix
  that is empty, or longer than the name, counts as none.
-/
import DomainScope.Suffix.Basic
import DomainScope.Text.Slice

namespace DomainScope.Builtin

/-! ## §1. The search. -/

/-- The sections of a compiled list. -/
inductive ListPart where
  | icann
  | privatelyOwned
  deriving DecidableEq, Repr

/-- What a search finds. -/
structure Found where
  /-- The text of the public suffix. -/
  suffix : Text
  /-- Whether a rule of the list gave it. -/
  isKnown : Bool
  /-- The section of that rule. -/
  listedIn? : Option ListPart
  deriving DecidableEq, Repr

/-- Who manages the suffix found. -/
def Found.kind (found : Found) : SuffixKind :=
  match found.isKnown, found.listedIn? with
  | true, some .icann => .icann
  | true, some .privatelyOwned => .privatelyOwned
  | _, _ => .unmanaged

/-- A search, asked for a name. -/
abbrev Search := Text → Option Found

/-- What a search promises: the suffix found is made of the last labels of the
name asked for. -/
def Search.WholeLabels (search : Search) : Prop :=
  ∀ name found, search name = some found →
    ∃ count, found.suffix = Name.ofLabels (lastLabels count (Name.labels name))

/-- Whether the suffix found has a length that no suffix of the name has. -/
def Found.isOut (found : Found) (name : Text) : Bool :=
  Text.byteLength found.suffix = 0 || Text.byteLength found.suffix > Text.byteLength name

/-! ## §2. The list. -/

/-- The public suffix of the name with the given labels. -/
def lookup (search : Search) (ls : List Text) : Suffix :=
  let name := Name.ofLabels ls
  match search name with
  | none => .unmanaged
  | some found =>
    if found.isOut name then .unmanaged
    else ⟨(Name.labels found.suffix).length, found.kind⟩

/-- The list as a source of suffixes. -/
def list (search : Search) : SuffixList := ⟨lookup search⟩

end DomainScope.Builtin
