/-
  DomainScope.Name.Slice
  ──────────────────────
  **SPLITTING A NAME AT BYTE POSITIONS.**

  The same splitting as `Decomposer.decompose`, on texts instead of labels: the
  suffix is a piece of text, and the rest of the name is what lies before the
  dot in front of it, at a position computed from two lengths.  Each cut can
  miss, so each step has the outcome `none`: a position outside the name, inside
  a character, or with no dot where one must stand.
-/
import DomainScope.Name.Decompose
import DomainScope.Suffix.Builtin
import DomainScope.Text.Slice

namespace DomainScope

/-! ## §1. Lists asked for texts. -/

/-- A suffix list asked for the text of a name: the text of its suffix and who
manages it, or `none` if the answer is cut where the name cannot be cut. -/
abbrev SlicedList := Text → Option (Text × SuffixKind)

/-- A list that never cuts a name at a computed position. -/
def SuffixList.sliced (list : SuffixList) : SlicedList := fun name => some (list.publicSuffix name)

/-- A compiled list: as many last bytes of the name as the suffix found has. -/
def Builtin.sliced (search : Search) : SlicedList := fun name =>
  let last := ((Text.splitLast '.' name).map Prod.snd).getD name
  match search name with
  | none => some (last, .unmanaged)
  | some found =>
    if found.isOut name then some (last, .unmanaged)
    else
      match Text.cutAt? name (Text.byteLength name - Text.byteLength found.suffix) with
      | some (before, suffix) =>
        if before = [] ∨ before.getLast? = some '.' then some (suffix, found.kind) else none
      | none => none

/-! ## §2. The walk and the cut. -/

namespace SlicedList

/-- The walk to the suffix of a name. -/
def walk? (policy : Policy) (list : SlicedList) (name : Text) : Option Text :=
  match list name with
  | none => none
  | some (suffix, kind) =>
    if SuffixKind.isBoundary policy kind then some suffix
    else
      match Text.splitFirst '.' suffix with
      | none => some suffix
      | some (_, rest) =>
        -- What is left of a suffix longer than the name is no piece of it.
        if rest.length < name.length then walk? policy list rest else none
termination_by name.length

/-- The parts of a name in normal form with the given suffix. -/
def partsAt? (name tld : Text) : Option Parts :=
  let size := Text.byteLength name
  let tldSize := Text.byteLength tld
  if tldSize = size then some { tld := tld }
  else if size < tldSize + 1 then none
  else
    match Text.cutAt? name (size - tldSize - 1) with
    | some (rest, '.' :: _) =>
      match Text.splitLast '.' rest with
      | some (sub, domain) => some { tld := tld, domain := domain, sub := sub }
      | none => some { tld := tld, domain := rest }
    | _ => none

/-- Checks a name and splits it. -/
def decompose? (policy : Policy) (list : SlicedList) (name : Text) :
    Option (Except InvalidName Parts) :=
  match Name.validate policy name with
  | .error e => some (.error e)
  | .ok () =>
    let cleaned := Name.clean name
    if cleaned.isEmpty then some (.ok {})
    else
      match walk? policy list cleaned with
      | none => none
      | some tld => (partsAt? cleaned tld).map .ok

end SlicedList

end DomainScope
