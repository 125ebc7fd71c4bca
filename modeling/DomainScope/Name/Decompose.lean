/-
  DomainScope.Name.Decompose
  ──────────────────────────
  **SPLITTING A NAME INTO SUBDOMAIN, DOMAIN AND PUBLIC SUFFIX.**

  A name is checked and brought to normal form; the suffix list then gives the
  labels of the suffix, the label in front of them is the domain, and the
  labels in front of that are the subdomain.

  The suffix is found by a walk: the list is asked for the suffix of the name;
  a suffix that the list does not manage, or manages privately when private
  suffixes do not count, loses its first label and the walk goes on with what
  is left.
-/
import DomainScope.Name.Validate
import DomainScope.Suffix.Basic

namespace DomainScope

/-! ## §1. Parts. -/

/-- The parts of a name: `books.amazon.co.uk` is `books`, `amazon` and `co.uk`. -/
structure Parts where
  /-- The public suffix; empty only for the root name. -/
  tld : Text := []
  /-- The label in front of the suffix; empty if the name is a suffix. -/
  domain : Text := []
  /-- What stands in front of the domain. -/
  sub : Text := []
  deriving DecidableEq, Repr

namespace Parts

/-- Whether there is a subdomain. -/
def hasSub (p : Parts) : Bool := !p.sub.isEmpty

/-- The domain with its suffix, or the suffix alone if there is no domain. -/
def registrable (p : Parts) : Text :=
  if p.domain.isEmpty then p.tld else p.domain ++ '.' :: p.tld

/-- The parts that are not empty, joined by dots. -/
def display (p : Parts) : Text :=
  ['.'].intercalate ([p.sub, p.domain, p.tld].filter (!·.isEmpty))

/-- The domain with its suffix, if there is a domain. -/
def registrable? (p : Parts) : Option Text :=
  if p.domain.isEmpty then none else some p.registrable

end Parts

/-! ## §2. The walk to the suffix. -/

/-- Whether a suffix of this kind ends the walk. -/
def SuffixKind.isBoundary (policy : Policy) : SuffixKind → Bool
  | .icann => true
  | .privatelyOwned => policy.privateSuffixes
  | .unmanaged => false

/-- A suffix list and a policy: all that is needed to check and split names. -/
structure Decomposer where
  suffixes : SuffixList
  policy : Policy

namespace Decomposer

/-- The labels of the suffix of a name with the given labels. -/
def suffixLabels (d : Decomposer) (ls : List Text) : List Text :=
  let found := d.suffixes.lookup ls
  let tail := lastLabels found.count ls
  if SuffixKind.isBoundary d.policy found.kind then tail
  else
    match h : tail with
    | [] => []
    | [label] => [label]
    | _ :: next :: rest =>
      -- The tail is shorter than the name by the label dropped, at least.
      have : (next :: rest).length < ls.length := by
        have hle : tail.length ≤ ls.length := length_lastLabels_le _ _
        rw [h] at hle
        simp only [List.length_cons] at hle ⊢
        omega
      d.suffixLabels (next :: rest)
termination_by ls.length

/-! ## §3. Splitting. -/

/-- The parts of a name with the given labels whose suffix has `count` labels. -/
def partsAt (ls : List Text) (tld : List Text) : Parts :=
  match (ls.take (ls.length - tld.length)).reverse with
  | [] => { tld := Name.ofLabels tld }
  | domain :: sub =>
    { tld := Name.ofLabels tld, domain := domain, sub := Name.ofLabels sub.reverse }

/-- Checks a name and splits it. -/
def decompose (d : Decomposer) (name : Text) : Except InvalidName Parts := do
  Name.validate d.policy name
  let cleaned := Name.clean name
  -- Only the root name is empty in normal form.
  if cleaned.isEmpty then return {}
  let ls := Name.labels cleaned
  return partsAt ls (d.suffixLabels ls)

/-- Whether a name is valid. -/
def isValid (d : Decomposer) (name : Text) : Bool := Name.isValid d.policy name

/-- Whether a name is valid and has a subdomain. -/
def hasSub (d : Decomposer) (name : Text) : Bool :=
  match d.decompose name with
  | .ok parts => parts.hasSub
  | .error _ => false

end Decomposer

end DomainScope
