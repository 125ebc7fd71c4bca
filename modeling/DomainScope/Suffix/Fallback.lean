/-
  DomainScope.Suffix.Fallback
  ───────────────────────────
  **THE LIST FOR RUNNING WITHOUT A LIST.**

  Knows a handful of suffixes of two labels.  Every other name has its
  rightmost label as a suffix that nobody manages.
-/
import DomainScope.Suffix.Basic

namespace DomainScope.Fallback

/-- The suffixes known, as they are written. -/
def suffixes : List String :=
  ["co.uk", "com.br", "com.my", "com.tr", "com.pl", "com.tw", "com.ng", "com.au", "co.jp",
    "co.kr", "co.th", "co.za", "org.uk"]

/-- Whether two labels are one of the suffixes known. -/
def isKnown (ls : List Text) : Bool :=
  suffixes.any fun suffix => Name.labels suffix.toList = ls

/-- The public suffix of the name with the given labels. -/
def lookup (ls : List Text) : Suffix :=
  if isKnown (lastLabels 2 ls) then ⟨2, .icann⟩ else .unmanaged

/-- The list as a source of suffixes. -/
def list : SuffixList := ⟨lookup⟩

end DomainScope.Fallback
