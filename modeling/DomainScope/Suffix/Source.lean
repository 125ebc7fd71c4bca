/-
  DomainScope.Suffix.Source
  ─────────────────────────
  **WHERE A SUFFIX LIST COMES FROM.**

  The list that comes with the library, the short list of the fallback, or a
  file of rules.  Only the last can fail.
-/
import DomainScope.Suffix.Fallback
import DomainScope.Suffix.RuleList
import DomainScope.Suffix.Snapshot

namespace DomainScope

/-- A source of a suffix list. -/
inductive SuffixSource where
  /-- The list that comes with the library. -/
  | builtin
  /-- The short list of two-label suffixes. -/
  | fallback
  /-- The rules in the file at a path. -/
  | file (path : Text)
  deriving DecidableEq, Repr

/-- A way to read files: the bytes at a path, or why they are out of reach. -/
abbrev FileReader := Text → Except Text (List UInt8)

namespace SuffixSource

/-- Loads the list. -/
def load (readFile : FileReader) : SuffixSource → Except RuleListError SuffixList
  | .builtin => .ok Snapshot.list
  | .fallback => .ok Fallback.list
  | .file path => (RuleList.load path (readFile path)).map RuleList.toSuffixList

end SuffixSource

/-- The report that a list could not be set up. -/
def RuleListError.setupMessage (e : RuleListError) : Text :=
  "Suffix list initialization error: ".toList ++ e.message

end DomainScope
