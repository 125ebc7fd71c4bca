/-
  DomainScope.Suffix.LabelTree
  ────────────────────────────
  **LOOKING UP A NAME IN THE TREE OF ITS LABELS.**

  The rules of a list span a tree: each rule is a path of labels read from the
  right, a wildcard rule ending in the label `*`.  A lookup descends along the
  labels of the name.  At each node it takes the child with exactly this
  label, and only if there is none the child `*`.  So a node that merely lies
  on the way to a deeper rule hides the wildcard beside it.

  A node is given by its path, and it exists when some rule passes through it;
  no tree is built.
-/
import DomainScope.Suffix.Builtin
import DomainScope.Suffix.Rule

namespace DomainScope

/-! ## §1. The tree. -/

/-- A rule as a path of labels from the right. -/
structure TreeRule where
  path : List Text
  isException : Bool
  kind : SuffixKind
  deriving DecidableEq, Repr

/-- The path of a rule. -/
def TreeRule.ofRule (rule : Rule) (kind : SuffixKind) : TreeRule :=
  match rule.shape with
  | .exact => ⟨rule.base.reverse, false, kind⟩
  | .wildcard => ⟨rule.base.reverse ++ [['*']], false, kind⟩
  | .exception => ⟨rule.base.reverse, true, kind⟩

/-- The rules that span a tree. -/
structure LabelTree where
  rules : List TreeRule

namespace LabelTree

/-- The tree of some rules. -/
def ofRules (rules : List (Rule × SuffixKind)) : LabelTree :=
  ⟨rules.map fun (rule, kind) => .ofRule rule kind⟩

/-- Whether some rule passes through the node at a path. -/
def hasNode (tree : LabelTree) (path : List Text) : Bool :=
  tree.rules.any fun rule => path.isPrefixOf rule.path

/-- The rule that ends at a path. -/
def ruleAt? (tree : LabelTree) (path : List Text) : Option TreeRule :=
  tree.rules.find? fun rule => rule.path = path

/-- The child that a label leads to. -/
def child? (tree : LabelTree) (path : List Text) (label : Text) : Option (List Text) :=
  -- The exact child is taken even if no rule ends at it.
  if tree.hasNode (path ++ [label]) then some (path ++ [label])
  else if tree.hasNode (path ++ [['*']]) then some (path ++ [['*']])
  else none

/-! ## §2. The descent. -/

/-- Descends from a node; `best` is the suffix found so far, and the remaining
labels stand in reverse order.  A rule makes all labels walked the suffix, an
exception all but the last. -/
def descend (tree : LabelTree) (path : List Text) (best : Suffix) : List Text → Suffix
  | [] => best
  | label :: rest =>
    match tree.child? path label with
    | none => best
    | some node =>
      match tree.ruleAt? node with
      | none => descend tree node best rest
      | some rule =>
        -- An exception ends the descent, whatever lies below it.
        if rule.isException then ⟨path.length, rule.kind⟩
        else descend tree node ⟨node.length, rule.kind⟩ rest

/-- The public suffix of the name with the given labels.  An empty label after
a final dot is passed over, and stays part of the suffix. -/
def lookup (tree : LabelTree) (ls : List Text) : Suffix :=
  match ls.reverse with
  | [] :: label :: rest =>
    let found := tree.descend [] .unmanaged (label :: rest)
    ⟨found.count + 1, found.kind⟩
  | labels => tree.descend [] .unmanaged labels

/-- The section that a kind of suffix belongs to. -/
def listedIn? : SuffixKind → Option Builtin.ListPart
  | .icann => some .icann
  | .privatelyOwned => some .privatelyOwned
  | .unmanaged => none

/-- The tree as the search of a compiled list; it finds no empty suffix. -/
def search (tree : LabelTree) : Builtin.Search := fun name =>
  let ls := Name.labels name
  let found := tree.lookup ls
  let suffix := Name.ofLabels (lastLabels found.count ls)
  if suffix.isEmpty then none
  else some ⟨suffix, found.kind ≠ .unmanaged, listedIn? found.kind⟩

end LabelTree

end DomainScope
