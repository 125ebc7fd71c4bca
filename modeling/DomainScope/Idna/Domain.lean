/-
  DomainScope.Idna.Domain
  ───────────────────────
  **INTERNATIONALIZED DOMAIN NAMES.**

  A name is mapped character by character, composed, and cut at its dots.  A
  label that begins with `xn--` is read as Punycode and must stand for a label
  beyond ASCII.  Every label must then be well formed; the name is given back
  in ASCII or in Unicode.

  Main definitions
    `Idna.readLabels?`   the labels of a name, if it is well formed
    `Idna.toAscii?`      the name in ASCII
    `Idna.toUnicode?`    the name in Unicode
-/
import DomainScope.Idna.Composed
import DomainScope.Idna.Punycode
import DomainScope.Name.Basic

namespace DomainScope.Idna

/-! ## §1. Joiners. -/

/-- The zero-width non-joiner. -/
def nonJoiner : Char := Char.ofNat 0x200C

/-- The zero-width joiner. -/
def joiner : Char := Char.ofNat 0x200D

/-- The combining class of the signs that suppress a vowel. -/
def viramaClass : Nat := 9

/-- Whether a joiner may stand between what comes before it, given in reverse
order, and what comes after it. -/
def joinerFits (c : Char) (before after : Text) : Bool :=
  let afterVirama := before.head?.any (combiningClass · = viramaClass)
  if c = joiner then afterVirama
  else
    let left := (before.dropWhile (isIn transparent)).head?
    let right := (after.dropWhile (isIn transparent)).head?
    afterVirama || (left.any (isIn joinsForward) && right.any (isIn joinsBackward))

/-- Whether all joiners of a label fit; what was read stands in reverse order. -/
def joinersFit (before : Text) : Text → Bool
  | [] => true
  | c :: rest =>
    ((c ≠ joiner && c ≠ nonJoiner) || joinerFits c before rest) && joinersFit (c :: before) rest

/-! ## §2. Directions. -/

/-- Whether a name has a label with characters that run from right to left. -/
def isBidi (labels : List Text) : Bool :=
  labels.any fun label => label.any fun c => bidiClass c = .right || bidiClass c = .arabicNumber

/-- The class of the last character of a label that is not a mark without width. -/
def lastClass? (classes : List BidiClass) : Option BidiClass :=
  (classes.reverse.dropWhile (· = .nonspacing)).head?

/-- Whether a label may stand in a name with characters that run from right to left. -/
def directionFits (label : Text) : Bool :=
  let classes := label.map bidiClass
  match classes with
  | [] => true
  | .right :: _ =>
    classes.all (fun k => k ≠ .left && k ≠ .excluded)
      && (lastClass? classes = some .right || lastClass? classes = some .europeanNumber
        || lastClass? classes = some .arabicNumber)
      && !(classes.contains .europeanNumber && classes.contains .arabicNumber)
  | .left :: _ =>
    classes.all (fun k => k = .left || k = .europeanNumber || k = .neutral || k = .nonspacing)
      && (lastClass? classes = some .left || lastClass? classes = some .europeanNumber)
  | _ => false

/-! ## §3. Labels. -/

/-- What marks a label in Punycode. -/
def punycodeMark : Text := "xn--".toList

/-- The greatest length of Punycode that is read, and of a label that is written in it. -/
def longestPunycode : Nat := 2000

@[inherit_doc longestPunycode] def longestUnicode : Nat := 1000

/-- Whether a mapped and composed label is well formed. -/
def isWellFormed (label : Text) : Bool :=
  label.all isValidChar
    && !label.head?.any (isIn marks)
    && joinersFit [] label

/-- A label in both forms. -/
structure Label where
  ascii : Text
  unicode : Text
  deriving DecidableEq, Repr

/-- Reads a mapped and composed label. -/
def readLabel? (label : Text) : Option Label :=
  match punycodeMark.isPrefixOf? label with
  | some written =>
    if written.length > longestPunycode || !label.all Text.isAscii then none
    else
      match Punycode.decode? written with
      | none => none
      | some unicode =>
        -- A label has one form: what ASCII can hold is not written in Punycode.
        if !unicode.all Text.isAscii && isWellFormed unicode && composed unicode = unicode
            && (punycodeMark.isPrefixOf? unicode).isNone then
          some ⟨label, unicode⟩
        else none
  | none =>
    if label.all Text.isAscii then some ⟨label, label⟩
    else if label.length ≤ longestUnicode && isWellFormed label then
      some ⟨punycodeMark ++ Punycode.encode label, label⟩
    else none

/-! ## §4. Names. -/

/-- A name after mapping and composition, if it holds no character that names
may not hold; `denied` tells the characters of ASCII that are refused too. -/
def prepared? (denied : Char → Bool) (name : Text) : Option Text :=
  match name.mapM mapped? with
  | none => none
  | some pieces =>
    let t := composed pieces.flatten
    if t.any denied then none else some t

/-- The labels of a name, if it is well formed. -/
def readLabels? (denied : Char → Bool) (name : Text) : Option (List Label) :=
  match prepared? denied name with
  | none => none
  | some t =>
    match (Name.labels t).mapM readLabel? with
    | none => none
    | some labels =>
      -- One label from right to left puts all labels under the rules.
      let unicodes := labels.map (·.unicode)
      if isBidi unicodes && !unicodes.all directionFits then none else some labels

/-- The name in ASCII. -/
def toAscii? (denied : Char → Bool) (name : Text) : Option Text :=
  (readLabels? denied name).map fun labels => Name.ofLabels (labels.map (·.ascii))

/-- The name in Unicode. -/
def toUnicode? (name : Text) : Option Text :=
  (readLabels? (fun _ => false) name).map fun labels => Name.ofLabels (labels.map (·.unicode))

end DomainScope.Idna
