/-
  DomainScope.Url.PathText
  ────────────────────────
  **READING PATHS.**

  The text of a path is cut into segments at slashes.  A segment `.` stays
  where it is and `..` goes back one segment, also when their dots are
  percent-encoded; a drive letter such as `C:` is never gone back over.  If
  the last segment is one of these, an empty one takes its place.
-/
import DomainScope.Url.Basic
import DomainScope.Url.Percent

namespace DomainScope.PathText

/-! ## §1. Kinds of segments. -/

/-- A segment with encoded dots written as dots, if it is made of them. -/
def dots (segment : Text) : Text :=
  go segment
where
  /-- Writes each encoded dot as a dot. -/
  go : Text → Text
    | '%' :: '2' :: e :: rest =>
      if e = 'e' ∨ e = 'E' then '.' :: go rest else '%' :: '2' :: e :: rest
    | '.' :: rest => '.' :: go rest
    | t => t

/-- Whether a segment stays where it is. -/
def isSingleDot (segment : Text) : Bool := dots segment = ['.']

/-- Whether a segment goes back. -/
def isDoubleDot (segment : Text) : Bool := dots segment = ['.', '.']

/-- Whether a segment is a letter and a colon or a bar. -/
def isDriveLetter : Text → Bool
  | [letter, mark] => letter.isAlpha && (mark = ':' || mark = '|')
  | _ => false

/-! ## §2. Segments. -/

/-- The segments read so far, the last one first, without the last. -/
def back : List Text → List Text
  | [] => []
  | segment :: before => if isDriveLetter segment then segment :: before else before

/-- Goes through the segments; those read so far are given, the last one first. -/
def resolve (readSoFar : List Text) : List Text → List Text
  | [] => readSoFar.reverse
  | segment :: rest =>
    let isLast := rest.isEmpty
    if isDoubleDot segment then
      resolve (if isLast then [] :: back readSoFar else back readSoFar) rest
    else if isSingleDot segment then
      resolve (if isLast then [] :: readSoFar else readSoFar) rest
    else resolve (Percent.encode Percent.pathSet segment :: readSoFar) rest

/-- Cuts a text at slashes, and at backslashes too for special schemes. -/
def cut (isSpecial : Bool) (t : Text) : List Text :=
  List.splitOn '/' (if isSpecial then t.map fun c => if c = '\\' then '/' else c else t)

/-- Whether a text begins with a slash, or a backslash for special schemes. -/
def startsWithSlash (isSpecial : Bool) (t : Text) : Bool :=
  t.head? = some '/' || (isSpecial && t.head? = some '\\')

/-- The segments of the path that follows a host.  Special schemes always have
a segment. -/
def segmentsAfterHost (isSpecial : Bool) (t : Text) : List Text :=
  if startsWithSlash isSpecial t then resolve [] (cut isSpecial (t.drop 1))
  else if isSpecial || !t.isEmpty then resolve [] (cut isSpecial t)
  else []

/-! ## §3. Paths of files. -/

/-- The segments of the path of a file, and whether it begins with a drive
letter, which takes the place of a host.  Empty segments in front are dropped. -/
def fileSegments (t : Text) : List Text × Bool :=
  let t := if startsWithSlash true t then t.drop 1 else t
  let segments := resolve [] (cut true t)
  match segments with
  -- A drive letter is written with a colon, also if it was given with a bar.
  | [letter, _] :: rest =>
    if isDriveLetter (segments.headD []) then ([letter, ':'] :: rest, true) else (segments, false)
  | _ =>
    match segments.dropWhile List.isEmpty with
    | [] => ([[]], false)
    | kept => (kept, false)

end DomainScope.PathText
