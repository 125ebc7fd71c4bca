/-
  DomainScope.Url.Reader
  ──────────────────────
  **READING ABSOLUTE URLS.**

  Blanks and control characters at both ends are dropped, and tabs and line
  ends everywhere.  Then come a scheme and a colon.  For the schemes of the web
  any number of slashes follows, and then a host; for the others, two slashes
  announce a host.  The host may have a name and a password in front and a port
  behind.  Path, query and fragment follow.
-/
import DomainScope.Url.HostText
import DomainScope.Url.PathText
import DomainScope.Validator.Port

namespace DomainScope.Url

/-! ## §1. The text. -/

/-- Drops control characters and spaces at both ends, and tabs and line ends. -/
def stripped (t : Text) : Text :=
  let isEdge : Char → Bool := fun c => c.toNat ≤ 0x20
  ((t.dropWhile isEdge).reverse.dropWhile isEdge).reverse.filter
    fun c => c ≠ '\x09' && c ≠ '\x0a' && c ≠ '\x0d'

/-- The scheme, in small letters, and what follows the colon. -/
def splitScheme? (t : Text) : Option (Text × Text) :=
  match Text.splitFirst ':' t with
  | none => none
  | some ([], _) => none
  | some (c :: cs, rest) =>
    if c.isAlpha && cs.all fun d => d.isAlphanum || ['+', '-', '.'].elem d then
      some (Text.lower (c :: cs), rest)
    else none

/-- A text with its query and its fragment cut off. -/
structure Ending where
  front : Text
  query : Option Text
  fragment : Option Text

/-- Cuts off the query and the fragment, and encodes them. -/
def Ending.cut (isSpecial : Bool) (t : Text) : Ending :=
  let (t, fragment) :=
    match Text.splitFirst '#' t with
    | some (front, f) => (front, some (Percent.encode Percent.fragmentSet f))
    | none => (t, none)
  let querySet := if isSpecial then Percent.specialQuerySet else Percent.querySet
  match Text.splitFirst '?' t with
  | some (front, q) => ⟨front, some (Percent.encode querySet q), fragment⟩
  | none => ⟨t, none, fragment⟩

/-! ## §2. What stands in front of the path. -/

/-- The host and what goes with it. -/
structure Authority where
  username : Text
  password : Text
  host : Host
  port : Option Nat
  /-- What follows the port without being part of it. -/
  left : Text

/-- The name and the password, encoded. -/
def readCredentials (t : Text) : Text × Text :=
  let encode := Percent.encode Percent.credentialSet
  match Text.splitFirst ':' t with
  | some (name, password) => (encode name, encode password)
  | none => (encode t, [])

/-- Reads what stands between the slashes and the path; `followed` says whether
anything follows it. -/
def readAuthority (scheme : Text) (t : Text) (followed : Bool) : Except UrlError Authority := do
  let isWeb := SchemeKind.of scheme = .web
  let (credentials, rest) :=
    match Text.splitLast '@' t with
    | some (front, rest) => (some front, rest)
    | none => (none, t)
  -- An at sign with nothing on either side is no host.
  if credentials = some [] ∧ rest.isEmpty ∧ followed then throw .emptyHost
  let (username, password) := readCredentials (credentials.getD [])
  let (hostText, portText) := splitPort false rest
  if isWeb && hostText.isEmpty then throw .emptyHost
  -- The errors of the host come before those of the port.
  let host ← if isWeb then HostText.readSpecial hostText else HostText.readOther hostText
  if hostText.isEmpty && portText.isSome then throw .emptyHost
  let (port, left) ←
    match portText with
    | some p => readPort scheme p
    | none => pure (none, [])
  -- Without a host there is nothing to log in to.
  if hostText.isEmpty && !(username.isEmpty && password.isEmpty) then throw .emptyHost
  return ⟨username, password, host, port, left⟩

/-! ## §3. The three kinds of schemes. -/

/-- Reads what follows the slashes in front of a host. -/
def readWithHost (scheme : Text) (t : Text) : Except UrlError Url := do
  let isSpecial := (SchemeKind.of scheme).isSpecial
  let isEnd : Char → Bool := fun c =>
    c = '/' || c = '?' || c = '#' || (isSpecial && c = '\\')
  let front := t.takeWhile (!isEnd ·)
  let rest := t.dropWhile (!isEnd ·)
  let authority ← readAuthority scheme front (!rest.isEmpty)
  let ending := Ending.cut isSpecial rest
  let segments := PathText.segmentsAfterHost isSpecial (authority.left ++ ending.front)
  return {
    scheme
    username := authority.username
    password := authority.password
    host := some authority.host
    port := authority.port
    path := .segments segments
    query := ending.query
    fragment := ending.fragment }

/-- Reads what follows the scheme of a file. -/
def readFile (t : Text) : Except UrlError Url := do
  let isSlash : Char → Bool := fun c => c = '/' || c = '\\'
  let noHost (rest : Text) : Url :=
    let ending := Ending.cut true rest
    { scheme := "file".toList, host := some (.name []),
      path := .segments (PathText.fileSegments ending.front).1,
      query := ending.query, fragment := ending.fragment }
  match t with
  | a :: b :: rest =>
    if isSlash a && isSlash b then
      let isEnd : Char → Bool := fun c => isSlash c || c = '?' || c = '#'
      let hostText := rest.takeWhile (!isEnd ·)
      let behind := rest.dropWhile (!isEnd ·)
      -- A drive letter in the place of the host belongs to the path.
      if hostText.isEmpty || PathText.isDriveLetter hostText then return noHost rest
      let host ← HostText.readSpecial hostText
      let ending := Ending.cut true behind
      let (segments, hasDrive) := PathText.fileSegments ending.front
      let isLocal := hasDrive || host = .name "localhost".toList
      return {
        scheme := "file".toList
        host := some (if isLocal then .name [] else host)
        path := .segments segments
        query := ending.query
        fragment := ending.fragment }
    else return noHost t
  | _ => return noHost t

/-- Reads what follows a scheme that has no two slashes behind it. -/
def readWithoutHost (scheme : Text) (t : Text) : Url :=
  let ending := Ending.cut false t
  let path : Path :=
    if t.head? = some '/' then .segments (PathText.resolve [] (PathText.cut false (ending.front.drop 1)))
    else .opaqueText (Percent.encode [] ending.front)
  { scheme, path, query := ending.query, fragment := ending.fragment }

/-- Reads an absolute URL. -/
def read (text : Text) : Except UrlError Url :=
  match splitScheme? (stripped text) with
  | none => .error .noScheme
  | some (scheme, rest) =>
    match SchemeKind.of scheme with
    | .web => readWithHost scheme (rest.dropWhile fun c => c = '/' || c = '\\')
    | .file => readFile rest
    | .other =>
      match ['/', '/'].isPrefixOf? rest with
      | some behind => readWithHost scheme behind
      | none => .ok (readWithoutHost scheme rest)

end DomainScope.Url
