/-
  DomainScope.Url.Basic
  ─────────────────────
  **URLS AND THEIR WRITTEN FORM.**

  A URL is kept in parts, each part in the form in which it is written: what
  has to be percent-encoded is encoded, hosts are in ASCII, and a port that the
  scheme implies is left out.  A text that is no URL is refused with the reason.
-/
import DomainScope.Address.Written

namespace DomainScope

/-! ## §1. Schemes. -/

/-- How a scheme treats slashes and hosts. -/
inductive SchemeKind where
  /-- The schemes of the web: a host is required, and a backslash is a slash. -/
  | web
  /-- Local files: a host may be left out. -/
  | file
  /-- All other schemes. -/
  | other
  deriving DecidableEq, Repr

/-- The schemes of the web with the ports that they imply. -/
def webSchemes : List (String × Nat) :=
  [("http", 80), ("https", 443), ("ws", 80), ("wss", 443), ("ftp", 21)]

/-- The kind of a scheme. -/
def SchemeKind.of (scheme : Text) : SchemeKind :=
  if webSchemes.any fun (s, _) => s.toList = scheme then .web
  else if scheme = "file".toList then .file
  else .other

/-- Whether a backslash separates path segments. -/
def SchemeKind.isSpecial : SchemeKind → Bool
  | .web | .file => true
  | .other => false

/-- The port that a scheme implies. -/
def impliedPort? (scheme : Text) : Option Nat :=
  (webSchemes.find? fun (s, _) => s.toList = scheme).map (·.2)

/-! ## §2. Hosts. -/

/-- The host of a URL. -/
inductive Host where
  /-- A domain name, or for other schemes than those of the web any name. -/
  | name (text : Text)
  | v4 (bits : BitVec 32)
  | v6 (bits : BitVec 128)
  deriving DecidableEq, Repr

/-- A host as it is written; all groups of IPv6 addresses are hexadecimal. -/
def Host.write : Host → Text
  | .name text => text
  | .v4 bits => Address.dotted (Address.octets bits)
  | .v6 bits => '[' :: Address.compressed (Address.groups bits) ++ [']']

/-! ## §3. Paths. -/

/-- The path of a URL. -/
inductive Path where
  /-- A text without structure. -/
  | opaqueText (text : Text)
  /-- Segments, each with a slash in front. -/
  | segments (parts : List Text)
  deriving DecidableEq, Repr

/-- A path as it is written. -/
def Path.write : Path → Text
  | .opaqueText text => text
  | .segments parts => parts.flatMap ('/' :: ·)

/-- Whether a path, written right after the scheme, would look like a host. -/
def Path.looksLikeHost : Path → Bool
  | .segments ([] :: _ :: _) => true
  | _ => false

/-! ## §4. URLs. -/

/-- A URL in parts. -/
structure Url where
  scheme : Text
  username : Text := []
  password : Text := []
  host : Option Host := none
  port : Option Nat := none
  path : Path
  query : Option Text := none
  fragment : Option Text := none
  deriving DecidableEq, Repr

namespace Url

/-- The name and the password in front of the host. -/
def writeCredentials (u : Url) : Text :=
  if u.username.isEmpty && u.password.isEmpty then []
  else u.username ++ (if u.password.isEmpty then [] else ':' :: u.password) ++ ['@']

/-- What stands between the scheme and the path. -/
def writeAuthority (u : Url) : Text :=
  match u.host with
  | some host =>
    ['/', '/'] ++ u.writeCredentials ++ host.write
      ++ (u.port.map fun p => ':' :: Text.decimal p).getD []
  | none => if u.path.looksLikeHost then ['/', '.'] else []

/-- The written form of a URL. -/
def write (u : Url) : Text :=
  u.scheme ++ ':' :: u.writeAuthority ++ u.path.write
    ++ (u.query.map ('?' :: ·)).getD [] ++ (u.fragment.map ('#' :: ·)).getD []

end Url

/-! ## §5. Why a text is no URL. -/

/-- What makes a text no URL. -/
inductive UrlError where
  /-- There is no scheme. -/
  | noScheme
  /-- A host is required and there is none. -/
  | emptyHost
  /-- The host is no internationalized domain name. -/
  | domain
  /-- The port is not a number of at most 65535. -/
  | port
  /-- The host ends in a number and is no IPv4 address. -/
  | v4
  /-- The host begins with a bracket and is no IPv6 address. -/
  | v6
  /-- The host holds a character that no host holds. -/
  | hostCharacter
  deriving DecidableEq, Repr

/-- The error in words. -/
def UrlError.text : UrlError → String
  | .noScheme => "relative URL without a base"
  | .emptyHost => "empty host"
  | .domain => "invalid international domain name"
  | .port => "invalid port number"
  | .v4 => "invalid IPv4 address"
  | .v6 => "invalid IPv6 address"
  | .hostCharacter => "invalid domain character"

end DomainScope
