/-
  DomainScope.Validator.WebAddress
  ────────────────────────────────
  **URLS WITH A HOST.**

  An absolute URL is accepted when it has a host, and when that host, if it is
  a name, is a valid domain name; single labels such as `localhost` count.
-/
import DomainScope.Name.Validate
import DomainScope.Url.Reader

namespace DomainScope.Validator

/-- Why a text is no URL with a host. -/
inductive WebAddressError where
  /-- The text is no URL. -/
  | notUrl (text : Text) (cause : UrlError)
  /-- The host is no domain name. -/
  | badHost (text : Text) (cause : InvalidName)
  /-- There is no host. -/
  | noHost (text : Text)
  deriving DecidableEq, Repr

/-- The report, with its cause at the end. -/
def WebAddressError.message : WebAddressError → Text
  | .notUrl text cause =>
    "Failed to parse URL: ".toList ++ text ++ ": ".toList ++ cause.text.toList
  | .badHost text cause => "Invalid host in URL: ".toList ++ text ++ ": ".toList ++ cause.message
  | .noHost text => "URL has no host: ".toList ++ text

/-- The policy for hosts. -/
def hostPolicy : Policy := { acceptsRootAndBareTld := true }

/-- A URL and its host. -/
structure WebAddress where
  url : Url
  host : Host
  deriving DecidableEq, Repr

/-- Reads a URL with a host. -/
def readWebAddress (text : Text) : Except WebAddressError WebAddress :=
  match Url.read text with
  | .error cause => .error (.notUrl text cause)
  | .ok url =>
    match url.host with
    | none => .error (.noHost text)
    | some (.name []) => .error (.noHost text)
    | some (.name name) =>
      match Name.validate hostPolicy name with
      | .error cause => .error (.badHost text cause)
      | .ok () => .ok ⟨url, .name name⟩
    | some host => .ok ⟨url, host⟩

end DomainScope.Validator
