/-
  DomainScope.Suffix.Snapshot
  ───────────────────────────
  **THE LIST THAT COMES WITH THE LIBRARY.**

  The rules in the text format of public suffix lists, and the same rules as a
  tree of labels, which is how this list is searched.
-/
import DomainScope.Suffix.LabelTree

namespace DomainScope.Snapshot

/-- The lines of the list. -/
def lines : List String := [
  "// ===BEGIN ICANN DOMAINS===",
  "app", "arpa", "e164.arpa", "in-addr.arpa", "ip6.arpa", "at", "au", "com.au", "gov.au",
  "qld.gov.au", "id.au", "bd", "br", "com.br", "*.nom.br", "ch", "*.ck", "!www.ck", "cloud", "cn",
  "xn--55qx5d.cn", "co", "com", "de", "dev", "*.er", "*.fk", "io", "jp", "ac.jp", "*.kawasaki.jp",
  "!city.kawasaki.jp", "tokyo.jp", "chiyoda.tokyo.jp", "kh", "*.mm", "museum", "mx", "net",
  "*.np", "org", "parts", "ru", "sh", "uk", "co.uk", "gov.uk", "me.uk", "net.uk", "*.sch.uk",
  "us", "ca.us", "k12.ca.us", "ma.us", "k12.ma.us", "pvt.k12.ma.us", "xn--fiqs8s", "xn--p1ai",
  "co.za",
  "// ===BEGIN PRIVATE DOMAINS===",
  "netlify.app", "vercel.app", "web.app", "*.futurecms.at", "*.ex.futurecms.at",
  "*.in.futurecms.at", "*.firenet.ch", "*.svc.firenet.ch", "s3.fr-par.scw.cloud", "*.otap.co",
  "*.compute.amazonaws.com", "*.elb.amazonaws.com", "s3.amazonaws.com", "blogspot.com", "co.com",
  "firebaseapp.com", "herokuapp.com", "uk.com", "com.de", "pages.dev", "workers.dev", "github.io",
  "readthedocs.io", "azurewebsites.net", "cloudfront.net", "dyndns.org", "home.dyndns.org",
  "service.gov.uk"
]

/-- The rules as the text of a list. -/
def text : Text := lines.flatMap fun line => line.toList ++ ['\n']

/-- The rules in order, with their kinds. -/
def rules : List (Rule × SuffixKind) := rulesOfText text

/-- The tree that the rules span. -/
def tree : LabelTree := .ofRules rules

/-- The list as a source of suffixes. -/
def list : SuffixList := Builtin.list tree.search

end DomainScope.Snapshot
