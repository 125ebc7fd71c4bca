/-
  DomainScope.Resolver.Typed
  ──────────────────────────
  **LOOK-UPS WITH VALUES OF ONE KIND.**

  Mail exchangers come in ascending preference, services in ascending priority
  and within one priority in descending weight.  What is equal in these keeps
  the order of the answer.
-/
import DomainScope.Resolver.Client

namespace DomainScope

/-! ## §1. Orders. -/

/-- Mail exchangers in ascending preference. -/
def sortedMx (values : List Mx) : List Mx :=
  values.mergeSort fun x y => x.preference ≤ y.preference

/-- Whether a service may stand in front of another one. -/
def Srv.precedes (x y : Srv) : Bool :=
  x.priority < y.priority || (x.priority = y.priority && y.weight ≤ x.weight)

/-- Services in ascending priority and descending weight. -/
def sortedSrv (values : List Srv) : List Srv := values.mergeSort Srv.precedes

/-! ## §2. Values of one kind. -/

namespace Record

/-- The address of an A record. -/
def a? : Record → Option (BitVec 32)
  | .a bits => some bits
  | _ => none

/-- The address of an AAAA record. -/
def aaaa? : Record → Option (BitVec 128)
  | .aaaa bits => some bits
  | _ => none

/-- The value of an MX record. -/
def mx? : Record → Option Mx
  | .mx v => some v
  | _ => none

/-- The target of an NS record. -/
def ns? : Record → Option Text
  | .ns target => some target
  | _ => none

/-- The text of a TXT record. -/
def txt? : Record → Option Text
  | .txt text => some text
  | _ => none

/-- The value of a CAA record. -/
def caa? : Record → Option Caa
  | .caa v => some v
  | _ => none

/-- The value of an SRV record. -/
def srv? : Record → Option Srv
  | .srv v => some v
  | _ => none

/-- The value of an SOA record. -/
def soa? : Record → Option Soa
  | .soa v => some v
  | _ => none

/-- The target of a CNAME record. -/
def cname? : Record → Option Text
  | .cname target => some target
  | _ => none

/-- The target of a DNAME record. -/
def dname? : Record → Option Text
  | .dname target => some target
  | _ => none

end Record

/-! ## §3. Look-ups. -/

namespace Client

/-- The IPv4 addresses of a name. -/
def lookupA (c : Client) (name : Text) : Except LookupError (List (BitVec 32)) := do
  return (← c.lookup name .a).filterMap Record.a?

/-- The IPv6 addresses of a name. -/
def lookupAaaa (c : Client) (name : Text) : Except LookupError (List (BitVec 128)) := do
  return (← c.lookup name .aaaa).filterMap Record.aaaa?

/-- The mail exchangers of a name. -/
def lookupMx (c : Client) (name : Text) : Except LookupError (List Mx) := do
  return sortedMx ((← c.lookup name .mx).filterMap Record.mx?)

/-- The name servers of a name. -/
def lookupNs (c : Client) (name : Text) : Except LookupError (List Text) := do
  return (← c.lookup name .ns).filterMap Record.ns?

/-- The texts of a name. -/
def lookupTxt (c : Client) (name : Text) : Except LookupError (List Text) := do
  return (← c.lookup name .txt).filterMap Record.txt?

/-- The certification authorities of a name. -/
def lookupCaa (c : Client) (name : Text) : Except LookupError (List Caa) := do
  return (← c.lookup name .caa).filterMap Record.caa?

/-- The services of a name. -/
def lookupSrv (c : Client) (name : Text) : Except LookupError (List Srv) := do
  return sortedSrv ((← c.lookup name .srv).filterMap Record.srv?)

/-- The start of the zone of a name. -/
def lookupSoa? (c : Client) (name : Text) : Except LookupError (Option Soa) := do
  return (← c.lookup name .soa).findSome? Record.soa?

/-- The names that a name is an alias of. -/
def lookupCname (c : Client) (name : Text) : Except LookupError (List Text) := do
  return (← c.lookup name .cname).filterMap Record.cname?

/-- The target that the subtree of a name is redirected to. -/
def lookupDname? (c : Client) (name : Text) : Except LookupError (Option Text) := do
  return (← c.lookup name .dname).findSome? Record.dname?

end Client

end DomainScope
