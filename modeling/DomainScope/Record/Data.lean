/-
  DomainScope.Record.Data
  ───────────────────────
  **RECORD DATA AS A RESOLVER DELIVERS IT.**
-/
import DomainScope.Record.Kind
import DomainScope.Record.WireName
import DomainScope.Url.Basic

namespace DomainScope

/-- The value of a CAA property. -/
inductive CaaValue where
  /-- The bytes of a property that is not understood. -/
  | raw (bytes : List UInt8)
  /-- Where violations are reported. -/
  | url (u : Url)
  /-- Who may issue certificates, and parameters for them. -/
  | issuer (name : Option WireName) (parameters : List (Text × Text))
  deriving DecidableEq, Repr

/-- The tags of CAA properties that are understood. -/
def knownCaaTags : List Text := ["issue".toList, "issuewild".toList, "iodef".toList]

/-- A tag of a CAA property; known ones are written with small letters. -/
def caaTag (t : Text) : Text :=
  if knownCaaTags.elem (Text.lower t) then Text.lower t else t

/-- The data of a record. -/
inductive RecordData where
  | a (bits : BitVec 32)
  | aaaa (bits : BitVec 128)
  | mx (preference : UInt16) (exchange : WireName)
  | ns (target : WireName)
  | txt (strings : List (List UInt8))
  | caa (isCritical : Bool) (tag : Text) (value : CaaValue)
  | srv (priority weight port : UInt16) (target : WireName)
  | soa (mname rname : WireName) (serial : UInt32) (refresh retry expire : Int32)
      (minimum : UInt32)
  | cname (target : WireName)
  /-- A kind that is known to the resolver and not asked for here. -/
  | ptr (target : WireName)
  /-- A kind that the resolver does not know. -/
  | unknown (code : Nat) (bytes : List UInt8)
  deriving DecidableEq, Repr

/-- The number of the kind on the wire. -/
def RecordData.code : RecordData → Nat
  | .a _ => RecordKind.a.code
  | .aaaa _ => RecordKind.aaaa.code
  | .mx _ _ => RecordKind.mx.code
  | .ns _ => RecordKind.ns.code
  | .txt _ => RecordKind.txt.code
  | .caa _ _ _ => RecordKind.caa.code
  | .srv _ _ _ _ => RecordKind.srv.code
  | .soa _ _ _ _ _ _ _ => RecordKind.soa.code
  | .cname _ => RecordKind.cname.code
  | .ptr _ => 12
  | .unknown code _ => code

end DomainScope
