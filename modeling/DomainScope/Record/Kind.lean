/-
  DomainScope.Record.Kind
  ───────────────────────
  **KINDS OF DNS RECORDS.**
-/
import DomainScope.Text.Basic

namespace DomainScope

/-- The kinds of records that can be asked for. -/
inductive RecordKind where
  | a
  | aaaa
  | mx
  | ns
  | txt
  | caa
  | srv
  | soa
  | cname
  | dname
  deriving DecidableEq, Repr

namespace RecordKind

/-! ## §1. Orders. -/

/-- All kinds, in the order in which a survey of a name asks for them. -/
def all : List RecordKind := [.a, .aaaa, .mx, .ns, .txt, .caa, .srv, .soa, .cname, .dname]

/-- The kinds that tell whether a name exists, in the order in which they are asked for. -/
def existenceOrder : List RecordKind := [.a, .aaaa, .txt, .cname, .mx, .ns, .caa, .srv]

theorem mem_all (kind : RecordKind) : kind ∈ all := by
  cases kind <;> decide

/-! ## §2. Names and numbers. -/

/-- The name of a kind. -/
def name : RecordKind → String
  | .a => "A"
  | .aaaa => "AAAA"
  | .mx => "MX"
  | .ns => "NS"
  | .txt => "TXT"
  | .caa => "CAA"
  | .srv => "SRV"
  | .soa => "SOA"
  | .cname => "CNAME"
  | .dname => "DNAME"

/-- The number of a kind on the wire. -/
def code : RecordKind → Nat
  | .a => 1
  | .aaaa => 28
  | .mx => 15
  | .ns => 2
  | .txt => 16
  | .caa => 257
  | .srv => 33
  | .soa => 6
  | .cname => 5
  | .dname => 39

/-- A kind as it is written on a command line. -/
def flag (kind : RecordKind) : Text := Text.lower kind.name.toList

/-- The kind that a text names on a command line. -/
def ofFlag? (ignoreCase : Bool) (t : Text) : Option RecordKind :=
  let asked := if ignoreCase then Text.lower t else t
  all.find? fun kind => kind.flag = asked

/-- The kind with a name, in capital letters. -/
def ofName? (t : Text) : Option RecordKind := all.find? fun kind => kind.name.toList = t

end RecordKind

end DomainScope
