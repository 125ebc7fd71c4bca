/-
  DomainScope.CommandLine.Report
  ──────────────────────────────
  **REPORTS.**

  A report is what goes to the two output streams and whether all went well.
  Reports on several inputs are put together in order; an input that fails does
  not stop the others.
-/
import DomainScope.Address.Network
import DomainScope.Address.Reserved
import DomainScope.Name.Decompose
import DomainScope.Text.Json

namespace DomainScope

/-! ## §1. Reports. -/

/-- What is written, and whether all went well. -/
structure Report where
  out : Text := []
  err : Text := []
  allWell : Bool := true
  deriving DecidableEq, Repr

namespace Report

/-- A line on the output stream. -/
def line (t : Text) : Report := { out := t ++ ['\n'] }

/-- A complaint on the error stream. -/
def complaint (t : Text) : Report :=
  { err := "domain_probe: ".toList ++ t ++ ['\n'], allWell := false }

/-- One report after the other. -/
def append (r s : Report) : Report := ⟨r.out ++ s.out, r.err ++ s.err, r.allWell && s.allWell⟩

/-- Several reports, one after the other. -/
def concat (reports : List Report) : Report := reports.foldr append {}

/-- Columns with tabs between them. -/
def columns (ts : List Text) : Text := ['\t'].intercalate ts

end Report

/-! ## §2. Names and their parts. -/

/-- The parts of a name as an object; the keys are in alphabetical order. -/
def partsObject (name : Text) (parts : Parts) (write : Text.Json.Writer := Text.Json.object) :
    Text :=
  write
    [("domain".toList, parts.domain), ("name".toList, name), ("sub".toList, parts.sub),
      ("tld".toList, parts.tld)]

/-- A rejected name as an object; the keys are in alphabetical order. -/
def rejectedObject (name : Text) (e : InvalidName)
    (write : Text.Json.Writer := Text.Json.object) : Text :=
  write [("error".toList, e.message), ("name".toList, name)]

/-- The report on one name: its parts, in columns or as an object. -/
def reportName (d : Decomposer) (json : Bool) (name : Text)
    (write : Text.Json.Writer := Text.Json.object) : Report :=
  match d.decompose name, json with
  | .ok parts, true => .line (partsObject name parts write)
  | .ok parts, false => .line (Report.columns [name, parts.sub, parts.domain, parts.tld])
  -- An object tells of the error where the parts would stand, so nothing goes
  -- to the error stream.
  | .error e, true => { Report.line (rejectedObject name e write) with allWell := false }
  | .error e, false => .complaint e.message

/-- The report on some names. -/
def reportNames (d : Decomposer) (json : Bool) (names : List Text)
    (write : Text.Json.Writer := Text.Json.object) : Report :=
  .concat (names.map fun name => reportName d json name write)

/-! ## §3. Addresses and networks. -/

/-- The line on a network. -/
def networkLine (input : Text) (network : Network) : Text :=
  let last := (network.last.map Address.write).getD ['-']
  let count := (network.usable.map HostRange.remaining).getD 0
  Report.columns
    [input, "first=".toList ++ network.first.write, "last=".toList ++ last,
      "usable=".toList ++ Text.decimal count]

/-- The line on an address. -/
def addressLine (a : Address) : Text :=
  let version := a.family.name.toList
  match Reserved.range? a with
  | some range =>
    Report.columns
      [a.write, version, "reserved".toList,
        range.network.write ++ '/' :: Text.decimal range.bits ++ ' ' :: range.description.toList]
  | none => Report.columns [a.write, version, "public".toList]

/-- The report on one input, which is a network if it holds a slash. -/
def reportAddress (input : Text) : Report :=
  if '/' ∈ input then
    match Network.ofCidr input with
    | .ok network => .line (networkLine input network)
    | .error e => .complaint e.message
  else
    match Address.read? input with
    | some a => .line (addressLine a)
    | none => .complaint ("invalid IP address '".toList ++ input ++ ['\x27'])

/-- The report on some addresses and networks. -/
def reportAddresses (inputs : List Text) : Report := .concat (inputs.map reportAddress)

end DomainScope
