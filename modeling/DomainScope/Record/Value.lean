/-
  DomainScope.Record.Value
  ────────────────────────
  **RECORD VALUES IN PRINT.**

  Record data is turned into values whose names and strings are text; names are
  read and printed by a resolver library.  Data of kinds that are not asked for
  is passed over, and so is DNAME data in which no name is read.  One kind of
  data has no printed form: the value of a CAA property that is not understood,
  if it is not UTF-8.  Turning it into a value aborts whatever asked for it.

  Main definitions
    `Record.ofData`    the value of record data
    `Record.display`   its printed form
-/
import DomainScope.Record.Data

namespace DomainScope

/-! ## §1. Values. -/

/-- A mail exchanger; lower preferences come first. -/
structure Mx where
  preference : UInt16
  exchange : Text
  deriving DecidableEq, Repr

/-- An authorization of a certification authority. -/
structure Caa where
  flag : UInt8
  tag : Text
  value : Text
  deriving DecidableEq, Repr

/-- The place of a service. -/
structure Srv where
  priority : UInt16
  weight : UInt16
  port : UInt16
  target : Text
  deriving DecidableEq, Repr

/-- The start of a zone. -/
structure Soa where
  mname : Text
  rname : Text
  serial : UInt32
  refresh : Int32
  retry : Int32
  expire : Int32
  minimum : UInt32
  deriving DecidableEq, Repr

/-- The value of a record. -/
inductive Record where
  | a (bits : BitVec 32)
  | aaaa (bits : BitVec 128)
  | mx (value : Mx)
  | ns (target : Text)
  /-- The strings of one record, joined. -/
  | txt (text : Text)
  | caa (value : Caa)
  | srv (value : Srv)
  | soa (value : Soa)
  | cname (target : Text)
  /-- The target of a redirected subtree. -/
  | dname (target : Text)
  deriving DecidableEq, Repr

/-- A value that cannot be printed. -/
inductive Unprintable where
  /-- The value of a CAA property that is not UTF-8. -/
  | caaValue
  deriving DecidableEq, Repr

/-! ## §2. Values of record data. -/

/-- The parameters of an issuer. -/
def printParameter (parameter : Text × Text) : Text :=
  let (key, value) := parameter
  [';', ' '] ++ key ++ (if value.isEmpty then [] else '=' :: value)

/-- What stands between the quotes of a CAA value. -/
def CaaValue.body (v : CaaValue) (library : NameLibrary := .standard) : Except Unprintable Text :=
  match v with
  | .raw bytes =>
    match Text.ofBytes? bytes with
    | some t => .ok t
    | none => .error .caaValue
  | .url u => .ok u.write
  | .issuer name parameters =>
    .ok ((name.map library.print).getD [] ++ parameters.flatMap printParameter)

/-- A CAA value in print, between quotes. -/
def CaaValue.print (v : CaaValue) (library : NameLibrary := .standard) :
    Except Unprintable Text := do
  let body ← v.body library
  return '\x22' :: body ++ ['\x22']

namespace Record

/-- The value of record data, if its kind is asked for. -/
def ofData (data : RecordData) (library : NameLibrary := .standard) :
    Except Unprintable (Option Record) :=
  match data with
  | .a bits => .ok (some (.a bits))
  | .aaaa bits => .ok (some (.aaaa bits))
  | .mx preference exchange => .ok (some (.mx ⟨preference, library.print exchange⟩))
  | .ns target => .ok (some (.ns (library.print target)))
  | .txt strings => .ok (some (.txt (strings.flatMap Text.ofBytesLossy)))
  | .caa isCritical tag value => do
    let printed ← value.print library
    -- Of the eight flags only the highest has a meaning.
    return some (.caa ⟨if isCritical then 128 else 0, tag, printed⟩)
  | .srv priority weight port target =>
    .ok (some (.srv ⟨priority, weight, port, library.print target⟩))
  | .soa mname rname serial refresh retry expire minimum =>
    .ok (some (.soa ⟨library.print mname, library.print rname, serial, refresh, retry, expire,
      minimum⟩))
  | .cname target => .ok (some (.cname (library.print target)))
  | .ptr _ => .ok none
  | .unknown code bytes =>
    -- DNAME data is delivered as bytes.
    if code = RecordKind.dname.code then
      .ok ((library.read? bytes).map fun target => .dname (library.print target))
    else .ok none

/-- The values of several data, in order; data without a value is passed over. -/
def ofAnswers (records : List RecordData) (library : NameLibrary := .standard) :
    Except Unprintable (List Record) :=
  match records with
  | [] => .ok []
  | data :: rest => do
    let value ← ofData data library
    let values ← ofAnswers rest library
    return value.toList ++ values

/-- The kind of a value. -/
def kind : Record → RecordKind
  | .a _ => .a
  | .aaaa _ => .aaaa
  | .mx _ => .mx
  | .ns _ => .ns
  | .txt _ => .txt
  | .caa _ => .caa
  | .srv _ => .srv
  | .soa _ => .soa
  | .cname _ => .cname
  | .dname _ => .dname

/-! ## §3. Print. -/

/-- Texts with a space between neighbours. -/
def spaced (ts : List Text) : Text := [' '].intercalate ts

/-- The printed form of a value, without owner, class and lifetime. -/
def display : Record → Text
  | .a bits => (Address.v4 bits).write
  | .aaaa bits => (Address.v6 bits).write
  | .mx v => spaced [Text.decimal v.preference.toNat, v.exchange]
  | .ns target => target
  | .txt text => text
  | .caa v => spaced [Text.decimal v.flag.toNat, v.tag, v.value]
  | .srv v =>
    spaced [Text.decimal v.priority.toNat, Text.decimal v.weight.toNat, Text.decimal v.port.toNat,
      v.target]
  | .soa v =>
    spaced [v.mname, v.rname, Text.decimal v.serial.toNat, Text.signedDecimal v.refresh.toInt,
      Text.signedDecimal v.retry.toInt, Text.signedDecimal v.expire.toInt,
      Text.decimal v.minimum.toNat]
  | .cname target => target
  | .dname target => target

end Record

end DomainScope
