/-
  DomainScope.Resolver.SpecialUse
  ───────────────────────────────
  **NAMES THAT ARE ANSWERED WITHOUT A SERVER.**

  Names under `localhost` have the loopback addresses and nothing else, and
  names under `invalid` have nothing.  All other names have to be asked of a
  server, and fail if none can be reached.  A text that is no name at all fails
  before anything is asked.
-/
import DomainScope.Name.Basic
import DomainScope.Resolver.Reply

namespace DomainScope

/-! ## §1. Names that can be asked for. -/

/-- The greatest length of a name that can be asked for, in bytes. -/
def longestQuery : Nat := 255

/-- Whether a text can be asked for: no empty labels, none over 63 bytes, no
blanks, and not too long. -/
def isAskable (name : Text) : Bool :=
  Text.byteLength name ≤ longestQuery && !name.any Text.isBlank
    && (name = ['.'] || (Name.labels (Name.dropFinalDot name)).all fun label =>
      !label.isEmpty && Text.byteLength label ≤ WireName.maxLabelLength)

/-! ## §2. Special names. -/

/-- Whether a name is `top` or below it. -/
def isUnder (top : Text) (name : Text) : Bool :=
  (Name.labels (Name.clean name)).getLast? = some top

/-- The loopback address of IPv4. -/
def loopback4 : BitVec 32 := BitVec.ofNat 32 0x7F000001

/-- The loopback address of IPv6. -/
def loopback6 : BitVec 128 := BitVec.ofNat 128 1

/-- The reply that needs no server, if the name is special. -/
def specialReply? (name : Text) (kind : RecordKind) : Option Reply :=
  if isUnder "localhost".toList name then
    match kind with
    | .a => some (.answer [.a loopback4])
    | .aaaa => some (.answer [.aaaa loopback6])
    -- All other kinds are known to be absent.
    | _ => some (.noRecords .noSuchName)
  else if isUnder "invalid".toList name then some (.noRecords .noSuchName)
  else none

/-! ## §3. When no server can be reached. -/

/-- What is said of a text that is no name. -/
def notAName : Text := "malformed name".toList

/-- What is said when no server can be reached. -/
def noConnection : Text := "no connections available".toList

/-- The source when no server can be reached: special names are answered, and
every other query fails. -/
def ReplySource.unreachable : ReplySource := fun name kind _ =>
  if isAskable name then (specialReply? name kind).getD (.failure noConnection)
  else .failure notAName

end DomainScope
