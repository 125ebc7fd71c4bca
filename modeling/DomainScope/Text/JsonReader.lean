/-
  DomainScope.Text.JsonReader
  ───────────────────────────
  **READING FLAT JSON OBJECTS.**

  An object of text fields is read with blanks in front of its marks, with every
  escape, and with two escaped units for a character beyond the first 65536.
  Readers are put together of smaller ones.  Each of them takes something off
  the text that it reads, so a reader that repeats another one comes to an end.

  Main definitions
    `Reader`             what takes a value off the front of a text
    `Json.readObject?`   the fields of an object
-/
import DomainScope.Text.Json

namespace DomainScope.Text

/-! ## §1. Readers. -/

/-- A reader takes a value off the front of a text. -/
structure Reader (α : Type) where
  /-- The value and what follows it, if the text begins with one. -/
  read? : Text → Option (α × Text)
  /-- Something is taken off. -/
  shrinks : ∀ {t rest : Text} {a : α}, read? t = some (a, rest) → rest.length < t.length

namespace Reader

variable {α β : Type}

/-- One character that stands for a value. -/
def ofChar (value? : Char → Option α) : Reader α where
  read?
    | [] => none
    | c :: rest => (value? c).map fun a => (a, rest)
  shrinks := by
    intro t rest a h
    cases t with
    | nil => cases h
    | cons c t =>
      obtain ⟨b, -, h⟩ := Option.map_eq_some_iff.mp h
      cases h
      exact Nat.lt_succ_self rest.length

/-- One given character. -/
def exactly (c : Char) : Reader Unit := ofChar fun d => if d = c then some () else none

/-- One value after the other. -/
def both (first : Reader α) (second : Reader β) : Reader (α × β) where
  read? t := (first.read? t).bind fun (a, rest) =>
    (second.read? rest).map fun (b, rest) => ((a, b), rest)
  shrinks := by
    intro t rest p h
    obtain ⟨⟨a, rest'⟩, hfirst, h⟩ := Option.bind_eq_some_iff.mp h
    obtain ⟨⟨b, rest''⟩, hsecond, h⟩ := Option.map_eq_some_iff.mp h
    cases h
    exact Nat.lt_trans (second.shrinks hsecond) (first.shrinks hfirst)

/-- What is made of a value, if anything is. -/
def filterMap (make? : α → Option β) (item : Reader α) : Reader β where
  read? t := (item.read? t).bind fun (a, rest) => (make? a).map fun b => (b, rest)
  shrinks := by
    intro t rest b h
    obtain ⟨⟨a, rest'⟩, hitem, h⟩ := Option.bind_eq_some_iff.mp h
    obtain ⟨b', -, h⟩ := Option.map_eq_some_iff.mp h
    cases h
    exact item.shrinks hitem

/-- Something that is only passed over, before a value. -/
def before (front : Reader Unit) (item : Reader α) : Reader α :=
  (front.both item).filterMap fun (_, a) => some a

/-- A value of the one kind, or else of the other. -/
def orElse (first second : Reader α) : Reader α where
  read? t := (first.read? t).or (second.read? t)
  shrinks := by
    intro t rest a h
    rcases Option.or_eq_some_iff.mp h with h | ⟨-, h⟩
    · exact first.shrinks h
    · exact second.shrinks h

/-- A value with blanks in front of it. -/
def afterBlanks (isBlank : Char → Bool) (item : Reader α) : Reader α where
  read? t := item.read? (t.dropWhile isBlank)
  shrinks := by
    intro t rest a h
    exact Nat.lt_of_lt_of_le (item.shrinks h) (List.dropWhile_sublist isBlank).length_le

/-- The values up to a stop, and what follows the stop. -/
def upToStop? (item : Reader α) (stop : Reader Unit) (t : Text) : Option (List α × Text) :=
  match stop.read? t with
  | some (_, rest) => some ([], rest)
  | none =>
    match h : item.read? t with
    | none => none
    | some (a, rest) =>
      have : rest.length < t.length := item.shrinks h
      (upToStop? item stop rest).map fun (as, rest) => (a :: as, rest)
termination_by t.length

/-- Values of one kind up to a stop. -/
def upTo (item : Reader α) (stop : Reader Unit) : Reader (List α) where
  read? := upToStop? item stop
  shrinks := by
    intro t rest as h
    fun_induction upToStop? item stop t generalizing as with
    | case1 t u rest' hstop =>
      cases h
      exact stop.shrinks hstop
    | case2 => cases h
    | case3 t hstop a rest' hitem hlt ih =>
      obtain ⟨⟨as', rest''⟩, hrest, h⟩ := Option.map_eq_some_iff.mp h
      cases h
      exact Nat.lt_trans (ih hrest) hlt

end Reader

namespace Json

open Reader

/-! ## §2. Strings. -/

/-- The character that a letter behind a backslash stands for, `u` apart. -/
def shortEscape? (c : Char) : Option Char :=
  if c = quoteMark ∨ c = '\\' ∨ c = '/' then some c
  else if c = 'b' then some '\x08'
  else if c = 'f' then some '\x0c'
  else if c = 'n' then some '\x0a'
  else if c = 'r' then some '\x0d'
  else if c = 't' then some '\x09'
  else none

/-- A unit of four hexadecimal digits. -/
def unit : Reader Nat :=
  let digit := ofChar (digitValue? 16)
  ((digit.both digit).both (digit.both digit)).filterMap fun ((a, b), (c, d)) =>
    some (((a * 16 + b) * 16 + c) * 16 + d)

/-- The character of one unit. -/
def ofUnit? (n : Nat) : Option Char :=
  if 0xD800 ≤ n ∧ n < 0xE000 then none else some (Char.ofNat n)

/-- The character of two units, the one of its high bits first. -/
def ofUnits? (units : Nat × Nat) : Option Char :=
  let (high, low) := units
  if (0xD800 ≤ high ∧ high < 0xDC00) ∧ (0xDC00 ≤ low ∧ low < 0xE000) then
    some (Char.ofNat (0x10000 + (high - 0xD800) * 0x400 + (low - 0xDC00)))
  else none

/-- What stands behind a backslash. -/
def escape : Reader Char :=
  let wide := (exactly 'u').before unit
  (ofChar shortEscape?).orElse
    ((wide.filterMap ofUnit?).orElse
      ((wide.both ((exactly '\\').before wide)).filterMap ofUnits?))

/-- A character that stands for itself: no quote, no backslash and no control. -/
def plain : Reader Char :=
  ofChar fun c => if c = quoteMark ∨ c = '\\' ∨ c.toNat < 0x20 then none else some c

/-- One character of a string. -/
def character : Reader Char := plain.orElse ((exactly '\\').before escape)

/-! ## §3. Objects. -/

/-- The characters that may stand in front of a mark. -/
def isBlank (c : Char) : Bool := c = ' ' || c = '\t' || c = '\n' || c = '\r'

/-- A mark, with blanks in front of it. -/
def mark (c : Char) : Reader Unit := (exactly c).afterBlanks isBlank

/-- A string; blanks in front of the quote that closes it belong to it. -/
def quoted : Reader Text := (mark quoteMark).before (character.upTo (exactly quoteMark))

/-- A field: its key and its value. -/
def keyAndValue : Reader (Text × Text) := quoted.both ((mark ':').before quoted)

/-- The fields of an object, if there are any, and the brace behind them. -/
def fields : Reader (List (Text × Text)) :=
  (keyAndValue.both (((mark ',').before keyAndValue).upTo (mark '\x7d'))).filterMap
    fun (first, rest) => some (first :: rest)

/-- An object of fields. -/
def flatObject : Reader (List (Text × Text)) :=
  (mark '\x7b').before (((mark '\x7d').filterMap fun _ => some []).orElse fields)

/-- The fields of the object that a text is, blanks around it apart. -/
def readObject? (t : Text) : Option (List (Text × Text)) :=
  (flatObject.read? t).bind fun (fields, rest) => if rest.all isBlank then some fields else none

end Json

end DomainScope.Text
