/-
  DomainScope.Proofs.Text.Json
  ────────────────────────────
  **WRITTEN OBJECTS READ BACK.**

  What a reader takes off a written value is the value, whatever follows it; so
  values written one after the other are read one after the other.  A character
  is read back from its escape, hence a string from between its quotes, and an
  object from its fields.  No written object holds a line feed, so objects can
  stand on lines of their own.

  Main results
    `reads_character`          an escaped character
    `reads_quoted`             a string of any characters
    `readObject?_object`       an object of any fields
    `feed_not_mem_object`      it is a single line
    `isWriter_object`          so the writer does what is assumed of one
-/
import DomainScope.Text.JsonReader
import DomainScope.Proofs.Text.Numeral

namespace DomainScope.Text

/-! ## §1. Readers. -/

/-- Written so, a value is taken off whatever follows it. -/
def Reads {α : Type} (item : Reader α) (written : Text) (a : α) : Prop :=
  ∀ rest, item.read? (written ++ rest) = some (a, rest)

/-- Nothing is taken off what begins so. -/
def Refuses {α : Type} (item : Reader α) (written : Text) : Prop :=
  ∀ rest, item.read? (written ++ rest) = none

section Combined

variable {α β : Type} {item : Reader α} {s t : Text} {a : α} {b : β}

theorem reads_ofChar {value? : Char → Option α} {c : Char} (h : value? c = some a) :
    Reads (.ofChar value?) [c] a := by
  intro rest
  show (value? c).map _ = _
  rw [h]
  rfl

theorem refuses_ofChar {value? : Char → Option α} {c : Char} (h : value? c = none) :
    Refuses (.ofChar value?) (c :: t) := by
  intro rest
  show (value? c).map _ = _
  rw [h]
  rfl

theorem reads_exactly (c : Char) : Reads (.exactly c) [c] () := reads_ofChar (if_pos rfl)

theorem refuses_exactly {c d : Char} (h : d ≠ c) : Refuses (.exactly c) (d :: t) :=
  refuses_ofChar (if_neg h)

/-- Two values are read one after the other. -/
theorem Reads.both {second : Reader β} (ha : Reads item s a) (hb : Reads second t b) :
    Reads (item.both second) (s ++ t) (a, b) := by
  intro rest
  unfold Reader.both
  simp only [List.append_assoc, ha _, hb _, Option.bind_some, Option.map_some]

theorem Reads.filterMap {make? : α → Option β} (h : Reads item t a) (hmake : make? a = some b) :
    Reads (item.filterMap make?) t b := by
  intro rest
  unfold Reader.filterMap
  simp only [h _, hmake, Option.bind_some, Option.map_some]

theorem Reads.before {front : Reader Unit} (hfront : Reads front s ()) (h : Reads item t a) :
    Reads (front.before item) (s ++ t) a :=
  (hfront.both h).filterMap rfl

/-- Where the first reader reads a value, the second one is not asked. -/
theorem Reads.orElse {second : Reader α} (h : Reads item t a) : Reads (item.orElse second) t a := by
  intro rest
  unfold Reader.orElse
  simp only [h _, Option.some_or]

/-- Where the first one refuses, the second one reads. -/
theorem Refuses.orElse {second : Reader α} (h : Refuses item t) (hsecond : Reads second t a) :
    Reads (item.orElse second) t a := by
  intro rest
  unfold Reader.orElse
  simp only [h _, hsecond _, Option.none_or]

theorem Refuses.filterMap {make? : α → Option β} (h : Refuses item t) :
    Refuses (item.filterMap make?) t := by
  intro rest
  unfold Reader.filterMap
  simp only [h _, Option.bind_none]

/-- One value in front of a stop that does not stand here yet. -/
theorem upToStop?_of_refused {stop : Reader Unit} {rest : Text} (hstop : stop.read? t = none)
    (h : item.read? t = some (a, rest)) :
    Reader.upToStop? item stop t
      = (Reader.upToStop? item stop rest).map fun (as, rest) => (a :: as, rest) := by
  rw [Reader.upToStop?]
  simp only [hstop]
  split
  next hnone => cases hnone.symm.trans h
  next a' rest' hsome =>
    cases hsome.symm.trans h
    rfl

/-- **Values one after the other are read up to their stop**, unless one of them
begins like a stop. -/
theorem Reads.upTo {γ : Type} {stop : Reader Unit} {written : γ → Text} {value : γ → α}
    {xs : List γ} (hstop : Reads stop t ()) (h : ∀ x ∈ xs, Reads item (written x) (value x))
    (hno : ∀ x ∈ xs, Refuses stop (written x)) :
    Reads (item.upTo stop) (xs.flatMap written ++ t) (xs.map value) := by
  intro rest
  show Reader.upToStop? item stop _ = _
  induction xs with
  | nil =>
    rw [Reader.upToStop?, List.flatMap_nil, List.nil_append, hstop _]
    rfl
  | cons x xs ih =>
    rw [List.forall_mem_cons] at h hno
    simp only [List.append_assoc] at ih
    rw [List.flatMap_cons, List.append_assoc, List.append_assoc,
      upToStop?_of_refused (hno.1 _) (h.1 _), ih h.2 hno.2]
    rfl

end Combined

namespace Json

/-! ## §2. Strings. -/

/-- The quote of a string and the backslash of an escape are no characters of it. -/
theorem refuses_plain {c : Char} {t : Text} (h : c = quoteMark ∨ c = '\\' ∨ c.toNat < 0x20) :
    Refuses plain (c :: t) :=
  refuses_ofChar (if_pos h)

/-- A letter behind a backslash. -/
theorem reads_shortEscape {c d : Char} (h : shortEscape? d = some c) :
    Reads character ['\\', d] c :=
  (refuses_plain (.inr (.inl rfl))).orElse
    ((reads_exactly '\\').before (reads_ofChar h).orElse)

/-- Four hexadecimal digits make up a number. -/
theorem reads_unit {a b c d : Char} {i j k l : Nat} (ha : digitValue? 16 a = some i)
    (hb : digitValue? 16 b = some j) (hc : digitValue? 16 c = some k)
    (hd : digitValue? 16 d = some l) :
    Reads unit [a, b, c, d] (((i * 16 + j) * 16 + k) * 16 + l) := by
  have hfour := ((reads_ofChar ha).both (reads_ofChar hb)).both
    ((reads_ofChar hc).both (reads_ofChar hd))
  unfold unit
  exact hfour.filterMap rfl

/-- A control character is written in four digits, and read back from them. -/
theorem reads_escapedUnit {c : Char} (h : c.toNat < 0x20) :
    Reads character ('\\' :: 'u' :: (hexadecimal c.toNat).leftpad 4 '0') c := by
  -- Below 32 two of the four digits are zeros that pad the others.
  have hdigits : ∀ n < 0x20, (hexadecimal n).leftpad 4 '0'
      = ['0', '0', Nat.digitChar (n / 16), Nat.digitChar (n % 16)] := by decide
  have hunit : Reads unit ((hexadecimal c.toNat).leftpad 4 '0') c.toNat := by
    have hzero : digitValue? 16 '0' = some 0 := by decide
    have hhigh : digitValue? 16 (Nat.digitChar (c.toNat / 16)) = some (c.toNat / 16) :=
      digitValue?_digitChar (by decide) (by omega)
    have hlow : digitValue? 16 (Nat.digitChar (c.toNat % 16)) = some (c.toNat % 16) :=
      digitValue?_digitChar (by decide) (Nat.mod_lt _ (by decide))
    have hvalue : ((0 * 16 + 0) * 16 + c.toNat / 16) * 16 + c.toNat % 16 = c.toNat := by omega
    have hfour := reads_unit hzero hzero hhigh hlow
    rwa [hvalue, ← hdigits c.toNat h] at hfour
  have hchar : ofUnit? c.toNat = some c := by
    unfold ofUnit?
    rw [if_neg (by omega), Char.ofNat_toNat]
  have hnone : shortEscape? 'u' = none := by decide
  exact (refuses_plain (.inr (.inl rfl))).orElse ((reads_exactly '\\').before
    ((refuses_ofChar hnone).orElse (((reads_exactly 'u').before hunit).filterMap hchar).orElse))

/-- How a character is written: with a letter that stands for it, in four digits,
or as itself. -/
theorem escaped_cases (c : Char) :
    (∃ d, shortEscape? d = some c ∧ escaped c = ['\\', d]) ∨
      (c.toNat < 0x20 ∧ escaped c = '\\' :: 'u' :: (hexadecimal c.toNat).leftpad 4 '0') ∨
      (¬ (c = quoteMark ∨ c = '\\' ∨ c.toNat < 0x20) ∧ escaped c = [c]) := by
  have hletter : ∀ c ∈ [quoteMark, '\\', '\x08', '\x09', '\x0a', '\x0c', '\x0d'],
      ∃ d, shortEscape? d = some c ∧ escaped c = ['\\', d] := by
    simp only [List.forall_mem_cons]
    exact ⟨⟨quoteMark, rfl, rfl⟩, ⟨'\\', rfl, rfl⟩, ⟨'b', rfl, rfl⟩, ⟨'t', rfl, rfl⟩,
      ⟨'n', rfl, rfl⟩, ⟨'f', rfl, rfl⟩, ⟨'r', rfl, rfl⟩, by simp⟩
  by_cases hc : c ∈ [quoteMark, '\\', '\x08', '\x09', '\x0a', '\x0c', '\x0d']
  · exact .inl (hletter c hc)
  · simp only [List.mem_cons, List.not_mem_nil, or_false, not_or] at hc
    have hlong : escaped c = if c.toNat < 0x20
        then '\\' :: 'u' :: (hexadecimal c.toNat).leftpad 4 '0' else [c] := by
      simp only [escaped, hc, if_false]
    by_cases hcontrol : c.toNat < 0x20
    · exact .inr (.inl ⟨hcontrol, hlong.trans (if_pos hcontrol)⟩)
    · exact .inr (.inr ⟨by simp only [hc, hcontrol, or_self, not_false_eq_true],
        hlong.trans (if_neg hcontrol)⟩)

/-- **A character is read back from its escape.** -/
theorem reads_character (c : Char) : Reads character (escaped c) c := by
  rcases escaped_cases c with ⟨d, hd, heq⟩ | ⟨hcontrol, heq⟩ | ⟨hplain, heq⟩
  · exact heq ▸ reads_shortEscape hd
  · exact heq ▸ reads_escapedUnit hcontrol
  · exact heq ▸ (reads_ofChar (if_neg hplain)).orElse

/-- No character is written so that it begins like the quote that closes a string. -/
theorem refuses_quote (c : Char) : Refuses (.exactly quoteMark) (escaped c) := by
  rcases escaped_cases c with ⟨d, -, heq⟩ | ⟨-, heq⟩ | ⟨hplain, heq⟩
  · exact heq ▸ refuses_exactly (by decide)
  · exact heq ▸ refuses_exactly (by decide)
  · exact heq ▸ refuses_exactly fun hc => hplain (.inl hc)

/-! ## §3. Objects. -/

/-- A mark is read, and blanks in front of it would be passed over. -/
theorem reads_mark {c : Char} (h : isBlank c = false) : Reads (mark c) [c] () := by
  intro rest
  show (Reader.exactly c).read? ((c :: rest).dropWhile isBlank) = _
  rw [List.dropWhile_cons_of_neg (by simp [h])]
  exact reads_exactly c rest

theorem refuses_mark {c d : Char} {t : Text} (h : isBlank d = false) (hne : d ≠ c) :
    Refuses (mark c) (d :: t) := by
  intro rest
  show (Reader.exactly c).read? ((d :: (t ++ rest)).dropWhile isBlank) = _
  rw [List.dropWhile_cons_of_neg (by simp [h])]
  exact refuses_exactly (t := t) hne rest

/-- **A string of any characters is read back.** -/
theorem reads_quoted (t : Text) : Reads quoted (string t) t := by
  have hchars : Reads (character.upTo (.exactly quoteMark)) (t.flatMap escaped ++ [quoteMark])
      (t.map id) :=
    .upTo (reads_exactly quoteMark) (fun c _ => reads_character c) fun c _ => refuses_quote c
  rw [List.map_id] at hchars
  exact (reads_mark (by decide)).before hchars

theorem reads_keyAndValue (key value : Text) :
    Reads keyAndValue (field key value) (key, value) :=
  (reads_quoted key).both ((reads_mark (by decide)).before (reads_quoted value))

/-- Joined texts are the first of them, and each other one with the separator in
front of it. -/
theorem intercalate_cons_eq_flatMap (sep t : Text) (ts : List Text) :
    sep.intercalate (t :: ts) = t ++ ts.flatMap (sep ++ ·) := by
  induction ts generalizing t with
  | nil => simp
  | cons u us ih =>
    rw [List.intercalate_cons_of_ne_nil (by simp), ih, List.flatMap_cons]
    simp only [List.append_assoc]

/-- An object of one field or more, without the brace in front. -/
theorem reads_fields (f : Text × Text) (fs : List (Text × Text)) :
    Reads fields (field f.1 f.2 ++ (fs.flatMap (fun f => ',' :: field f.1 f.2) ++ ['\x7d']))
      (f :: fs) := by
  have hmore : Reads (((mark ',').before keyAndValue).upTo (mark '\x7d'))
      (fs.flatMap (fun f => ',' :: field f.1 f.2) ++ ['\x7d']) (fs.map id) :=
    .upTo (reads_mark (by decide))
      (fun f _ => (reads_mark (by decide)).before (reads_keyAndValue f.1 f.2))
      fun f _ => refuses_mark (by decide) (by decide)
  rw [List.map_id] at hmore
  exact ((reads_keyAndValue f.1 f.2).both hmore).filterMap rfl

/-- **An object of any fields is read back.** -/
theorem reads_flatObject (fs : List (Text × Text)) : Reads flatObject (object fs) fs := by
  have hopen : Reads (mark '\x7b') ['\x7b'] () := reads_mark (by decide)
  have hclose : Reads (mark '\x7d') ['\x7d'] () := reads_mark (by decide)
  cases fs with
  | nil =>
    have hempty : Reads ((mark '\x7d').filterMap fun _ => some []) ['\x7d']
        ([] : List (Text × Text)) := hclose.filterMap rfl
    exact hopen.before hempty.orElse
  | cons f fs =>
    have hobject : object (f :: fs) = ['\x7b'] ++
        (field f.1 f.2 ++ (fs.flatMap (fun f => ',' :: field f.1 f.2) ++ ['\x7d'])) := by
      unfold object
      rw [List.map_cons, intercalate_cons_eq_flatMap, List.flatMap_map]
      simp only [List.append_assoc, List.cons_append, List.nil_append]
    -- A field begins with a quote, so the object is not closed at once.
    have hquote : Refuses (mark '\x7d')
        (field f.1 f.2 ++ (fs.flatMap (fun f => ',' :: field f.1 f.2) ++ ['\x7d'])) :=
      refuses_mark (by decide) (by decide)
    rw [hobject]
    exact hopen.before (hquote.filterMap.orElse (reads_fields f fs))

/-- **The fields of an object are read back, and nothing is left over.** -/
theorem readObject?_object (fs : List (Text × Text)) : readObject? (object fs) = some fs := by
  have h := reads_flatObject fs []
  rw [List.append_nil] at h
  unfold readObject?
  rw [h]
  rfl

/-! ## §4. Lines. -/

/-- A line feed is escaped, and no escape of another character holds one. -/
theorem feed_not_mem_escaped (c : Char) : '\n' ∉ escaped c := by
  intro hmem
  rcases escaped_cases c with ⟨d, hd, heq⟩ | ⟨hcontrol, heq⟩ | ⟨hplain, heq⟩
  · rw [heq] at hmem
    have hfeed : d = '\n' := by simpa [eq_comm] using hmem
    rw [hfeed] at hd
    cases hd
  · have hdigits : ∀ n < 0x20, '\n' ∉ (hexadecimal n).leftpad 4 '0' := by decide
    rw [heq] at hmem
    exact hdigits c.toNat hcontrol (by simpa using hmem)
  · rw [heq, List.mem_singleton] at hmem
    exact hplain (hmem ▸ by decide)

theorem feed_not_mem_string (t : Text) : '\n' ∉ string t := by
  intro hmem
  have hmem' : '\n' ∈ t.flatMap escaped := by simpa [string, quoteMark] using hmem
  obtain ⟨c, -, hc⟩ := List.mem_flatMap.mp hmem'
  exact feed_not_mem_escaped c hc

/-- **An object is a single line.** -/
theorem feed_not_mem_object (fs : List (Text × Text)) : '\n' ∉ object fs := by
  intro hmem
  have hmem' : '\n' ∈ [','].intercalate (fs.map fun f => field f.1 f.2) := by
    simpa [object] using hmem
  rcases mem_intercalate hmem' with hcomma | ⟨t, ht, hfeed⟩
  · cases hcomma
  · obtain ⟨f, -, rfl⟩ := List.mem_map.mp ht
    rcases List.mem_append.mp hfeed with hkey | hvalue
    · exact feed_not_mem_string f.1 hkey
    · exact feed_not_mem_string f.2 (by simpa using hvalue)

/-! ## §5. Writers. -/

/-- What is assumed of a writer of objects: the fields are read back from what
is written, and that is a single line.  Which escapes it takes is left open. -/
structure IsWriter (write : Writer) : Prop where
  read_back : ∀ fs, readObject? (write fs) = some fs
  single_line : ∀ fs, '\n' ∉ write fs

/-- **The writer defined here does what is assumed of one.** -/
theorem isWriter_object : IsWriter object := ⟨readObject?_object, feed_not_mem_object⟩

end Json

end DomainScope.Text
