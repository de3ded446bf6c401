import ChatMacro.Proofs.Json.Numbers
import ChatMacro.Proofs.Store.Lookup

/-!
# Reading what was written

A written JSON value is read back, whatever level it is indented to and whatever follows it.
Strings and integers always are; a value with parts is read back if its parts are.
-/

namespace ChatMacro
namespace Json

/-! ## Space -/

/-- A text of nothing but space. -/
def Blank (text : List Char) : Prop :=
  ∀ character ∈ text, isSpace character = true

theorem blank_newline (depth : Nat) : Blank (newline depth) := by
  intro character member
  rcases List.mem_cons.mp member with rfl | indented
  · rfl
  · rw [List.eq_of_mem_replicate indented]
    rfl

theorem Blank.append {first second : List Char} (firstBlank : Blank first)
    (secondBlank : Blank second) : Blank (first ++ second) := by
  intro character member
  rcases List.mem_append.mp member with inFirst | inSecond
  · exact firstBlank character inFirst
  · exact secondBlank character inSecond

theorem skipSpace_append {blanks : List Char} (blank : Blank blanks) (text : List Char) :
    skipSpace (blanks ++ text) = skipSpace text :=
  List.dropWhile_append_of_pos blank

theorem skipSpace_of_ne {character : Char} (noSpace : isSpace character = false)
    (text : List Char) : skipSpace (character :: text) = character :: text := by
  simp [skipSpace, noSpace]

theorem skipSpace_skipSpace (text : List Char) : skipSpace (skipSpace text) = skipSpace text := by
  induction text with
  | nil => rfl
  | cons character tail ih =>
      cases space : isSpace character with
      | true =>
          have dropped : skipSpace (character :: tail) = skipSpace tail := by
            simp [skipSpace, space]
          rw [dropped, ih]
      | false => rw [skipSpace_of_ne space, skipSpace_of_ne space]

theorem skipSpace_append_of_ne_nil {text : List Char} (nonempty : skipSpace text ≠ [])
    (rest : List Char) : skipSpace (text ++ rest) = skipSpace text ++ rest := by
  unfold skipSpace at nonempty ⊢
  rw [List.dropWhile_append, if_neg (by simpa using nonempty)]

theorem blank_of_skipSpace {text : List Char} (skipped : skipSpace text = []) : Blank text := by
  intro character member
  have split := List.takeWhile_append_dropWhile (p := isSpace) (l := text)
  unfold skipSpace at skipped
  rw [skipped, List.append_nil] at split
  rw [← split] at member
  exact List.all_eq_true.mp List.all_takeWhile character member

/-! ## Strings -/

/-- The codes of control characters are written with four digits. -/
theorem hexCode_control : ∀ code < 32,
    hexCode code = ['0', '0', (code / 16).digitChar, (code % 16).digitChar] ∧
      hexValues? '0' '0' (code / 16).digitChar (code % 16).digitChar = some code := by
  decide

theorem readString_plain {character : Char} (noQuote : character ≠ '"')
    (noBackslash : character ≠ '\\') (noControl : ¬ character.toNat < 32)
    {text more rest : List Char} (read : readString more = some (text, rest)) :
    readString (character :: more) = some (character :: text, rest) := by
  simp [readString, noBackslash, noControl, read]

theorem readString_backslash {code character : Char} (escape : escape? code = some character)
    (noHex : code ≠ 'u') {text more rest : List Char}
    (read : readString more = some (text, rest)) :
    readString ('\\' :: code :: more) = some (character :: text, rest) := by
  simp [readString, noHex, escape, read]

theorem readString_hex {code : Nat} {first second third fourth : Char} (small : code < 32)
    (hex : hexValues? first second third fourth = some code) {text more rest : List Char}
    (read : readString more = some (text, rest)) :
    readString ('\\' :: 'u' :: first :: second :: third :: fourth :: more) =
      some (Char.ofNat code :: text, rest) := by
  have notLow : ¬ 0xDC00 ≤ code := by omega
  have notHigh : ¬ 0xD800 ≤ code := by omega
  simp [readString, hex, notLow, notHigh, read]

/-- What a character is escaped to stands for it. -/
theorem readString_escaped (character : Char) {text more rest : List Char}
    (read : readString more = some (text, rest)) :
    readString (escaped character ++ more) = some (character :: text, rest) := by
  unfold escaped
  by_cases quote : character = '"'
  · subst quote
    exact readString_backslash rfl (by decide) read
  by_cases backslash : character = '\\'
  · subst backslash
    exact readString_backslash rfl (by decide) read
  simp only [quote, backslash, decide_false, Bool.or_self, Bool.false_eq_true, if_false]
  split
  · next same => exact same ▸ readString_backslash rfl (by decide) read
  split
  · next same => exact same ▸ readString_backslash rfl (by decide) read
  split
  · next same => exact same ▸ readString_backslash rfl (by decide) read
  split
  · next same => exact same ▸ readString_backslash rfl (by decide) read
  split
  · next same => exact same ▸ readString_backslash rfl (by decide) read
  split
  · next control =>
    obtain ⟨hex_eq, value⟩ := hexCode_control character.toNat control
    have hex := readString_hex control value read
    rw [Char.ofNat_toNat] at hex
    rw [hex_eq]
    exact hex
  · next noControl => exact readString_plain quote backslash noControl read

theorem readString_flatMap (text rest : List Char) :
    readString (text.flatMap escaped ++ '"' :: rest) = some (text, rest) := by
  induction text with
  | nil => simp [readString]
  | cons character text ih =>
      rw [List.flatMap_cons, List.append_assoc]
      exact readString_escaped character ih

/-! ## Values -/

/-- A value is read back, up to space that follows it, at any indentation and in front of any text
that does not go on with a number. -/
def ReadsBack (levels : Nat) (json : Json) : Prop :=
  ∀ depth rest, Ended rest →
    ∃ blanks, Blank blanks ∧
      readLevels levels (json.pretty depth ++ rest) = some (json, blanks ++ rest)

theorem readLevels_eq (levels : Nat) :
    ∃ inner, readLevels levels = readWith inner := by
  cases levels with
  | zero => exact ⟨_, rfl⟩
  | succ levels => exact ⟨_, rfl⟩

theorem readLevels_skipSpace (levels : Nat) (text : List Char) :
    readLevels levels (skipSpace text) = readLevels levels text := by
  obtain ⟨inner, levels_eq⟩ := readLevels_eq levels
  rw [levels_eq]
  simp only [readWith, skipSpace_skipSpace]

/-- A value starts neither with a comma nor with a closing bracket. -/
theorem start_of_readLevels {levels : Nat} {text tail : List Char} {json : Json}
    (read : readLevels levels text = some (json, tail)) :
    ∃ character more, skipSpace text = character :: more ∧ character ≠ ']' ∧
      character ≠ '\x7d' := by
  obtain ⟨inner, levels_eq⟩ := readLevels_eq levels
  rw [levels_eq] at read
  cases start : skipSpace text with
  | nil =>
      exact absurd read (by simp [readWith, start, readNumber, readUnsigned, Numeral.spanDigits])
  | cons character more =>
      refine ⟨character, more, rfl, ?_, ?_⟩
      · intro bracket
        subst bracket
        exact absurd read (by simp [readWith, start, readNumber, readUnsigned, Numeral.spanDigits])
      · intro brace
        subst brace
        exact absurd read (by simp [readWith, start, readNumber, readUnsigned, Numeral.spanDigits])

theorem readsBack_string (levels : Nat) (value : String) : ReadsBack levels (string value) := by
  intro depth rest _
  refine ⟨[], by simp [Blank], ?_⟩
  obtain ⟨inner, levels_eq⟩ := readLevels_eq levels
  rw [levels_eq]
  have text_eq : (string value).pretty depth ++ rest =
      '"' :: (value.toList.flatMap escaped ++ '"' :: rest) := by
    simp [pretty, stringText]
  rw [text_eq]
  simp [readWith, skipSpace_of_ne, isSpace, readString_flatMap]

theorem start_of_readNumber {text tail : List Char} {json : Json}
    (read : readNumber text = some (json, tail)) :
    ∃ character more, text = character :: more ∧ (character = '-' ∨ character.isDigit = true) := by
  cases text with
  | nil => exact absurd read (by simp [readNumber, readUnsigned, Numeral.spanDigits])
  | cons character more =>
      refine ⟨character, more, rfl, ?_⟩
      by_cases minus : character = '-'
      · exact .inl minus
      · rw [readNumber_of_ne minus] at read
        have leading := (leading_of_readUnsigned read).1
        cases digit : character.isDigit with
        | true => exact .inr rfl
        | false => exact absurd (by simp [Numeral.spanDigits, digit]) leading

/-- What the reader of numbers reads is a value. -/
theorem readWith_of_readNumber {inner : Option (Reader Json)} {text tail : List Char} {json : Json}
    (read : readNumber text = some (json, tail)) : readWith inner text = some (json, tail) := by
  obtain ⟨character, more, rfl, start⟩ := start_of_readNumber read
  have apart (other : Char) (noMinus : other ≠ '-') (noDigit : other.isDigit = false) :
      character ≠ other := by
    rintro rfl
    rcases start with minus | digit
    · exact noMinus minus
    · exact absurd (noDigit.symm.trans digit) (by decide)
  have noSpace : isSpace character = false := by
    simp [isSpace, apart ' ' (by decide) (by decide), apart '\n' (by decide) (by decide),
      apart '\t' (by decide) (by decide), apart '\r' (by decide) (by decide)]
  have skipped := skipSpace_of_ne noSpace more
  simp [readWith, skipped, apart 'n' (by decide) (by decide), apart 't' (by decide) (by decide),
    apart 'f' (by decide) (by decide), apart '"' (by decide) (by decide),
    apart '[' (by decide) (by decide), apart '\x7b' (by decide) (by decide), read]

theorem readsBack_integer (levels : Nat) {value : Int} (aboveLeast : -(2 ^ 63) ≤ value)
    (belowGreatest : value ≤ significandLimit) : ReadsBack levels (integer value) := by
  intro depth rest ended
  refine ⟨[], by simp [Blank], ?_⟩
  obtain ⟨inner, levels_eq⟩ := readLevels_eq levels
  rw [levels_eq]
  exact readWith_of_readNumber (readNumber_integerText aboveLeast belowGreatest ended)

/-- Only the reader of numbers gives a real. -/
theorem readNumber_of_readWith {inner : Option (Reader Json)} {text tail : List Char}
    {value : Float} (read : readWith inner text = some (real value, tail)) :
    readNumber (skipSpace text) = some (real value, tail) := by
  unfold readWith at read
  split at read
  · cases read
  · cases read
  · cases read
  · simp [Option.map_eq_some_iff] at read
  · obtain ⟨item, _, arrayRead⟩ := Option.bind_eq_some_iff.mp read
    unfold readArray at arrayRead
    split at arrayRead
    · cases arrayRead
    · simp [Option.map_eq_some_iff] at arrayRead
  · obtain ⟨item, _, objectRead⟩ := Option.bind_eq_some_iff.mp read
    unfold readObject at objectRead
    split at objectRead
    · cases objectRead
    · simp [Option.map_eq_some_iff] at objectRead
  · exact read

theorem readsBack_real (levels : Nat) {value : Float}
    (parsed : parse? (realText value) = some (real value)) : ReadsBack levels (real value) := by
  intro depth rest ended
  unfold parse? at parsed
  split at parsed
  · next document blanks read =>
    split at parsed
    · next ends =>
      cases parsed
      refine ⟨blanks, blank_of_skipSpace (List.isEmpty_iff.mp ends), ?_⟩
      obtain ⟨inner, levels_eq⟩ := readLevels_eq maxLevels
      rw [levels_eq] at read
      have numeral := readNumber_of_readWith read
      obtain ⟨character, more, start, _⟩ := start_of_readNumber numeral
      have nonempty : skipSpace (realText value) ≠ [] := by
        rw [start]
        exact List.cons_ne_nil _ _
      obtain ⟨outer, levels_eq⟩ := readLevels_eq levels
      rw [← readLevels_skipSpace, levels_eq]
      change readWith outer (skipSpace (realText value ++ rest)) = _
      rw [skipSpace_append_of_ne_nil nonempty]
      exact readWith_of_readNumber (readNumber_append ended numeral)
    · exact absurd parsed (by simp)
  · exact absurd parsed (by simp)

/-! ## Values with parts -/

/-- Space in front of a value does not count. -/
theorem ReadsBack.read {levels : Nat} {json : Json} (readsBack : ReadsBack levels json)
    (depth : Nat) {text rest : List Char} (ended : Ended rest)
    (start : skipSpace text = skipSpace (json.pretty depth ++ rest)) :
    ∃ blanks, Blank blanks ∧ readLevels levels text = some (json, blanks ++ rest) := by
  obtain ⟨blanks, blank, read⟩ := readsBack depth rest ended
  refine ⟨blanks, blank, ?_⟩
  rw [← readLevels_skipSpace, start, readLevels_skipSpace, read]

/-- A written value has something else than space in it, and does not start with a bracket that
closes. -/
theorem ReadsBack.start {levels : Nat} {json : Json} (readsBack : ReadsBack levels json)
    (depth : Nat) : ∃ character more, skipSpace (json.pretty depth) = character :: more ∧
      character ≠ ']' ∧ character ≠ '\x7d' := by
  obtain ⟨blanks, _, read⟩ := readsBack depth [] ended_nil
  rw [List.append_nil] at read
  exact start_of_readLevels read

theorem readMore_comma (closing : Char) {blanks : List Char} (blank : Blank blanks)
    (text : List Char) : readMore closing (blanks ++ ',' :: text) = some (true, text) := by
  unfold readMore
  rw [skipSpace_append blank]
  rfl

theorem readMore_closing {closing : Char} (noComma : closing ≠ ',')
    (noSpace : isSpace closing = false) {blanks : List Char} (blank : Blank blanks)
    (text : List Char) : readMore closing (blanks ++ closing :: text) = some (false, text) := by
  unfold readMore
  rw [skipSpace_append blank, skipSpace_of_ne noSpace]
  simp

/-! ## Arrays -/

theorem ended_prettyItems (depth : Nat) (items : List Json) (rest : List Char) :
    Ended (prettyItems depth items ++ rest) := by
  cases items with
  | nil => exact ended_cons (by decide)
  | cons item items => exact ended_cons (by decide)

theorem length_prettyItems (depth : Nat) (items : List Json) :
    items.length < (prettyItems depth items).length := by
  induction items with
  | nil => simp [prettyItems]
  | cons item items ih =>
      simp only [prettyItems, List.length_append, List.length_cons]
      omega

/-- Items are read back one by one. -/
theorem readItems_pretty {levels : Nat} (depth : Nat) {item : Json} (items : List Json)
    (readsBack : ∀ part ∈ item :: items, ReadsBack levels part) {limit : Nat}
    (enough : items.length < limit) {text rest : List Char}
    (start : skipSpace text =
      skipSpace (item.pretty (depth + 1) ++ (prettyItems depth items ++ rest))) :
    readItems (readLevels levels) limit text = some (item :: items, rest) := by
  induction items generalizing item limit text with
  | nil =>
      obtain ⟨limit, rfl⟩ := Nat.exists_eq_succ_of_ne_zero (Nat.ne_zero_of_lt enough)
      obtain ⟨blanks, blank, read⟩ := (readsBack item List.mem_cons_self).read (depth + 1)
        (ended_prettyItems depth [] rest) start
      have spaced := blank.append (blank_newline depth)
      have closed : readMore ']' (blanks ++ (prettyItems depth [] ++ rest)) =
          some (false, rest) := by
        simpa [prettyItems] using readMore_closing (by decide) (by decide) spaced rest
      simp [readItems, read, closed]
  | cons next items ih =>
      obtain ⟨limit, rfl⟩ := Nat.exists_eq_succ_of_ne_zero (Nat.ne_zero_of_lt enough)
      obtain ⟨blanks, blank, read⟩ := (readsBack item List.mem_cons_self).read (depth + 1)
        (ended_prettyItems depth (next :: items) rest) start
      have continued := readMore_comma ']' blank
        (newline (depth + 1) ++ (next.pretty (depth + 1) ++ (prettyItems depth items ++ rest)))
      have later := ih (fun part member => readsBack part (List.mem_cons_of_mem _ member))
        (Nat.lt_of_succ_lt_succ enough) (skipSpace_append (blank_newline (depth + 1)) _)
      simp only [prettyItems, List.cons_append, List.append_assoc] at read
      simp [readItems, read, continued, later]

theorem readWith_array (item : Reader Json) (text : List Char) :
    readWith (some item) ('[' :: text) = readArray item text := rfl

theorem readArray_of_ne (item : Reader Json) {text more : List Char} {character : Char}
    (start : skipSpace text = character :: more) (noBracket : character ≠ ']') :
    readArray item text =
      (readItems item (more.length + 1) (character :: more)).map
        fun (items, rest) => (array items, rest) := by
  simp [readArray, start, noBracket]

/-- An array is read back if its items are. -/
theorem readsBack_array {levels : Nat} {items : List Json}
    (readsBack : ∀ item ∈ items, ReadsBack levels item) :
    ReadsBack (levels + 1) (array items) := by
  intro depth rest _
  refine ⟨[], by simp [Blank], ?_⟩
  cases items with
  | nil => rfl
  | cons item items =>
      obtain ⟨character, more, start, noBracket, _⟩ :=
        (readsBack item List.mem_cons_self).start (depth + 1)
      have nonempty : skipSpace (item.pretty (depth + 1)) ≠ [] := by
        rw [start]
        exact List.cons_ne_nil _ _
      have body : skipSpace (newline (depth + 1) ++
          (item.pretty (depth + 1) ++ (prettyItems depth items ++ rest))) =
          character :: (more ++ (prettyItems depth items ++ rest)) := by
        rw [skipSpace_append (blank_newline (depth + 1)), skipSpace_append_of_ne_nil nonempty,
          start]
        rfl
      have enough : items.length < (more ++ (prettyItems depth items ++ rest)).length + 1 := by
        have longer := length_prettyItems depth items
        simp only [List.length_append]
        omega
      have spaced : skipSpace (character :: (more ++ (prettyItems depth items ++ rest))) =
          skipSpace (item.pretty (depth + 1) ++ (prettyItems depth items ++ rest)) := by
        rw [← body, skipSpace_skipSpace, skipSpace_append (blank_newline (depth + 1))]
      have read := readItems_pretty depth items readsBack enough spaced
      have text_eq : (array (item :: items)).pretty depth ++ rest = '[' :: (newline (depth + 1) ++
          (item.pretty (depth + 1) ++ (prettyItems depth items ++ rest))) := by
        simp [pretty]
      change readWith (some (readLevels levels)) _ = _
      rw [text_eq, readWith_array, readArray_of_ne _ body noBracket, read]
      rfl

/-! ## Objects -/

theorem ended_prettyFields (depth : Nat) (fields : List (String × Json)) (rest : List Char) :
    Ended (prettyFields depth fields ++ rest) := by
  cases fields with
  | nil => exact ended_cons (by decide)
  | cons field fields => exact ended_cons (by decide)

theorem length_prettyFields (depth : Nat) (fields : List (String × Json)) :
    fields.length < (prettyFields depth fields).length := by
  induction fields with
  | nil => simp [prettyFields]
  | cons field fields ih =>
      simp only [prettyFields, List.length_append, List.length_cons]
      omega

/-- The text of a field without the space in front, and what follows it. -/
def fieldText (depth : Nat) (field : String × Json) (rest : List Char) : List Char :=
  '"' :: (field.1.toList.flatMap escaped ++ '"' :: ':' :: ' ' ::
    (field.2.pretty (depth + 1) ++ rest))

theorem readField_fieldText {levels : Nat} (depth : Nat) {field : String × Json}
    (readsBack : ReadsBack levels field.2) {text rest : List Char} (ended : Ended rest)
    (start : skipSpace text = fieldText depth field rest) :
    ∃ blanks, Blank blanks ∧
      readField (readLevels levels) text = some (field, blanks ++ rest) := by
  have spaced : skipSpace (' ' :: (field.2.pretty (depth + 1) ++ rest)) =
      skipSpace (field.2.pretty (depth + 1) ++ rest) := rfl
  obtain ⟨blanks, blank, read⟩ := readsBack.read (depth + 1) ended spaced
  refine ⟨blanks, blank, ?_⟩
  unfold fieldText at start
  simp [readField, start, readString_flatMap, skipSpace_of_ne, isSpace, read]

/-- Fields are read back one by one. -/
theorem readFields_pretty {levels : Nat} (depth : Nat) {field : String × Json}
    (fields : List (String × Json))
    (readsBack : ∀ part ∈ field :: fields, ReadsBack levels part.2) {limit : Nat}
    (enough : fields.length < limit) {text rest : List Char}
    (start : skipSpace text = fieldText depth field (prettyFields depth fields ++ rest)) :
    readFields (readLevels levels) limit text = some (field :: fields, rest) := by
  induction fields generalizing field limit text with
  | nil =>
      obtain ⟨limit, rfl⟩ := Nat.exists_eq_succ_of_ne_zero (Nat.ne_zero_of_lt enough)
      obtain ⟨blanks, blank, read⟩ := readField_fieldText depth (readsBack field List.mem_cons_self)
        (ended_prettyFields depth [] rest) start
      have spaced := blank.append (blank_newline depth)
      have closed : readMore '\x7d' (blanks ++ (prettyFields depth [] ++ rest)) =
          some (false, rest) := by
        simpa [prettyFields] using readMore_closing (by decide) (by decide) spaced rest
      simp [readFields, read, closed]
  | cons next fields ih =>
      obtain ⟨limit, rfl⟩ := Nat.exists_eq_succ_of_ne_zero (Nat.ne_zero_of_lt enough)
      obtain ⟨blanks, blank, read⟩ := readField_fieldText depth (readsBack field List.mem_cons_self)
        (ended_prettyFields depth (next :: fields) rest) start
      have continued := readMore_comma '\x7d' blank
        (newline (depth + 1) ++ fieldText depth next (prettyFields depth fields ++ rest))
      have quote : skipSpace (fieldText depth next (prettyFields depth fields ++ rest)) =
          fieldText depth next (prettyFields depth fields ++ rest) := rfl
      have later := ih (fun part member => readsBack part (List.mem_cons_of_mem _ member))
        (Nat.lt_of_succ_lt_succ enough)
        ((skipSpace_append (blank_newline (depth + 1)) _).trans quote)
      simp only [prettyFields, stringText, List.cons_append, List.append_assoc] at read
      simp only [fieldText] at continued later
      simp [readFields, read, continued, later]

theorem readWith_object (item : Reader Json) (text : List Char) :
    readWith (some item) ('\x7b' :: text) = readObject item text := rfl

theorem readObject_fieldText (item : Reader Json) (depth : Nat) (field : String × Json)
    {text rest : List Char} (start : skipSpace text = fieldText depth field rest) :
    readObject item text =
      (readFields item (fieldText depth field rest).length (fieldText depth field rest)).map
        fun (fields, rest) => (object (Keyed.ofList fields), rest) := by
  unfold readObject
  rw [start]
  rfl

/-- An object is read back if its values are and its names increase. -/
theorem readsBack_object {levels : Nat} {fields : List (String × Json)}
    (ordered : Keyed.Ordered fields) (readsBack : ∀ field ∈ fields, ReadsBack levels field.2) :
    ReadsBack (levels + 1) (object fields) := by
  intro depth rest _
  refine ⟨[], by simp [Blank], ?_⟩
  cases fields with
  | nil => rfl
  | cons field fields =>
      have text_eq : (object (field :: fields)).pretty depth ++ rest = '\x7b' ::
          (newline (depth + 1) ++ fieldText depth field (prettyFields depth fields ++ rest)) := by
        simp [pretty, fieldText, stringText]
      have quote : skipSpace (newline (depth + 1) ++
          fieldText depth field (prettyFields depth fields ++ rest)) =
          fieldText depth field (prettyFields depth fields ++ rest) :=
        skipSpace_append (blank_newline (depth + 1)) _
      have enough : fields.length <
          (fieldText depth field (prettyFields depth fields ++ rest)).length := by
        have longer := length_prettyFields depth fields
        simp only [fieldText, List.length_append, List.length_cons]
        omega
      have read := readFields_pretty depth fields readsBack enough
        (rfl : skipSpace (fieldText depth field (prettyFields depth fields ++ rest)) = _)
      change readWith (some (readLevels levels)) _ = _
      rw [text_eq, readWith_object, readObject_fieldText _ depth field quote, read]
      simp [Keyed.ofList_of_ordered ordered]

/-- A document is read back if it is read back as a value. -/
theorem parse?_pretty {json : Json} (readsBack : ReadsBack maxLevels json) :
    parse? (json.pretty 0) = some json := by
  obtain ⟨blanks, blank, read⟩ := readsBack 0 [] ended_nil
  have skipped := skipSpace_append blank []
  rw [List.append_nil] at read
  unfold parse?
  rw [read]
  simp only [skipped]
  rfl

end Json
end ChatMacro
