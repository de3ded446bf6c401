import ChatMacro.Proofs.Text.Search
import ChatMacro.Proofs.Text.Trim
import ChatMacro.Settings.Directive

/-!
# Words in quotes

A word in quotes, in which a backslash stands before each quote and each backslash, is read back
whatever it holds.  A setting and its value can be written as one word or as two, with the name
inside or outside the quotes, and are read the same.
-/

namespace ChatMacro
namespace Directive

/-! ## Writing words -/

/-- A character inside quotes. -/
def escaped (character : Char) : List Char :=
  if character = '"' || character = '\\' then ['\\', character] else [character]

/-- A word in quotes. -/
def quoted (word : List Char) : List Char :=
  '"' :: word.flatMap escaped ++ ['"']

/-- How a setting and its value are written. -/
inductive SettingForm where
  /-- As one word in quotes, `"name=value"`. -/
  | joined
  /-- As one word with the value in quotes, `name="value"`. -/
  | joinedBare
  /-- As two words in quotes, `"name" "value"`. -/
  | apart
  /-- As two words, the second one in quotes, `name "value"`. -/
  | apartBare
  deriving DecidableEq, Repr

/-- A setting and its value. -/
def settingText (form : SettingForm) (name value : List Char) : List Char :=
  match form with
  | .joined => quoted (name ++ '=' :: value)
  | .joinedBare => name ++ ['='] ++ quoted value
  | .apart => quoted name ++ [' '] ++ quoted value
  | .apartBare => name ++ [' '] ++ quoted value

/-! ## Reading them -/

section

variable (word : List Char) (rest : List Char)

theorem wordsFrom_escaped (character : Char) :
    wordsFrom .quoted (some word) (escaped character ++ rest) =
      wordsFrom .quoted (some (word ++ [character])) rest := by
  rw [escaped]
  split
  next => simp [wordsFrom, extend]
  next ordinary =>
    simp only [Bool.or_eq_true, decide_eq_true_eq, not_or] at ordinary
    simp [wordsFrom, extend, ordinary.1, ordinary.2]

theorem wordsFrom_flatMap_escaped (text : List Char) :
    wordsFrom .quoted (some word) (text.flatMap escaped ++ rest) =
      wordsFrom .quoted (some (word ++ text)) rest := by
  induction text generalizing word with
  | nil => simp
  | cons character text ih =>
      rw [List.flatMap_cons, List.append_assoc, wordsFrom_escaped, ih, List.append_assoc,
        List.singleton_append]

/-- A text in quotes goes to the end of the word that has been started. -/
theorem wordsFrom_quoted (started : Option (List Char)) (text : List Char) :
    wordsFrom .plain started (quoted text ++ rest) =
      wordsFrom .plain (some (started.getD [] ++ text)) rest := by
  have opened : quoted text ++ rest = '"' :: (text.flatMap escaped ++ '"' :: rest) := by
    simp [quoted]
  rw [opened, wordsFrom]
  simp only [if_true]
  rw [wordsFrom_flatMap_escaped, wordsFrom]
  simp only [if_true]

/-- A gap ends a word that has been started. -/
theorem wordsFrom_gap :
    wordsFrom .plain (some word) (' ' :: rest) = word :: wordsFrom .plain none rest := rfl

end

/-- A text that can stand outside quotes and in front of an equals sign. -/
def IsBare (text : List Char) : Prop :=
  ∀ character ∈ text, Text.isBlank character = false ∧ character ≠ '"' ∧ character ≠ '='

instance (text : List Char) : Decidable (IsBare text) :=
  decidable_of_iff
    ((text.all fun character =>
      !Text.isBlank character && character != '"' && character != '=') = true)
    (by simp [IsBare, and_assoc])

theorem isBlank_of_isGap {character : Char} (gap : isGap character = true) :
    Text.isBlank character = true := by
  simp only [isGap, Bool.or_eq_true, decide_eq_true_eq] at gap
  rcases gap with (((rfl | rfl) | rfl) | rfl) | rfl <;> decide

theorem isGap_of_solid {character : Char} (solid : Text.isBlank character = false) :
    isGap character = false := by
  cases gap : isGap character with
  | false => rfl
  | true =>
      rw [isBlank_of_isGap gap] at solid
      cases solid

/-- A character outside quotes goes to the end of the word that has been started. -/
theorem wordsFrom_solid {character : Char} (solid : Text.isBlank character = false)
    (unquoted : character ≠ '"') (started : Option (List Char)) (rest : List Char) :
    wordsFrom .plain started (character :: rest) =
      wordsFrom .plain (extend started character) rest := by
  rw [wordsFrom]
  simp only [unquoted, if_false, isGap_of_solid solid, Bool.false_eq_true]

theorem wordsFrom_bare {text : List Char} (bare : IsBare text) (word rest : List Char) :
    wordsFrom .plain (some word) (text ++ rest) = wordsFrom .plain (some (word ++ text)) rest := by
  induction text generalizing word with
  | nil => rw [List.nil_append, List.append_nil]
  | cons character text ih =>
      obtain ⟨⟨solid, unquoted, -⟩, later⟩ := List.forall_mem_cons.mp bare
      rw [List.cons_append, wordsFrom_solid solid unquoted, extend, Option.getD_some, ih later,
        List.append_assoc, List.singleton_append]

/-- A text outside quotes starts a word. -/
theorem wordsFrom_bare_start {text : List Char} (bare : IsBare text) (nonempty : text ≠ [])
    (rest : List Char) :
    wordsFrom .plain none (text ++ rest) = wordsFrom .plain (some text) rest := by
  cases text with
  | nil => exact absurd rfl nonempty
  | cons character text =>
      obtain ⟨⟨solid, unquoted, -⟩, later⟩ := List.forall_mem_cons.mp bare
      rw [List.cons_append, wordsFrom_solid solid unquoted]
      exact wordsFrom_bare later [character] rest

/-! ## Words -/

theorem words_quoted (word : List Char) : words (quoted word) = [String.ofList word] := by
  rw [words, ← List.append_nil (quoted word), wordsFrom_quoted]
  rfl

theorem words_quoted_pair (first second : List Char) :
    words (quoted first ++ [' '] ++ quoted second) =
      [String.ofList first, String.ofList second] := by
  rw [words, List.append_assoc, wordsFrom_quoted, List.singleton_append, wordsFrom_gap,
    ← List.append_nil (quoted second), wordsFrom_quoted]
  rfl

/-- A setting and its value are read back in every form. -/
theorem settingOf_settingText (form : SettingForm) {name : List Char} (bare : IsBare name)
    (nonempty : name ≠ []) (value : List Char) :
    settingOf (words (settingText form name value)) =
      .ok (String.ofList name, String.ofList value) := by
  have unsplit : ∀ character ∈ name, character ≠ '=' := fun character isIn =>
    (bare character isIn).2.2
  have joined : settingOf [String.ofList (name ++ '=' :: value)] =
      .ok (String.ofList name, String.ofList value) := by
    rw [settingOf, String.toList_ofList, Text.splitOnce?_append unsplit]
  have apart : settingOf [String.ofList name, String.ofList value] =
      .ok (String.ofList name, String.ofList value) := by
    rw [settingOf, String.toList_ofList, Text.splitOnce?_eq_none_iff.mpr unsplit]
    rfl
  cases form with
  | joined => rw [settingText, words_quoted, joined]
  | joinedBare =>
      have text_eq : settingText .joinedBare name value = name ++ '=' :: (quoted value ++ []) := by
        simp [settingText]
      rw [text_eq, words, wordsFrom_bare_start bare nonempty,
        wordsFrom_solid (by decide) (by decide), wordsFrom_quoted]
      simpa [wordsFrom, extend] using joined
  | apart => rw [settingText, words_quoted_pair, apart]
  | apartBare =>
      have text_eq : settingText .apartBare name value = name ++ ' ' :: (quoted value ++ []) := by
        simp [settingText]
      rw [text_eq, words, wordsFrom_bare_start bare nonempty, wordsFrom_gap, wordsFrom_quoted]
      simpa [wordsFrom] using apart

/-! ## Lines -/

/-- A line with a directive: its name behind a slash, and what follows the name. -/
def lineText (name following : List Char) : List Char :=
  '/' :: name ++ ' ' :: following

/-- A text that ends with quotes and does not start with a blank is not trimmed. -/
theorem trimmed_append_quoted {front : List Char}
    (start : ∀ character ∈ front.head?, Text.isBlank character = false) (word : List Char) :
    Text.Trimmed (front ++ quoted word) where
  start := by
    intro character first
    cases front with
    | nil =>
        cases first
        decide
    | cons character' front => exact start character first
  ending := by
    rw [quoted, ← List.append_assoc, List.getLast?_concat]
    intro character last
    cases last
    decide

theorem trimmed_settingText (form : SettingForm) {name : List Char} (bare : IsBare name)
    (nonempty : name ≠ []) (value : List Char) : Text.Trimmed (settingText form name value) := by
  obtain ⟨character, tail, rfl⟩ := List.exists_cons_of_ne_nil nonempty
  have solid : Text.isBlank character = false := (bare character List.mem_cons_self).1
  cases form with
  | joined => exact @trimmed_append_quoted [] (by simp) _
  | joinedBare => exact trimmed_append_quoted (by simpa using solid) value
  | apart => exact trimmed_append_quoted (by simp [quoted]; decide) value
  | apartBare => exact trimmed_append_quoted (by simpa using solid) value

theorem parse_lineText (home : String) {name following : List Char} (bare : IsBare name)
    (trimmed : Text.Trimmed following) (nonempty : following ≠ []) :
    parse home (lineText name following) =
      ofWords home (String.ofList name) (words following) := by
  have lineTrimmed : Text.Trimmed (lineText name following) := by
    refine ⟨?_, fun character last => trimmed.ending character ?_⟩
    · rintro _ ⟨⟩
      decide
    · rwa [lineText, List.append_cons, List.getLast?_append_of_ne_nil _ nonempty] at last
  have letters : ∀ character ∈ name, (!isGap character) = true := fun character isIn => by
    rw [isGap_of_solid (bare character isIn).1]
    rfl
  have name_eq : (name ++ ' ' :: following).takeWhile (!isGap ·) = name := by
    rw [List.takeWhile_append_of_pos letters, List.takeWhile_cons_of_neg (by decide),
      List.append_nil]
  have following_eq : ((name ++ ' ' :: following).dropWhile (!isGap ·)).drop 1 = following := by
    rw [List.dropWhile_append_of_pos letters, List.dropWhile_cons_of_neg (by decide),
      List.drop_succ_cons, List.drop_zero]
  rw [parse, lineTrimmed.trim_eq]
  change ofWords home (String.ofList ((name ++ ' ' :: following).takeWhile (!isGap ·)))
    (words (Text.trim (((name ++ ' ' :: following).dropWhile (!isGap ·)).drop 1))) = _
  rw [name_eq, following_eq, trimmed.trim_eq]

end Directive
end ChatMacro
