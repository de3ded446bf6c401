import ChatMacro.Text.Blank
import Mathlib.Data.List.DropRight

/-!
# Trimmed texts

Trimming a text leaves one that neither starts nor ends with a blank, changes no text of that kind,
and does not see blanks around a text.
-/

namespace ChatMacro
namespace Text

/-- A text that neither starts nor ends with a blank. -/
structure Trimmed (text : List Char) : Prop where
  /-- Its first character is not blank. -/
  start : ∀ character ∈ text.head?, isBlank character = false
  /-- Its last character is not blank. -/
  ending : ∀ character ∈ text.getLast?, isBlank character = false

variable {text front back : List Char}

theorem allBlank_iff : allBlank text = true ↔ ∀ character ∈ text, isBlank character = true :=
  List.all_eq_true

theorem allBlank_reverse (text : List Char) : allBlank text.reverse = allBlank text :=
  List.all_reverse

theorem trimEnd_eq_reverse (text : List Char) : trimEnd text = (trimStart text.reverse).reverse :=
  rfl

/-! ## What is left -/

theorem start_trimStart (text : List Char) :
    ∀ character ∈ (trimStart text).head?, isBlank character = false := by
  intro character first
  have notBlank := List.head?_dropWhile_not isBlank text
  rw [Option.mem_def, trimStart] at first
  rwa [first] at notBlank

theorem ending_trimEnd (text : List Char) :
    ∀ character ∈ (trimEnd text).getLast?, isBlank character = false := by
  rw [trimEnd_eq_reverse, List.getLast?_reverse]
  exact start_trimStart text.reverse

theorem trimmed_trim (text : List Char) : Trimmed (trim text) := by
  refine ⟨fun character first => ?_, ending_trimEnd (trimStart text)⟩
  obtain ⟨dropped, whole⟩ : trim text <+: trimStart text := List.rdropWhile_prefix isBlank _
  apply start_trimStart text character
  rw [← whole, Option.mem_def, List.head?_append, Option.mem_def.mp first, Option.some_or]

/-! ## Texts without blanks around them -/

theorem trimStart_of_start (start : ∀ character ∈ text.head?, isBlank character = false) :
    trimStart text = text := by
  cases text with
  | nil => rfl
  | cons character tail => exact List.dropWhile_cons_of_neg (by simp [start character rfl])

theorem trimEnd_of_ending (ending : ∀ character ∈ text.getLast?, isBlank character = false) :
    trimEnd text = text := by
  rw [trimEnd_eq_reverse, trimStart_of_start (by rwa [List.head?_reverse]), List.reverse_reverse]

theorem Trimmed.trim_eq (trimmed : Trimmed text) : trim text = text := by
  rw [trim, trimStart_of_start trimmed.start, trimEnd_of_ending trimmed.ending]

/-! ## Blanks around a text -/

theorem trimStart_append_of_blank (blank : allBlank front = true) (text : List Char) :
    trimStart (front ++ text) = trimStart text :=
  List.dropWhile_append_of_pos (allBlank_iff.mp blank)

theorem trimEnd_append_of_blank (text : List Char) (blank : allBlank back = true) :
    trimEnd (text ++ back) = trimEnd text := by
  rw [trimEnd_eq_reverse, List.reverse_append,
    trimStart_append_of_blank ((allBlank_reverse back).trans blank), ← trimEnd_eq_reverse]

theorem trimStart_of_blank (blank : allBlank text = true) : trimStart text = [] :=
  List.dropWhile_eq_nil_iff.mpr (allBlank_iff.mp blank)

theorem trimEnd_of_blank (blank : allBlank text = true) : trimEnd text = [] := by
  rw [trimEnd_eq_reverse, trimStart_of_blank ((allBlank_reverse text).trans blank),
    List.reverse_nil]

theorem trimStart_append (text back : List Char) :
    trimStart (text ++ back) =
      if (trimStart text).isEmpty then trimStart back else trimStart text ++ back :=
  List.dropWhile_append

/-- Blanks around a text do not change what trimming leaves of it. -/
theorem trim_around (frontBlank : allBlank front = true) (text : List Char)
    (backBlank : allBlank back = true) : trim (front ++ text ++ back) = trim text := by
  rw [trim, trim, List.append_assoc, trimStart_append_of_blank frontBlank, trimStart_append]
  split
  next nothing => rw [trimStart_of_blank backBlank, List.isEmpty_iff.mp nothing]
  next => exact trimEnd_append_of_blank _ backBlank

/-! ## The end of a text -/

theorem trimEnd_cons {character : Char} (solid : isBlank character = false) (text : List Char) :
    trimEnd (character :: text) = character :: trimEnd text := by
  rw [trimEnd_eq_reverse, trimEnd_eq_reverse, List.reverse_cons, trimStart_append]
  split
  next nothing =>
    rw [List.isEmpty_iff.mp nothing, trimStart_of_start (by simpa using solid)]
    rfl
  next => rw [List.reverse_append, List.reverse_singleton, List.singleton_append]

/-- A text that starts with no blank once its end is trimmed does not start with one before. -/
theorem trim_of_trimEnd {character : Char} {rest : List Char}
    (trimmed : trimEnd text = character :: rest) (solid : isBlank character = false) :
    trim text = character :: rest := by
  obtain ⟨dropped, whole⟩ : trimEnd text <+: text := List.rdropWhile_prefix isBlank _
  rw [trim, trimStart_of_start, trimmed]
  rw [← whole, trimmed, List.cons_append, List.head?_cons]
  simpa using solid

end Text
end ChatMacro
