import ChatMacro.Block

/-!
# Words and names

The words of a text are its runs of characters that are not blank.  A name joins the words of a text
by underscores, so it has no blanks, and what follows a text without a blank between them is
appended to the name of that text.
-/

namespace ChatMacro

namespace Text

/-- No character of a text is blank. -/
def Solid (text : List Char) : Prop :=
  ∀ character ∈ text, isBlank character = false

theorem words_cons_of_isBlank {character : Char} (blank : isBlank character = true)
    (tail : List Char) : words (character :: tail) = words tail := by
  rw [words.eq_def]
  exact if_pos blank

theorem words_singleton {character : Char} (solid : isBlank character = false) :
    words [character] = [[character]] := by
  simp [words, solid]

/-- A blank ends a word. -/
theorem words_cons_of_blank_next {character next : Char} (solid : isBlank character = false)
    (blank : isBlank next = true) (tail : List Char) :
    words (character :: next :: tail) = [character] :: words (next :: tail) := by
  rw [words.eq_def (character :: next :: tail)]
  dsimp only
  rw [if_neg (by simp [solid])]
  cases words (next :: tail) with
  | nil => rfl
  | cons word others => exact if_pos blank

/-- A character joins the word that follows it at once. -/
theorem words_cons_of_solid_next {character next : Char} (solid : isBlank character = false)
    (nextSolid : isBlank next = false) {tail word : List Char} {others : List (List Char)}
    (found : words (next :: tail) = word :: others) :
    words (character :: next :: tail) = (character :: word) :: others := by
  rw [words.eq_def]
  dsimp only
  rw [if_neg (by simp [solid]), found]
  exact if_neg (by simp [nextSolid])

/-- A text without blanks is one word. -/
theorem words_of_solid {text : List Char} (solid : Solid text) (nonempty : text ≠ []) :
    words text = [text] := by
  induction text with
  | nil => exact absurd rfl nonempty
  | cons character tail ih =>
      obtain ⟨here, there⟩ := List.forall_mem_cons.mp solid
      cases tail with
      | nil => exact words_singleton here
      | cons next tail =>
          exact words_cons_of_solid_next here (there next List.mem_cons_self)
            (ih there (List.cons_ne_nil _ _))

/-- Words are made of the characters of their text that are not blank. -/
theorem mem_of_mem_words {text word : List Char} (member : word ∈ words text) {character : Char}
    (inside : character ∈ word) : character ∈ text ∧ isBlank character = false := by
  induction text generalizing word with
  | nil => simp [words] at member
  | cons first tail ih =>
      by_cases blank : isBlank first = true
      · rw [words_cons_of_isBlank blank] at member
        exact (ih member inside).imp_left (List.mem_cons_of_mem _)
      · have solid : isBlank first = false := by simpa using blank
        have later {other : List Char} (otherMember : other ∈ words tail)
            (there : character ∈ other) :
            character ∈ first :: tail ∧ isBlank character = false :=
          (ih otherMember there).imp_left (List.mem_cons_of_mem _)
        have here (first_eq : character = first) :
            character ∈ first :: tail ∧ isBlank character = false := by
          rw [first_eq]
          exact ⟨List.mem_cons_self, solid⟩
        rw [words.eq_def] at member
        dsimp only at member
        rw [if_neg blank] at member
        split at member
        · next next rest second others found =>
          rw [found] at later
          split at member
          · rcases List.mem_cons.mp member with rfl | there
            · exact here (List.mem_singleton.mp inside)
            · exact later there inside
          · rcases List.mem_cons.mp member with rfl | there
            · rcases List.mem_cons.mp inside with first_eq | further
              · exact here first_eq
              · exact later List.mem_cons_self further
            · exact later (List.mem_cons_of_mem _ there) inside
        · rcases List.mem_cons.mp member with rfl | there
          · exact here (List.mem_singleton.mp inside)
          · exact later there inside

/-- What follows a text without a blank between them goes on with its last word. -/
theorem words_append {text : List Char} {final : Char} (last : text.getLast? = some final)
    (solid : isBlank final = false) {more : List Char} (moreSolid : Solid more) :
    ∃ front word, words text = front ++ [word] ∧
      words (text ++ more) = front ++ [word ++ more] := by
  induction text with
  | nil => simp at last
  | cons character tail ih =>
      cases tail with
      | nil =>
          obtain rfl : character = final := by simpa using last
          have whole : Solid (character :: more) := List.forall_mem_cons.mpr ⟨solid, moreSolid⟩
          exact ⟨[], [character], words_singleton solid,
            words_of_solid whole (List.cons_ne_nil _ _)⟩
      | cons next tail =>
          obtain ⟨front, word, words_eq, appended_eq⟩ := ih (by simpa using last)
          rw [List.cons_append] at appended_eq
          by_cases blank : isBlank character = true
          · exact ⟨front, word, by rw [words_cons_of_isBlank blank, words_eq],
              by rw [List.cons_append, words_cons_of_isBlank blank, List.cons_append, appended_eq]⟩
          · have characterSolid : isBlank character = false := by simpa using blank
            by_cases nextBlank : isBlank next = true
            · refine ⟨[character] :: front, word, ?_, ?_⟩
              · rw [words_cons_of_blank_next characterSolid nextBlank, words_eq, List.cons_append]
              · rw [List.cons_append, List.cons_append,
                  words_cons_of_blank_next characterSolid nextBlank, appended_eq, List.cons_append]
            · have nextSolid : isBlank next = false := by simpa using nextBlank
              cases front with
              | nil =>
                  exact ⟨[], character :: word,
                    words_cons_of_solid_next characterSolid nextSolid words_eq,
                    words_cons_of_solid_next characterSolid nextSolid appended_eq⟩
              | cons first front =>
                  exact ⟨(character :: first) :: front, word,
                    words_cons_of_solid_next characterSolid nextSolid words_eq,
                    words_cons_of_solid_next characterSolid nextSolid appended_eq⟩

/-- Every character that is not blank is in a word. -/
theorem exists_word_of_mem {text : List Char} {character : Char} (member : character ∈ text)
    (solid : isBlank character = false) : ∃ word ∈ words text, character ∈ word := by
  induction text with
  | nil => cases member
  | cons first tail ih =>
      by_cases blank : isBlank first = true
      · rw [words_cons_of_isBlank blank]
        rcases List.mem_cons.mp member with rfl | later
        · simp [blank] at solid
        · exact ih later
      · rw [words.eq_def]
        dsimp only
        rw [if_neg blank]
        rcases List.mem_cons.mp member with rfl | later
        · split
          · split <;> exact ⟨_, List.mem_cons_self, List.mem_cons_self⟩
          · exact ⟨_, List.mem_cons_self, List.mem_cons_self⟩
        · obtain ⟨word, wordMember, inside⟩ := ih later
          split
          next next rest second others found =>
            rw [found] at wordMember
            split
            · exact ⟨word, List.mem_cons_of_mem _ wordMember, inside⟩
            · rcases List.mem_cons.mp wordMember with rfl | there
              · exact ⟨_, List.mem_cons_self, List.mem_cons_of_mem _ inside⟩
              · exact ⟨word, List.mem_cons_of_mem _ there, inside⟩
          next => exact ⟨word, List.mem_cons_of_mem _ wordMember, inside⟩

/-! ## Blanks around a text -/

theorem words_blank_append {front : List Char} (blank : allBlank front = true)
    (text : List Char) : words (front ++ text) = words text := by
  induction front with
  | nil => rfl
  | cons first front ih =>
      obtain ⟨here, there⟩ := Bool.and_eq_true_iff.mp blank
      rw [List.cons_append, words_cons_of_isBlank here, ih there]

theorem words_of_blank {text : List Char} (blank : allBlank text = true) : words text = [] := by
  rw [← List.append_nil text, words_blank_append blank]
  rfl

theorem words_cons_cons (character next : Char) (tail : List Char) :
    words (character :: next :: tail) =
      if isBlank character then words (next :: tail)
      else
        match words (next :: tail) with
        | [] => [[character]]
        | word :: others =>
            if isBlank next then [character] :: word :: others
            else (character :: word) :: others := by
  rw [words.eq_def]
  dsimp only
  cases words (next :: tail) <;> rfl

theorem words_append_of_blank (text : List Char) {back : List Char}
    (blank : allBlank back = true) : words (text ++ back) = words text := by
  induction text with
  | nil => rw [List.nil_append, words_of_blank blank, words_of_blank rfl]
  | cons character tail ih =>
      cases tail with
      | nil =>
          cases back with
          | nil => rfl
          | cons first back =>
              rw [List.nil_append] at ih
              rw [List.cons_append, List.nil_append, words_cons_cons, ih, words.eq_def [character]]
              rfl
      | cons next tail =>
          rw [List.cons_append] at ih
          rw [List.cons_append, List.cons_append, words_cons_cons, ih, ← words_cons_cons]

/-! ## Joined words -/

theorem mem_of_mem_intercalate {separator character : Char} {parts : List (List Char)}
    (member : character ∈ [separator].intercalate parts) :
    character = separator ∨ ∃ part ∈ parts, character ∈ part := by
  induction parts with
  | nil => simp [List.intercalate] at member
  | cons part parts ih =>
      cases parts with
      | nil => exact .inr ⟨part, List.mem_cons_self, by simpa [List.intercalate] using member⟩
      | cons next parts =>
          rw [List.intercalate_cons_cons, List.append_assoc, List.mem_append, List.mem_append,
            List.mem_singleton] at member
          rcases member with here | separated | there
          · exact .inr ⟨part, List.mem_cons_self, here⟩
          · exact .inl separated
          · exact (ih there).imp_right fun ⟨other, otherMember, inside⟩ =>
              ⟨other, List.mem_cons_of_mem _ otherMember, inside⟩

theorem mem_intercalate_of_mem {separator part : List Char} {parts : List (List Char)}
    (member : part ∈ parts) {character : Char} (inside : character ∈ part) :
    character ∈ separator.intercalate parts := by
  induction parts with
  | nil => cases member
  | cons first parts ih =>
      cases parts with
      | nil =>
          rw [List.mem_singleton.mp member] at inside
          simpa [List.intercalate] using inside
      | cons next parts =>
          rw [List.intercalate_cons_cons, List.mem_append]
          rcases List.mem_cons.mp member with rfl | later
          · exact .inl (List.mem_append_left _ inside)
          · exact .inr (ih later)

theorem intercalate_append_last (separator front : List Char) (fronts : List (List Char))
    (more : List Char) :
    separator.intercalate (fronts ++ [front ++ more]) =
      separator.intercalate (fronts ++ [front]) ++ more := by
  induction fronts with
  | nil => simp [List.intercalate]
  | cons first fronts ih =>
      rw [List.cons_append, List.cons_append, List.intercalate_cons_of_ne_nil (by simp),
        List.intercalate_cons_of_ne_nil (by simp), ih, ← List.append_assoc]

end Text

namespace Block

open Text

theorem toList_normalizeName (raw : String) :
    (normalizeName raw).toList = ['_'].intercalate (words raw.toList) := by
  rw [normalizeName, String.toList_ofList]

/-- A name has no blanks, and its other characters apart from underscores are those of its text. -/
theorem mem_of_mem_normalizeName {raw : String} {character : Char}
    (member : character ∈ (normalizeName raw).toList) :
    isBlank character = false ∧ (character = '_' ∨ character ∈ raw.toList) := by
  rw [toList_normalizeName] at member
  rcases mem_of_mem_intercalate member with rfl | ⟨word, wordMember, inside⟩
  · exact ⟨by decide, .inl rfl⟩
  · obtain ⟨inText, solid⟩ := mem_of_mem_words wordMember inside
    exact ⟨solid, .inr inText⟩

/-- A text without blanks is its own name. -/
theorem normalizeName_of_solid {name : String} (solid : Solid name.toList) :
    normalizeName name = name := by
  apply String.toList_inj.mp
  rw [toList_normalizeName]
  by_cases empty : name.toList = []
  · rw [empty]
    rfl
  · rw [words_of_solid solid empty]
    simp [List.intercalate]

/-- What follows a text without a blank between them is appended to its name. -/
theorem normalizeName_append {front more : String} {final : Char}
    (last : front.toList.getLast? = some final) (solid : isBlank final = false)
    (moreSolid : Solid more.toList) :
    normalizeName (front ++ more) = normalizeName front ++ more := by
  obtain ⟨fronts, word, words_eq, appended_eq⟩ := words_append last solid moreSolid
  apply String.toList_inj.mp
  rw [toList_normalizeName, String.toList_append, String.toList_append, toList_normalizeName,
    appended_eq, words_eq, intercalate_append_last]

theorem solid_normalizeName (raw : String) : Solid (normalizeName raw).toList :=
  fun _ member => (mem_of_mem_normalizeName member).1

/-- Blank texts have no name. -/
theorem normalizeName_eq_empty_iff {raw : String} :
    normalizeName raw = "" ↔ allBlank raw.toList = true := by
  rw [← String.toList_inj, toList_normalizeName, allBlank, List.all_eq_true]
  constructor
  · intro empty character member
    cases solid : isBlank character with
    | true => rfl
    | false =>
        obtain ⟨word, wordMember, inside⟩ := exists_word_of_mem member solid
        have kept : character ∈ ['_'].intercalate (words raw.toList) :=
          mem_intercalate_of_mem wordMember inside
        rw [empty] at kept
        cases kept
  · intro blank
    rw [words_of_blank (List.all_eq_true.mpr blank)]
    rfl

/-- Blanks around a text do not change its name. -/
theorem normalizeName_around {front back : List Char} (frontBlank : allBlank front = true)
    (text : List Char) (backBlank : allBlank back = true) :
    normalizeName (String.ofList (front ++ text ++ back)) = normalizeName (String.ofList text) := by
  simp only [normalizeName, String.toList_ofList, List.append_assoc,
    words_blank_append frontBlank, words_append_of_blank _ backBlank]

end Block
end ChatMacro
