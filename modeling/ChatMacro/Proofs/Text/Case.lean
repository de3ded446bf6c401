import ChatMacro.Text.Case
import Mathlib.Data.List.TakeWhile

/-!
# Small letters in context

The small form of a text is put together from the forms of its parts, each taken where the part
stands.  Only a capital sigma looks at what stands around it, so a part without one has the same
form everywhere.  A capital sigma in a part is open if the form that it has there depends on what
stands around the part.
-/

namespace ChatMacro
namespace Text

/-! ## Parts of a text -/

/-- The small form of a capital sigma behind the reversed text `before` and in front of `behind`. -/
def sigmaForm (before behind : List Char) : Char :=
  if meetsCased before && !meetsCased behind then 'ς' else 'σ'

/-- The small form of a text that stands behind the reversed text `before` and in front of
`behind`. -/
def toLowerBetween (before : List Char) : List Char → List Char → List Char
  | [], _ => []
  | character :: tail, behind =>
      (if character = 'Σ' then [sigmaForm before (tail ++ behind)] else lowerForm character) ++
        toLowerBetween (character :: before) tail behind

section

variable (before text behind : List Char)

theorem toLowerAfter_cons (character : Char) :
    toLowerAfter before (character :: text) =
      (if character = 'Σ' then [sigmaForm before text] else lowerForm character) ++
        toLowerAfter (character :: before) text := by
  rw [toLowerAfter, sigmaForm]
  split
  · split <;> rfl
  · rfl

theorem toLowerAfter_append :
    toLowerAfter before (text ++ behind) =
      toLowerBetween before text behind ++ toLowerAfter (text.reverse ++ before) behind := by
  induction text generalizing before with
  | nil => rfl
  | cons character tail ih =>
      rw [List.cons_append, toLowerAfter_cons, ih, toLowerBetween, List.reverse_cons,
        List.append_assoc, List.append_assoc, List.singleton_append]

theorem toLowerAfter_eq_toLowerBetween :
    toLowerAfter before text = toLowerBetween before text [] := by
  have whole := toLowerAfter_append before text []
  rwa [List.append_nil, toLowerAfter, List.append_nil] at whole

theorem toLowerBetween_append (front : List Char) :
    toLowerBetween before (front ++ text) behind =
      toLowerBetween before front (text ++ behind) ++
        toLowerBetween (front.reverse ++ before) text behind := by
  induction front generalizing before with
  | nil => rfl
  | cons character front ih =>
      rw [List.cons_append, toLowerBetween, ih, toLowerBetween, List.reverse_cons,
        List.append_assoc, List.append_assoc, List.append_assoc, List.singleton_append]

end

/-- The small form of a text in three parts. -/
theorem toLower_append_append (front word back : List Char) :
    toLower (front ++ word ++ back) =
      toLowerBetween [] front (word ++ back) ++ toLowerBetween front.reverse word back ++
        toLowerAfter (word.reverse ++ front.reverse) back := by
  rw [toLower, toLowerAfter_append, toLowerBetween_append, List.reverse_append, List.append_nil,
    List.append_nil]

/-- A part has the same form in two places if each capital sigma in it does. -/
theorem toLowerBetween_congr {before before' text behind behind' : List Char}
    (same : ∀ earlier later, text = earlier ++ 'Σ' :: later →
      sigmaForm (earlier.reverse ++ before) (later ++ behind) =
        sigmaForm (earlier.reverse ++ before') (later ++ behind')) :
    toLowerBetween before text behind = toLowerBetween before' text behind' := by
  induction text generalizing before before' with
  | nil => rfl
  | cons character tail ih =>
      have tail_eq : toLowerBetween (character :: before) tail behind =
          toLowerBetween (character :: before') tail behind' := by
        refine ih fun earlier later split => ?_
        simpa using same (character :: earlier) later (congrArg (character :: ·) split)
      rw [toLowerBetween, toLowerBetween, tail_eq]
      split
      next isSigma =>
        have here := same [] tail (by rw [isSigma, List.nil_append])
        rw [List.reverse_nil, List.nil_append, List.nil_append] at here
        rw [here]
      next => rfl

/-! ## What a capital sigma sees -/

/-- Whether the first character that is not case-ignorable is cased, if there is one. -/
def nextCased? (text : List Char) : Option Bool :=
  (text.find? (!inRanges caseIgnorableRanges ·)).map (inRanges casedRanges)

theorem meetsCased_eq (text : List Char) : meetsCased text = (nextCased? text).getD false := by
  rw [meetsCased, nextCased?, List.find?_eq_head?_dropWhile_not]
  simp only [Bool.not_not]
  cases text.dropWhile (inRanges caseIgnorableRanges) <;> rfl

theorem nextCased?_append (front text : List Char) :
    nextCased? (front ++ text) = (nextCased? front).or (nextCased? text) := by
  rw [nextCased?, List.find?_append, Option.map_or]
  rfl

theorem nextCased?_cons_sigma (text : List Char) : nextCased? ('Σ' :: text) = some true := by
  have solid : inRanges caseIgnorableRanges 'Σ' = false := by decide +kernel
  have cased : inRanges casedRanges 'Σ' = true := by decide +kernel
  simp [nextCased?, solid, cased]

theorem nextCased?_small : nextCased? ['a'] = some true := by decide +kernel

/-- A capital sigma is not case-ignorable. -/
theorem sigma_not_mem {text : List Char} (ignorable : nextCased? text = none) : 'Σ' ∉ text := by
  intro isMember
  obtain ⟨earlier, later, rfl⟩ := List.append_of_mem isMember
  rw [nextCased?_append, nextCased?_cons_sigma, Option.or_eq_none_iff] at ignorable
  cases ignorable.2

theorem sigmaForm_eq (before behind : List Char) :
    sigmaForm before behind =
      if (nextCased? before).getD false && !(nextCased? behind).getD false then 'ς' else 'σ' := by
  rw [sigmaForm, meetsCased_eq, meetsCased_eq]

section

variable {before text behind : List Char}

/-- What stands behind a character that is not case-ignorable does not matter. -/
theorem toLowerBetween_append_behind (solid : nextCased? behind ≠ none) (back : List Char) :
    toLowerBetween before text (behind ++ back) = toLowerBetween before text behind := by
  refine toLowerBetween_congr fun earlier later _ => ?_
  obtain ⟨next, next_eq⟩ := Option.ne_none_iff_exists'.mp solid
  simp only [sigmaForm_eq, nextCased?_append, next_eq, Option.some_or]

/-- What stands in front of a character that is not case-ignorable does not matter. -/
theorem toLowerBetween_append_before (solid : nextCased? before ≠ none) (front : List Char) :
    toLowerBetween (before ++ front) text behind = toLowerBetween before text behind := by
  refine toLowerBetween_congr fun earlier later _ => ?_
  obtain ⟨next, next_eq⟩ := Option.ne_none_iff_exists'.mp solid
  simp only [sigmaForm_eq, nextCased?_append, next_eq, Option.some_or]

/-- A part without a capital sigma has the same form everywhere. -/
theorem toLowerBetween_of_not_mem (free : 'Σ' ∉ text) (before before' behind behind' : List Char) :
    toLowerBetween before text behind = toLowerBetween before' text behind' := by
  refine toLowerBetween_congr fun earlier later split => absurd ?_ free
  exact split ▸ List.mem_append_right _ List.mem_cons_self

end

/-! ## Open sigmas -/

/-- A capital sigma in a part is open if the part does not settle its form.  The reversed text
`before` and the text `behind` are what stands around it in the part.  With a character that is not
case-ignorable on both sides, the form is settled.  With none behind it, only an uncased character
before it settles the form, and with none before it, only a cased one behind it does. -/
def OpenSigma (before behind : List Char) : Prop :=
  (nextCased? behind = none ∧ nextCased? before ≠ some false) ∨
    (nextCased? before = none ∧ nextCased? behind ≠ some true)

instance (before behind : List Char) : Decidable (OpenSigma before behind) :=
  inferInstanceAs (Decidable (_ ∨ _))

section

variable {before behind : List Char}

/-- An open sigma has one form at the end of a text and another one in front of a small letter, or
one form at the start of a text and another one behind a small letter. -/
theorem sigmaForm_of_open (isOpen : OpenSigma before behind) :
    (nextCased? behind = none ∧ sigmaForm before behind = 'ς' ∧
      sigmaForm before (behind ++ ['a']) = 'σ') ∨
    (nextCased? before = none ∧ sigmaForm before behind = 'σ' ∧
      sigmaForm (before ++ ['a']) behind = 'ς') := by
  simp only [OpenSigma] at isOpen
  simp only [sigmaForm_eq, nextCased?_append, nextCased?_small]
  generalize nextCased? before = first, nextCased? behind = last at isOpen ⊢
  rcases first with - | - | - <;> rcases last with - | - | - <;> simp at isOpen ⊢

/-- The open sigmas are those whose form depends on what stands around the part. -/
theorem openSigma_iff :
    OpenSigma before behind ↔
      ∃ front back, sigmaForm (before ++ front) (behind ++ back) ≠ sigmaForm before behind := by
  constructor
  · intro isOpen
    rcases sigmaForm_of_open isOpen with ⟨-, alone, inside⟩ | ⟨-, alone, inside⟩
    · exact ⟨[], ['a'], by rw [List.append_nil, alone, inside]; decide⟩
    · exact ⟨['a'], [], by rw [List.append_nil, alone, inside]; decide⟩
  · rintro ⟨front, back, changed⟩
    simp only [sigmaForm_eq, nextCased?_append] at changed
    simp only [OpenSigma]
    generalize nextCased? before = first, nextCased? behind = last at changed ⊢
    rcases first with - | - | - <;> rcases last with - | - | - <;> simp at changed ⊢

theorem sigmaForm_of_not_open (closed : ¬ OpenSigma before behind) (front back : List Char) :
    sigmaForm (before ++ front) (behind ++ back) = sigmaForm before behind := by
  by_contra changed
  exact closed (openSigma_iff.mpr ⟨front, back, changed⟩)

end

/-! ## Words without and with open sigmas -/

/-- A part in which no capital sigma is open has the same form everywhere. -/
theorem toLowerBetween_of_not_open {word : List Char}
    (closed : ∀ earlier later, word = earlier ++ 'Σ' :: later → ¬ OpenSigma earlier.reverse later)
    (front back : List Char) : toLowerBetween front word back = toLower word := by
  rw [toLower, toLowerAfter_eq_toLowerBetween]
  refine toLowerBetween_congr fun earlier later split => ?_
  simpa using sigmaForm_of_not_open (closed earlier later split) front back

/-- A capital sigma parts a text: neither side sees past it. -/
theorem toLowerBetween_sigma (before earlier later behind : List Char) :
    toLowerBetween before (earlier ++ 'Σ' :: later) behind =
      toLowerBetween before earlier ['Σ'] ++
        sigmaForm (earlier.reverse ++ before) (later ++ behind) ::
          toLowerBetween ['Σ'] later behind := by
  have solid : nextCased? ['Σ'] ≠ none := by
    rw [nextCased?_cons_sigma]
    decide
  rw [toLowerBetween_append, toLowerBetween, if_pos rfl, List.cons_append,
    ← List.singleton_append (l := later ++ behind), toLowerBetween_append_behind solid,
    ← List.singleton_append (l := earlier.reverse ++ before), toLowerBetween_append_before solid,
    List.singleton_append]

theorem toLower_sigma (earlier later : List Char) :
    toLower (earlier ++ 'Σ' :: later) =
      toLowerBetween [] earlier ['Σ'] ++
        sigmaForm earlier.reverse later :: toLowerBetween ['Σ'] later [] := by
  rw [toLower, toLowerAfter_eq_toLowerBetween, toLowerBetween_sigma, List.append_nil,
    List.append_nil]

/-- A text does not occur in one that differs from it in a character that does not stand around it
either. -/
theorem not_infix_of_changed {old new : Char} (changed : old ≠ new) {front back : List Char}
    (notInFront : old ∉ front) (notInBack : old ∉ back) (left right : List Char) :
    ¬ left ++ old :: right <:+: front ++ (left ++ new :: right) ++ back := by
  intro occurs
  have count_le := occurs.count_le old
  simp only [List.count_append, List.count_cons_self, List.count_cons_of_ne changed.symm,
    List.count_eq_zero.mpr notInFront, List.count_eq_zero.mpr notInBack] at count_le
  omega

/-- A word with an open sigma stands in a text whose small form the small form of the word does not
occur in. -/
theorem exists_not_infix_of_open {earlier later : List Char}
    (isOpen : OpenSigma earlier.reverse later) :
    ∃ front back, ¬ toLower (earlier ++ 'Σ' :: later) <:+:
      toLower (front ++ (earlier ++ 'Σ' :: later) ++ back) := by
  -- Beside the letter only the form of this sigma changes, so the form that it has in the word
  -- alone occurs once less in the text than in the word.
  rcases sigmaForm_of_open isOpen with ⟨ignorable, alone, inside⟩ | ⟨ignorable, alone, inside⟩
  · have free : 'Σ' ∉ later := sigma_not_mem ignorable
    have text_eq : toLower ([] ++ (earlier ++ 'Σ' :: later) ++ ['a']) =
        [] ++ (toLowerBetween [] earlier ['Σ'] ++ 'σ' :: toLowerBetween ['Σ'] later []) ++
          ['a'] := by
      rw [toLower_append_append, List.reverse_nil, toLowerBetween_sigma, List.append_nil, inside,
        toLowerBetween_of_not_mem free ['Σ'] ['Σ'] ['a'] []]
      rfl
    refine ⟨[], ['a'], ?_⟩
    rw [text_eq, toLower_sigma, alone]
    exact not_infix_of_changed (by decide) (by decide) (by decide) _ _
  · have free : 'Σ' ∉ earlier := fun isMember =>
      sigma_not_mem ignorable (List.mem_reverse.mpr isMember)
    have text_eq : toLower (['a'] ++ (earlier ++ 'Σ' :: later) ++ []) =
        ['a'] ++ (toLowerBetween [] earlier ['Σ'] ++ 'ς' :: toLowerBetween ['Σ'] later []) ++
          [] := by
      rw [toLower_append_append, List.reverse_singleton, toLowerBetween_sigma,
        List.append_nil later, inside, toLowerBetween_of_not_mem free ['a'] [] ['Σ'] ['Σ']]
      rfl
    refine ⟨['a'], [], ?_⟩
    rw [text_eq, toLower_sigma, alone]
    exact not_infix_of_changed (by decide) (by decide) (by decide) _ _

end Text
end ChatMacro
