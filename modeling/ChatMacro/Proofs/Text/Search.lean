import ChatMacro.Text.Search

/-!
# Occurrences in texts

Searching finds the occurrences of one text in another: breaking a text stops at the first
occurrence, and what follows the last one follows every other one as well.
-/

namespace ChatMacro
namespace Text

/-! ## Fronts and ends -/

theorem dropFront?_eq_some_iff {front text rest : List Char} :
    dropFront? front text = some rest ↔ text = front ++ rest := by
  induction front generalizing text with
  | nil => simp [dropFront?]
  | cons sought front ih =>
      cases text with
      | nil => simp [dropFront?]
      | cons character text =>
          by_cases same : sought = character
          · subst same
            simpa [dropFront?] using ih
          · simp [dropFront?, same, Ne.symm same]

theorem dropFront?_eq_none_iff {front text : List Char} :
    dropFront? front text = none ↔ ¬ front <+: text := by
  rw [Option.eq_none_iff_forall_ne_some]
  constructor
  · rintro absent ⟨rest, rfl⟩
    exact absent rest (dropFront?_eq_some_iff.mpr rfl)
  · intro absent rest found
    exact absent ⟨rest, (dropFront?_eq_some_iff.mp found).symm⟩

theorem startsWith_iff {front text : List Char} :
    startsWith front text = true ↔ front <+: text := by
  rw [startsWith, Option.isSome_iff_ne_none, ne_eq, dropFront?_eq_none_iff, Classical.not_not]

theorem endsWith_iff {back text : List Char} : endsWith back text = true ↔ back <:+ text := by
  rw [endsWith, startsWith_iff, List.reverse_prefix]

/-! ## The first occurrence -/

/-- From no place before `rest` on does a text have a property. -/
def NoneIn (property : List Char → Prop) (front rest : List Char) : Prop :=
  ∀ late, late ≠ [] → late <:+ front → ¬ property (late ++ rest)

section

variable {property : List Char → Prop} {rest : List Char}

theorem noneIn_nil : NoneIn property [] rest := by
  intro late nonempty suffix
  exact absurd (List.suffix_nil.mp suffix) nonempty

theorem noneIn_cons {character : Char} {front : List Char} :
    NoneIn property (character :: front) rest ↔
      ¬ property (character :: (front ++ rest)) ∧ NoneIn property front rest := by
  constructor
  · intro none
    refine ⟨none (character :: front) (by simp) (List.suffix_refl _), ?_⟩
    intro late nonempty suffix
    exact none late nonempty (suffix.trans (List.suffix_cons _ _))
  · rintro ⟨notHere, none⟩ late nonempty suffix
    rcases List.suffix_cons_iff.mp suffix with rfl | later
    · exact notHere
    · exact none late nonempty later

end

section

variable {needle : List Char}

theorem breakOn?_append (rest : List Char) :
    breakOn? needle (needle ++ rest) = some ([], rest) := by
  have dropped : dropFront? needle (needle ++ rest) = some rest := dropFront?_eq_some_iff.mpr rfl
  cases text_eq : needle ++ rest with
  | nil =>
      obtain ⟨rfl, rfl⟩ := List.append_eq_nil_iff.mp text_eq
      rfl
  | cons character tail =>
      rw [text_eq] at dropped
      simp only [breakOn?, dropped]

theorem breakOn?_cons {character : Char} {tail : List Char}
    (notHere : ¬ needle <+: character :: tail) :
    breakOn? needle (character :: tail) =
      (breakOn? needle tail).map fun parts => (character :: parts.1, parts.2) := by
  simp only [breakOn?, dropFront?_eq_none_iff.mpr notHere]
  cases breakOn? needle tail <;> rfl

theorem breakOn?_eq_none_iff {text : List Char} :
    breakOn? needle text = none ↔ ¬ needle <:+: text := by
  induction text with
  | nil => cases needle <;> simp [breakOn?]
  | cons character tail ih =>
      rw [List.infix_cons_iff, not_or, ← ih]
      by_cases here : needle <+: character :: tail
      · obtain ⟨rest, text_eq⟩ := here
        rw [← text_eq, breakOn?_append]
        simp
      · simp [breakOn?_cons here, here]

theorem contains_iff {text : List Char} : contains needle text = true ↔ needle <:+: text := by
  rw [contains, Option.isSome_iff_ne_none, ne_eq, breakOn?_eq_none_iff, Classical.not_not]

/-- Breaking a text stops at the first occurrence. -/
theorem breakOn?_eq_some_iff {text front rest : List Char} :
    breakOn? needle text = some (front, rest) ↔
      text = front ++ (needle ++ rest) ∧ NoneIn (needle <+: ·) front (needle ++ rest) := by
  constructor
  · intro broken
    induction text generalizing front with
    | nil =>
        cases needle with
        | nil =>
            cases broken
            exact ⟨rfl, noneIn_nil⟩
        | cons sought needle => cases broken
    | cons character tail ih =>
        by_cases here : needle <+: character :: tail
        · obtain ⟨behind, text_eq⟩ := here
          rw [← text_eq, breakOn?_append] at broken
          cases broken
          exact ⟨text_eq.symm, noneIn_nil⟩
        · rw [breakOn?_cons here, Option.map_eq_some_iff] at broken
          obtain ⟨⟨later, behind⟩, brokenLater, made⟩ := broken
          cases made
          obtain ⟨rfl, none⟩ := ih brokenLater
          exact ⟨rfl, noneIn_cons.mpr ⟨here, none⟩⟩
  · rintro ⟨rfl, none⟩
    induction front with
    | nil => exact breakOn?_append rest
    | cons character front ih =>
        obtain ⟨notHere, noneLater⟩ := noneIn_cons.mp none
        rw [List.cons_append, breakOn?_cons notHere, ih noneLater]
        rfl

/-- What follows any occurrence follows the first one as well. -/
theorem suffix_of_noneIn {front rest other behind : List Char}
    (first : NoneIn (needle <+: ·) front (needle ++ rest))
    (split : front ++ (needle ++ rest) = other ++ (needle ++ behind)) : behind <:+ rest := by
  rcases List.append_eq_append_iff.mp split with ⟨between, _, later⟩ | ⟨between, front_eq, earlier⟩
  · have shorter : behind.length ≤ rest.length := by
      have lengths := congrArg List.length later
      simp only [List.length_append] at lengths
      omega
    have endsText : behind <:+ needle ++ rest := by
      rw [later, ← List.append_assoc]
      exact List.suffix_append _ _
    exact List.suffix_of_suffix_length_le endsText (List.suffix_append _ _) shorter
  · cases between with
    | nil => exact List.append_cancel_left earlier ▸ List.suffix_refl _
    | cons character between =>
        refine absurd ?_ (first (character :: between) (by simp) ?_)
        · exact earlier ▸ List.prefix_append _ _
        · exact front_eq ▸ List.suffix_append _ _

/-! ## The last occurrence -/

theorem afterLast?_append_ne_none (front rest : List Char) :
    afterLast? needle (front ++ (needle ++ rest)) ≠ none := by
  induction front with
  | nil =>
      have dropped : dropFront? needle (needle ++ rest) = some rest :=
        dropFront?_eq_some_iff.mpr rfl
      cases text_eq : needle ++ rest with
      | nil =>
          obtain ⟨rfl, rfl⟩ := List.append_eq_nil_iff.mp text_eq
          simp [afterLast?]
      | cons character tail =>
          rw [text_eq] at dropped
          simp only [List.nil_append, afterLast?, dropped]
          split <;> simp
  | cons character front ih =>
      obtain ⟨behind, found⟩ := Option.ne_none_iff_exists'.mp ih
      simp [afterLast?, found]

/-- What follows the last occurrence follows an occurrence, and is a part of what follows any. -/
theorem of_afterLast?_eq_some {text rest : List Char} (found : afterLast? needle text = some rest) :
    (∃ front, text = front ++ (needle ++ rest)) ∧
      ∀ front behind, text = front ++ (needle ++ behind) → rest <:+ behind := by
  induction text generalizing rest with
  | nil =>
      cases needle with
      | nil =>
          cases found
          refine ⟨⟨[], rfl⟩, ?_⟩
          intro front behind _
          exact List.nil_suffix
      | cons sought needle => cases found
  | cons character tail ih =>
      cases later : afterLast? needle tail with
      | some behind =>
          simp only [afterLast?, later, Option.some.injEq] at found
          subst found
          obtain ⟨⟨front, tail_eq⟩, last⟩ := ih later
          refine ⟨⟨character :: front, by rw [tail_eq, List.cons_append]⟩, ?_⟩
          intro other others split
          cases other with
          | nil =>
              -- Both rests end the text, and the one behind the earlier occurrence is longer.
              have longer : behind.length ≤ others.length := by
                have lengths := congrArg List.length split
                rw [tail_eq] at lengths
                simp only [List.length_cons, List.length_append, List.length_nil] at lengths
                omega
              have endsText : behind <:+ character :: tail := by
                rw [tail_eq, ← List.append_assoc, ← List.cons_append]
                exact List.suffix_append _ _
              have othersEndText : others <:+ character :: tail := by
                rw [split, List.nil_append]
                exact List.suffix_append _ _
              exact List.suffix_of_suffix_length_le endsText othersEndText longer
          | cons first other => exact last other others (List.cons.inj split).2
      | none =>
          simp only [afterLast?, later] at found
          have here := dropFront?_eq_some_iff.mp found
          refine ⟨⟨[], here⟩, ?_⟩
          intro other others split
          cases other with
          | nil => exact List.append_cancel_left (here.symm.trans split) ▸ List.suffix_refl _
          | cons first other =>
              obtain ⟨_, tail_eq⟩ := List.cons.inj split
              exact absurd (tail_eq ▸ later) (afterLast?_append_ne_none other others)

end

/-! ## Splitting once -/

theorem mem_of_splitOnce? {separator : Char} {text front rest : List Char}
    (split : splitOnce? separator text = some (front, rest)) {character : Char}
    (member : character ∈ front) : character ∈ text ∧ character ≠ separator := by
  induction text generalizing front rest with
  | nil => cases split
  | cons first tail ih =>
      rw [splitOnce?] at split
      split at split
      · cases split
        cases member
      · next different =>
        split at split
        · next tailFront tailRest found =>
          cases split
          rcases List.mem_cons.mp member with rfl | later
          · exact ⟨List.mem_cons_self, different⟩
          · exact (ih found later).imp_left (List.mem_cons_of_mem _)
        · cases split

theorem splitOnce?_eq_none_iff {separator : Char} {text : List Char} :
    splitOnce? separator text = none ↔ ∀ character ∈ text, character ≠ separator := by
  induction text with
  | nil => simp [splitOnce?]
  | cons first tail ih =>
      rw [splitOnce?, List.forall_mem_cons, ← ih]
      split
      · next same => simp [same]
      · next different =>
        cases splitOnce? separator tail with
        | none => simp [different]
        | some parts => simp

theorem splitOnce?_append {separator : Char} {front : List Char}
    (free : ∀ character ∈ front, character ≠ separator) (rest : List Char) :
    splitOnce? separator (front ++ separator :: rest) = some (front, rest) := by
  induction front with
  | nil => simp [splitOnce?]
  | cons first front ih =>
      obtain ⟨here, there⟩ := List.forall_mem_cons.mp free
      rw [List.cons_append, splitOnce?, if_neg here, ih there]

/-- In front of the separator, or in the whole text if there is none, the separator does not
occur. -/
theorem front_splitOnce? (separator : Char) (text : List Char) :
    ((splitOnce? separator text).map Prod.fst).getD text = text.takeWhile (· ≠ separator) := by
  induction text with
  | nil => rfl
  | cons first tail ih =>
      rw [splitOnce?]
      split
      next same => simp [same]
      next different =>
        rw [List.takeWhile_cons_of_pos (by simpa using different), ← ih]
        cases splitOnce? separator tail with
        | none => rfl
        | some parts => rfl

end Text
end ChatMacro
