import ChatMacro.Handler.Substitution
import Mathlib.Data.List.Induction

/-!
# Substitution as a rewrite

A substitution reads a text from left to right.  Where a pattern matches, the longest one is
replaced, the first of several, and the text goes on behind the match; elsewhere one character is
copied.  So rules with empty patterns do nothing, the order of rules counts only if their patterns
are alike, and a text in which no pattern occurs stays as it is.
-/

namespace ChatMacro
namespace Substitution

/-- Equal texts, apart from the size of ASCII letters. -/
def Alike (left right : List Char) : Prop :=
  left.map Char.toLower = right.map Char.toLower

instance (left right : List Char) : Decidable (Alike left right) :=
  inferInstanceAs (Decidable (_ = _))

/-- A pattern that is not empty stands at the start of a text. -/
def Matches (pattern text : List Char) : Prop :=
  pattern ≠ [] ∧ ∃ hit rest, text = hit ++ rest ∧ Alike pattern hit

/-- Of some patterns in their order one is to be replaced at the start of a text: it matches, and
those that match as well are shorter, or they follow it and are not longer. -/
structure Wins (before : List (List Char)) (pattern : List Char) (after : List (List Char))
    (text : List Char) : Prop where
  /-- It matches. -/
  found : Matches pattern text
  /-- Those in front of it are shorter. -/
  longer : ∀ other ∈ before, Matches other text → other.length < pattern.length
  /-- Those behind it are not longer. -/
  longest : ∀ other ∈ after, Matches other text → other.length ≤ pattern.length

/-- The rule with the pattern that is to be replaced at the start of a text. -/
def Selects (rules : List Rule) (text : List Char) (rule : Rule) : Prop :=
  ∃ before after, rules = before ++ rule :: after ∧
    Wins (before.map Prod.fst) rule.1 (after.map Prod.fst) text

/-- A text is rewritten from left to right into another one. -/
inductive Rewrites (rules : List Rule) : List Char → List Char → Prop where
  /-- Nothing is left. -/
  | nil : Rewrites rules [] []
  /-- The start of the text is replaced, and what follows it is rewritten. -/
  | hit {rule : Rule} {hit rest output : List Char} (selects : Selects rules (hit ++ rest) rule)
      (alike : Alike rule.1 hit) (later : Rewrites rules rest output) :
      Rewrites rules (hit ++ rest) (rule.2 ++ output)
  /-- No pattern matches here, and the first character is copied. -/
  | skip {character : Char} {tail output : List Char}
      (unmatched : ∀ rule ∈ rules, ¬ Matches rule.1 (character :: tail))
      (later : Rewrites rules tail output) :
      Rewrites rules (character :: tail) (character :: output)

/-! ## Matches -/

section

variable {pattern text hit rest : List Char} {rules : List Rule} {rule : Rule}

theorem Alike.length_eq (alike : Alike pattern hit) : pattern.length = hit.length := by
  simpa using congrArg List.length alike

theorem alike_nil_iff : Alike pattern [] ↔ pattern = [] := by
  rw [Alike, List.map_nil, List.map_eq_nil_iff]

theorem matchesAt_iff :
    matchesAt pattern text = true ↔ ∃ hit rest, text = hit ++ rest ∧ Alike pattern hit := by
  induction pattern generalizing text with
  | nil => exact iff_of_true rfl ⟨[], text, rfl, rfl⟩
  | cons sought pattern ih =>
      cases text with
      | nil =>
          refine iff_of_false Bool.false_ne_true ?_
          rintro ⟨hit, rest, split, alike⟩
          rw [(List.append_eq_nil_iff.mp split.symm).1, alike_nil_iff] at alike
          cases alike
      | cons character tail =>
          rw [matchesAt, Bool.and_eq_true, decide_eq_true_eq, ih]
          constructor
          · rintro ⟨same, hit, rest, rfl, alike⟩
            refine ⟨character :: hit, rest, rfl, ?_⟩
            rw [Alike, List.map_cons, List.map_cons, same, alike]
          · rintro ⟨hit, rest, split, alike⟩
            cases hit with
            | nil => cases alike_nil_iff.mp alike
            | cons first hit =>
                cases split
                obtain ⟨same, later⟩ := List.cons.inj alike
                exact ⟨same, hit, rest, rfl, later⟩

theorem matches_iff :
    Matches pattern text ↔ (pattern.isEmpty || !matchesAt pattern text) = false := by
  rw [Bool.or_eq_false_iff, Bool.not_eq_false', matchesAt_iff, ← Bool.not_eq_true,
    List.isEmpty_iff, Matches]

instance (pattern text : List Char) : Decidable (Matches pattern text) :=
  decidable_of_iff _ matches_iff.symm

/-! ## The longest rule -/

theorem longest?_concat (rules : List Rule) (rule : Rule) (text : List Char) :
    longest? (rules ++ [rule]) text =
      if Matches rule.1 text then
        match longest? rules text with
        | none => some rule
        | some former => if former.1.length < rule.1.length then some rule else some former
      else longest? rules text := by
  rw [longest?, List.foldl_append, List.foldl_cons, List.foldl_nil]
  by_cases found : Matches rule.1 text
  · rw [matches_iff.mp found, if_pos found]
    rfl
  · rw [if_neg found]
    rw [matches_iff, Bool.not_eq_false] at found
    rw [found]
    rfl

theorem Selects.matches (selects : Selects rules text rule) : Matches rule.1 text := by
  obtain ⟨_, _, _, wins⟩ := selects
  exact wins.found

theorem Selects.mem (selects : Selects rules text rule) : rule ∈ rules := by
  obtain ⟨before, after, rfl, _⟩ := selects
  exact List.mem_append_cons_self

theorem Selects.length_le (selects : Selects rules text rule) {other : Rule} (mem : other ∈ rules)
    (found : Matches other.1 text) : other.1.length ≤ rule.1.length := by
  obtain ⟨before, after, rfl, wins⟩ := selects
  rcases List.mem_append.mp mem with mem | mem
  · exact Nat.le_of_lt (wins.longer _ (List.mem_map_of_mem mem) found)
  · rcases List.mem_cons.mp mem with rfl | mem
    · exact Nat.le_refl _
    · exact wins.longest _ (List.mem_map_of_mem mem) found

/-- A rule whose pattern does not match, or is not longer, may follow. -/
theorem Selects.concat (selects : Selects rules text rule) {other : Rule}
    (shorter : Matches other.1 text → other.1.length ≤ rule.1.length) :
    Selects (rules ++ [other]) text rule := by
  obtain ⟨before, after, rfl, wins⟩ := selects
  refine ⟨before, after ++ [other], by rw [List.append_assoc, List.cons_append], wins.found,
    wins.longer, ?_⟩
  intro pattern mem found
  rw [List.map_append, List.mem_append, List.map_singleton, List.mem_singleton] at mem
  rcases mem with mem | rfl
  · exact wins.longest pattern mem found
  · exact shorter found

/-- A rule is selected if it matches and all those before it are shorter. -/
theorem selects_last (found : Matches rule.1 text)
    (longer : ∀ other ∈ rules, Matches other.1 text → other.1.length < rule.1.length) :
    Selects (rules ++ [rule]) text rule := by
  refine ⟨rules, [], rfl, found, ?_, fun _ mem => absurd mem List.not_mem_nil⟩
  intro pattern mem
  obtain ⟨other, member, rfl⟩ := List.mem_map.mp mem
  exact longer other member

/-- The rule that `longest?` finds is the selected one, and if it finds none, none matches. -/
theorem longest?_spec (rules : List Rule) (text : List Char) :
    (longest? rules text = none ∧ ∀ rule ∈ rules, ¬ Matches rule.1 text) ∨
      ∃ rule, longest? rules text = some rule ∧ Selects rules text rule := by
  induction rules using List.reverseRecOn with
  | nil => exact .inl ⟨rfl, fun _ mem => absurd mem List.not_mem_nil⟩
  | append_singleton rules rule ih =>
      by_cases found : Matches rule.1 text
      · rw [longest?_concat, if_pos found]
        right
        rcases ih with ⟨missing, unmatched⟩ | ⟨former, best, selects⟩
        · rw [missing]
          refine ⟨rule, rfl, selects_last found fun other mem others => ?_⟩
          exact absurd others (unmatched other mem)
        · rw [best]
          by_cases longer : former.1.length < rule.1.length
          · refine ⟨rule, if_pos longer, selects_last found ?_⟩
            exact fun other mem others => Nat.lt_of_le_of_lt (selects.length_le mem others) longer
          · exact ⟨former, if_neg longer, selects.concat fun _ => Nat.le_of_not_lt longer⟩
      · rw [longest?_concat, if_neg found]
        rcases ih with ⟨missing, unmatched⟩ | ⟨former, best, selects⟩
        · refine .inl ⟨missing, fun other mem => ?_⟩
          rcases List.mem_append.mp mem with mem | mem
          · exact unmatched other mem
          · rwa [List.mem_singleton.mp mem]
        · exact .inr ⟨former, best, selects.concat fun matching => absurd matching found⟩

/-- Of two rules, one in front of the other, only one can win. -/
theorem Wins.not_both {before between after : List Rule} {left right : Rule}
    (won : Wins (before.map Prod.fst) left.1 ((between ++ right :: after).map Prod.fst) text)
    (won' : Wins ((before ++ left :: between).map Prod.fst) right.1 (after.map Prod.fst) text) :
    False := by
  have longer : left.1.length < right.1.length :=
    won'.longer left.1 (List.mem_map_of_mem List.mem_append_cons_self) won.found
  have shorter : right.1.length ≤ left.1.length :=
    won.longest right.1 (List.mem_map_of_mem List.mem_append_cons_self) won'.found
  exact Nat.not_lt_of_le shorter longer

theorem Selects.eq {other : Rule} (selects : Selects rules text rule)
    (others : Selects rules text other) : rule = other := by
  obtain ⟨before, after, rfl, wins⟩ := selects
  obtain ⟨before', after', split, wins'⟩ := others
  rcases List.append_eq_append_iff.mp split with ⟨between, rfl, tail⟩ | ⟨between, rfl, tail⟩
  · cases between with
    | nil => exact (List.cons.inj tail).1
    | cons first between =>
        obtain ⟨rfl, rfl⟩ := List.cons.inj tail
        exact (wins.not_both wins').elim
  · cases between with
    | nil => exact (List.cons.inj tail).1.symm
    | cons first between =>
        obtain ⟨rfl, rfl⟩ := List.cons.inj tail
        exact (wins'.not_both wins).elim

theorem longest?_of_selects (selects : Selects rules text rule) :
    longest? rules text = some rule := by
  rcases longest?_spec rules text with ⟨_, unmatched⟩ | ⟨best, found, others⟩
  · exact absurd selects.matches (unmatched rule selects.mem)
  · rw [found, others.eq selects]

theorem longest?_of_unmatched (unmatched : ∀ rule ∈ rules, ¬ Matches rule.1 text) :
    longest? rules text = none := by
  rcases longest?_spec rules text with ⟨missing, _⟩ | ⟨best, _, selects⟩
  · exact missing
  · exact absurd selects.matches (unmatched best selects.mem)

end

/-! ## The pass over a text -/

section

variable {rules : List Rule} {text output hit rest : List Char} {rule : Rule}

/-- What is left over of a match is dropped. -/
theorem applyFrom_eq_drop (rules : List Rule) (skipped : Nat) (text : List Char) :
    applyFrom rules skipped text = applyFrom rules 0 (text.drop skipped) := by
  induction text generalizing skipped with
  | nil => rw [List.drop_nil, applyFrom, applyFrom]
  | cons character tail ih =>
      cases skipped with
      | zero => rfl
      | succ skipped => rw [applyFrom, List.drop_succ_cons, ih]

theorem applyFrom_hit (selects : Selects rules (hit ++ rest) rule) (alike : Alike rule.1 hit) :
    applyFrom rules 0 (hit ++ rest) = rule.2 ++ applyFrom rules 0 rest := by
  have found := longest?_of_selects selects
  cases hit with
  | nil => exact absurd (alike_nil_iff.mp alike) selects.matches.1
  | cons first hit =>
      rw [List.cons_append] at found ⊢
      simp only [applyFrom, found]
      rw [applyFrom_eq_drop, alike.length_eq, List.length_cons, Nat.add_sub_cancel,
        List.drop_left]

theorem applyFrom_skip {character : Char} {tail : List Char}
    (unmatched : ∀ rule ∈ rules, ¬ Matches rule.1 (character :: tail)) :
    applyFrom rules 0 (character :: tail) = character :: applyFrom rules 0 tail := by
  simp only [applyFrom, longest?_of_unmatched unmatched]

/-- A pass over a text rewrites it. -/
theorem rewrites_applyFrom (rules : List Rule) (text : List Char) :
    Rewrites rules text (applyFrom rules 0 text) := by
  -- The induction is on the length, as a match may be longer than one character.
  induction length : text.length using Nat.strongRecOn generalizing text with
  | ind length ih =>
      subst length
      cases text with
      | nil => exact .nil
      | cons character tail =>
          rcases longest?_spec rules (character :: tail) with ⟨_, unmatched⟩ | ⟨rule, _, selects⟩
          · rw [applyFrom_skip unmatched]
            exact .skip unmatched (ih _ (Nat.lt_succ_self _) tail rfl)
          · obtain ⟨nonempty, hit, rest, split, alike⟩ := selects.matches
            rw [split] at selects ⊢
            rw [applyFrom_hit selects alike]
            refine .hit selects alike (ih _ ?_ rest rfl)
            rw [split, List.length_append, ← alike.length_eq]
            exact Nat.lt_add_of_pos_left (List.length_pos_iff.mpr nonempty)

/-- A text has one rewriting, the one a pass over it gives. -/
theorem rewrites_iff : Rewrites rules text output ↔ output = applyFrom rules 0 text := by
  constructor
  · intro rewrites
    induction rewrites with
    | nil => rfl
    | hit selects alike _ ih => rw [applyFrom_hit selects alike, ih]
    | skip unmatched _ ih => rw [applyFrom_skip unmatched, ih]
  · rintro rfl
    exact rewrites_applyFrom rules text

/-- Two lists of rules rewrite alike if the second one selects what the first one does. -/
theorem Rewrites.congr {others : List Rule} (rewrites : Rewrites rules text output)
    (selects : ∀ text rule, Selects rules text rule → Selects others text rule)
    (mem : ∀ rule ∈ others, rule.1 ≠ [] → rule ∈ rules) : Rewrites others text output := by
  induction rewrites with
  | nil => exact .nil
  | hit selected alike _ ih => exact .hit (selects _ _ selected) alike ih
  | skip unmatched _ ih =>
      exact .skip (fun rule member found => unmatched rule (mem rule member found.1) found) ih

/-- Where no pattern matches, the text is copied. -/
theorem Rewrites.skips {count : Nat} (later : Rewrites rules (text.drop count) output)
    (unmatched : ∀ start < count, ∀ rule ∈ rules, ¬ Matches rule.1 (text.drop start)) :
    Rewrites rules text (text.take count ++ output) := by
  induction count generalizing text with
  | zero => exact later
  | succ count ih =>
      cases text with
      | nil => exact later
      | cons character tail =>
          refine .skip (unmatched 0 (Nat.zero_lt_succ count)) (ih later ?_)
          exact fun start before => unmatched (start + 1) (Nat.succ_lt_succ before)

/-- A pattern that is not empty stands somewhere in a text. -/
def Occurs (pattern text : List Char) : Prop :=
  ∃ start, Matches pattern (text.drop start)

theorem not_occurs_nil (pattern : List Char) : ¬ Occurs pattern [] := by
  rintro ⟨start, nonempty, hit, rest, split, alike⟩
  rw [List.drop_nil] at split
  rw [(List.append_eq_nil_iff.mp split.symm).1, alike_nil_iff] at alike
  exact nonempty alike

theorem occurs_iff {pattern text : List Char} :
    Occurs pattern text ↔ ∃ start, start < text.length ∧ Matches pattern (text.drop start) := by
  refine ⟨fun ⟨start, found⟩ => ⟨start, ?_, found⟩, fun ⟨start, _, found⟩ => ⟨start, found⟩⟩
  refine Nat.lt_of_not_le fun beyond => not_occurs_nil pattern ⟨0, ?_⟩
  rwa [List.drop_eq_nil_of_le beyond] at found

instance (pattern text : List Char) : Decidable (Occurs pattern text) :=
  decidable_of_iff _ occurs_iff.symm

theorem rewrites_self (absent : ∀ rule ∈ rules, ¬ Occurs rule.1 text) :
    Rewrites rules text text := by
  have copied : Rewrites rules text (text.take text.length ++ []) := by
    refine .skips ?_ fun start _ rule mem found => absent rule mem ⟨start, found⟩
    rw [List.drop_length]
    exact .nil
  rwa [List.take_length, List.append_nil] at copied

end

/-! ## Order, and empty patterns -/

section

variable {rules others : List Rule} {text : List Char} {rule : Rule}

/-- Two patterns that match at one place and are equally long are alike. -/
theorem Matches.alike {left right : List Char} (found : Matches left text)
    (found' : Matches right text) (same : left.length = right.length) : Alike left right := by
  obtain ⟨_, hit, rest, rfl, alike⟩ := found
  obtain ⟨_, hit', rest', split, alike'⟩ := found'
  have lengths : hit.length = hit'.length := by rw [← alike.length_eq, ← alike'.length_eq, same]
  rw [Alike, alike, alike', (List.append_inj split lengths).1]

/-- The patterns of two rules differ, unless one is empty. -/
def Differ (left right : Rule) : Prop :=
  left.1 ≠ [] → right.1 ≠ [] → ¬ Alike left.1 right.1

instance (left right : Rule) : Decidable (Differ left right) :=
  inferInstanceAs (Decidable (_ → _ → ¬ _))

theorem Differ.symm {left right : Rule} (differ : Differ left right) : Differ right left :=
  fun nonempty nonempty' alike => differ nonempty' nonempty (Eq.symm alike)

/-- If the patterns differ, rules may be permuted. -/
theorem Selects.perm (selects : Selects rules text rule) (perm : others.Perm rules)
    (differ : others.Pairwise Differ) : Selects others text rule := by
  obtain ⟨before, after, split⟩ := List.append_of_mem (perm.mem_iff.mpr selects.mem)
  refine ⟨before, after, split, selects.matches, ?_, ?_⟩
  · intro pattern mem found
    obtain ⟨other, earlier, rfl⟩ := List.mem_map.mp mem
    have member : other ∈ others := split ▸ List.mem_append_left _ earlier
    refine Nat.lt_of_le_of_ne (selects.length_le (perm.mem_iff.mp member) found) fun same => ?_
    rw [split, List.pairwise_append] at differ
    exact differ.2.2 other earlier rule List.mem_cons_self found.1 selects.matches.1
      (found.alike selects.matches same)
  · intro pattern mem found
    obtain ⟨other, later, rfl⟩ := List.mem_map.mp mem
    have member : other ∈ others := split ▸ List.mem_append_right _ (List.mem_cons_of_mem _ later)
    exact selects.length_le (perm.mem_iff.mp member) found

/-- Rules with empty patterns may be left out. -/
theorem Selects.filter (selects : Selects rules text rule) :
    Selects (rules.filter fun rule => !rule.1.isEmpty) text rule := by
  have nonempty : (!rule.1.isEmpty) = true := by
    rw [Bool.not_eq_true', ← Bool.not_eq_true, List.isEmpty_iff]
    exact selects.matches.1
  obtain ⟨before, after, rfl, wins⟩ := selects
  have kept {rules : List Rule} {pattern : List Char}
      (mem : pattern ∈ (rules.filter fun rule => !rule.1.isEmpty).map Prod.fst) :
      pattern ∈ rules.map Prod.fst :=
    (List.filter_sublist.map Prod.fst).subset mem
  refine ⟨before.filter fun rule => !rule.1.isEmpty, after.filter fun rule => !rule.1.isEmpty, ?_,
    wins.found, ?_, ?_⟩
  · rw [List.filter_append, List.filter_cons, if_pos nonempty]
  · exact fun pattern mem => wins.longer pattern (kept mem)
  · exact fun pattern mem => wins.longest pattern (kept mem)

theorem applyFrom_perm (perm : others.Perm rules) (differ : rules.Pairwise Differ) :
    applyFrom others 0 text = applyFrom rules 0 text := by
  have differ' : others.Pairwise Differ := (perm.pairwise_iff Differ.symm).mpr differ
  refine (rewrites_iff.mp ((rewrites_applyFrom rules text).congr ?_ ?_)).symm
  · exact fun text rule selects => selects.perm perm differ'
  · exact fun rule mem _ => perm.mem_iff.mp mem

theorem applyFrom_filter (rules : List Rule) (text : List Char) :
    applyFrom (rules.filter fun rule => !rule.1.isEmpty) 0 text = applyFrom rules 0 text := by
  refine (rewrites_iff.mp ((rewrites_applyFrom rules text).congr ?_ ?_)).symm
  · exact fun text rule selects => selects.filter
  · exact fun rule mem _ => (List.mem_filter.mp mem).1

theorem applyFrom_of_absent (absent : ∀ rule ∈ rules, ¬ Occurs rule.1 text) :
    applyFrom rules 0 text = text :=
  (rewrites_iff.mp (rewrites_self absent)).symm

end

end Substitution
end ChatMacro
