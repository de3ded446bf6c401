import ChatMacro.Proofs.Handler.Substitution

/-!
# Substitution with a search

A substitution need not try the patterns one after another.  A search is built once from all
patterns that are not empty; it reports where the next match stands and the number of its pattern,
and with that number the replacement is looked up.  Leaving out the empty patterns shifts the
numbers of patterns and replacements alike.  Whatever the search, if it reports the leftmost match
and there the longest, the text comes out as the single pass gives it.
-/

namespace ChatMacro
namespace Substitution

/-- A match that a search reports, from its first character to behind its last. -/
structure Found where
  /-- Where it starts. -/
  start : Nat
  /-- Where the text goes on. -/
  stop : Nat
  /-- The number of the pattern. -/
  pattern : Nat

/-- Patterns give a search for the next match in a text. -/
abbrev Search := List (List Char) → List Char → Option Found

/-- What is to be reported of some patterns and a text: the leftmost match, there the longest, and
of alike patterns the first. -/
inductive Reports (patterns : List (List Char)) (text : List Char) : Option Found → Prop where
  /-- No pattern occurs. -/
  | missing (absent : ∀ pattern ∈ patterns, ¬ Occurs pattern text) : Reports patterns text none
  /-- No pattern matches in front of the match, and its pattern is the one to be replaced. -/
  | found {start : Nat} {before after : List (List Char)} {pattern : List Char}
      (split : patterns = before ++ pattern :: after)
      (leftmost : ∀ earlier < start, ∀ other ∈ patterns, ¬ Matches other (text.drop earlier))
      (wins : Wins before pattern after (text.drop start)) :
      Reports patterns text (some ⟨start, start + pattern.length, before.length⟩)

/-- Built from patterns that are not empty, a search reports the leftmost and longest match. -/
def LeftmostLongest (search : Search) : Prop :=
  ∀ patterns, (∀ pattern ∈ patterns, pattern ≠ []) →
    ∀ text, Reports patterns text (search patterns text)

/-- Replace one match after another, each by the replacement with the number of its pattern. -/
def replaceAll (find : List Char → Option Found) (replacements : List (List Char))
    (text : List Char) : List Char :=
  match find text with
  | none => text
  | some found =>
      -- A match that is not empty leaves less of the text.
      if _ : (text.drop found.stop).length < text.length then
        text.take found.start ++ (replacements.getD found.pattern [] ++
          replaceAll find replacements (text.drop found.stop))
      else text
termination_by text.length
decreasing_by assumption

/-- Replace the patterns in a text with the help of a search. -/
def substitute (search : Search) (pairs : List (String × String)) (text : String) : String :=
  let kept := (pairs.filter fun pair => !pair.1.isEmpty).unzip
  if kept.2.isEmpty then text
  else
    let find := search (kept.1.map String.toList)
    String.ofList (replaceAll find (kept.2.map String.toList) text.toList)

/-! ## Replacing what a search finds -/

section

variable {rules : List Rule} {find : List Char → Option Found}

/-- At a match that is reported its rule is selected, and the text behind it is shorter. -/
theorem Reports.selects {text : List Char} {found : Found}
    (reports : Reports (rules.map Prod.fst) text (some found)) :
    ∃ rule hit, text.drop found.start = hit ++ text.drop found.stop ∧
      Selects rules (hit ++ text.drop found.stop) rule ∧ Alike rule.1 hit ∧
      (rules.map Prod.snd).getD found.pattern [] = rule.2 ∧
      (text.drop found.stop).length < text.length := by
  obtain _ | @⟨start, _, _, pattern, split, leftmost, wins⟩ := reports
  obtain ⟨before, others, rfl, rfl, tail⟩ := List.map_eq_append_iff.mp split
  obtain ⟨rule, after, rfl, rfl, rfl⟩ := List.map_eq_cons_iff.mp tail
  obtain ⟨nonempty, hit, rest, here, alike⟩ := wins.found
  have behind : text.drop (start + rule.1.length) = rest := by
    rw [← List.drop_drop, here, alike.length_eq, List.drop_left]
  refine ⟨rule, hit, by rw [behind, here], ?_, alike, ?_, ?_⟩
  · rw [behind, ← here]
    exact ⟨before, after, rfl, wins⟩
  · have number : (before.map Prod.fst).length = (before.map Prod.snd).length := by
      rw [List.length_map, List.length_map]
    rw [number, List.map_append, List.map_cons, List.getD_eq_getElem?_getD,
      List.getElem?_append_right (Nat.le_refl _), Nat.sub_self]
    rfl
  · have hit_pos : 0 < hit.length := alike.length_eq ▸ List.length_pos_iff.mpr nonempty
    have total : text.length - start = hit.length + rest.length := by
      rw [← List.length_drop, here, List.length_append]
    rw [behind]
    omega

/-- Replacing the matches that are reported is the single pass. -/
theorem replaceAll_eq_applyFrom
    (reports : ∀ text, Reports (rules.map Prod.fst) text (find text)) (text : List Char) :
    replaceAll find (rules.map Prod.snd) text = applyFrom rules 0 text := by
  rw [← rewrites_iff]
  induction length : text.length using Nat.strongRecOn generalizing text with
  | ind length ih =>
      subst length
      have reported := reports text
      rw [replaceAll]
      generalize find text = result at reported
      cases result with
      | none =>
          obtain ⟨absent⟩ := reported
          exact rewrites_self fun rule mem => absent rule.1 (List.mem_map_of_mem mem)
      | some found =>
          obtain ⟨rule, hit, here, selects, alike, replacement, shorter⟩ := reported.selects
          obtain _ | ⟨_, leftmost, _⟩ := reported
          simp only [dif_pos shorter, replacement]
          refine .skips ?_ fun start before rule mem => ?_
          · rw [here]
            exact .hit selects alike (ih _ shorter _ rfl)
          · exact leftmost start before rule.1 (List.mem_map_of_mem mem)

end

/-- The rules of some pairs of texts. -/
def rulesOf (pairs : List (String × String)) : List Rule :=
  pairs.map fun pair => (pair.1.toList, pair.2.toList)

theorem apply_eq (pairs : List (String × String)) (text : String) :
    apply pairs text = String.ofList (applyFrom (rulesOf pairs) 0 text.toList) :=
  rfl

theorem isEmpty_toList (text : String) : text.toList.isEmpty = text.isEmpty :=
  Bool.eq_iff_iff.mpr <| by
    rw [String.isEmpty_iff, List.isEmpty_iff, String.toList_eq_nil_iff]

theorem rulesOf_filter (pairs : List (String × String)) :
    rulesOf (pairs.filter fun pair => !pair.1.isEmpty) =
      (rulesOf pairs).filter fun rule => !rule.1.isEmpty := by
  simp only [rulesOf, List.filter_map, Function.comp_def, isEmpty_toList]

theorem substitute_eq_apply {search : Search} (leftmost : LeftmostLongest search)
    (pairs : List (String × String)) (text : String) :
    substitute search pairs text = apply pairs text := by
  let kept := pairs.filter fun pair => !pair.1.isEmpty
  have patterns : kept.unzip.1.map String.toList = (rulesOf kept).map Prod.fst := by
    rw [List.unzip_fst, rulesOf, List.map_map, List.map_map]
    rfl
  have replacements : kept.unzip.2.map String.toList = (rulesOf kept).map Prod.snd := by
    rw [List.unzip_snd, rulesOf, List.map_map, List.map_map]
    rfl
  have nonempty : ∀ pattern ∈ (rulesOf kept).map Prod.fst, pattern ≠ [] := by
    intro pattern mem
    obtain ⟨rule, member, rfl⟩ := List.mem_map.mp mem
    rw [rulesOf_filter, List.mem_filter, Bool.not_eq_true', ← Bool.not_eq_true,
      List.isEmpty_iff] at member
    exact member.2
  rw [apply_eq, ← applyFrom_filter, ← rulesOf_filter]
  change (if kept.unzip.2.isEmpty then text else String.ofList (replaceAll _ _ text.toList)) =
    String.ofList (applyFrom (rulesOf kept) 0 text.toList)
  split
  next nothing =>
    have empty : kept = [] := by
      rw [List.isEmpty_iff, List.unzip_snd, List.map_eq_nil_iff] at nothing
      exact nothing
    have absent : ∀ rule ∈ rulesOf kept, ¬ Occurs rule.1 text.toList := by
      rw [empty]
      exact fun _ mem => absurd mem List.not_mem_nil
    rw [applyFrom_of_absent absent, String.ofList_toList]
  next =>
    rw [patterns, replacements, replaceAll_eq_applyFrom (leftmost _ nonempty)]

/-! ## A search -/

/-- The same match, seen from one character further to the left. -/
def Found.next (found : Found) : Found :=
  ⟨found.start + 1, found.stop + 1, found.pattern⟩

/-- Look for the longest pattern at one place after the other. -/
def scan (patterns : List (List Char)) : List Char → Option Found
  | [] => none
  | character :: tail =>
      match longest? (patterns.map fun pattern => (pattern, [])) (character :: tail) with
      | some rule => some ⟨0, rule.1.length, patterns.idxOf rule.1⟩
      | none => (scan patterns tail).map Found.next

section

variable {patterns : List (List Char)}

/-- The number of the pattern that wins: it does not stand further in front. -/
theorem Wins.idxOf {before after : List (List Char)} {pattern text : List Char}
    (wins : Wins before pattern after text) :
    (before ++ pattern :: after).idxOf pattern = before.length := by
  have absent : pattern ∉ before := fun mem =>
    Nat.lt_irrefl _ (wins.longer pattern mem wins.found)
  rw [List.idxOf_append, if_neg absent, List.idxOf_cons_self, Nat.zero_add]

/-- A report on what follows the first character, where no pattern matches, goes for the text. -/
theorem Reports.cons {character : Char} {tail : List Char} {result : Option Found}
    (reports : Reports patterns tail result)
    (unmatched : ∀ pattern ∈ patterns, ¬ Matches pattern (character :: tail)) :
    Reports patterns (character :: tail) (result.map Found.next) := by
  obtain absent | @⟨start, before, after, pattern, split, leftmost, wins⟩ := reports
  · refine .missing fun pattern mem => ?_
    rintro ⟨start, found⟩
    cases start with
    | zero => exact unmatched pattern mem found
    | succ start => exact absent pattern mem ⟨start, found⟩
  · have next : Found.next ⟨start, start + pattern.length, before.length⟩ =
        ⟨start + 1, start + 1 + pattern.length, before.length⟩ := by
      rw [Found.next, Nat.add_right_comm]
    rw [Option.map_some, next]
    refine .found split (fun earlier less other mem found => ?_) wins
    cases earlier with
    | zero => exact unmatched other mem found
    | succ earlier => exact leftmost earlier (Nat.lt_of_succ_lt_succ less) other mem found

theorem reports_scan (patterns : List (List Char)) (text : List Char) :
    Reports patterns text (scan patterns text) := by
  induction text with
  | nil => exact .missing fun pattern _ => not_occurs_nil pattern
  | cons character tail ih =>
      rw [scan]
      rcases longest?_spec (patterns.map fun pattern => (pattern, [])) (character :: tail) with
        ⟨missing, unmatched⟩ | ⟨rule, best, before, after, split, wins⟩
      · rw [missing]
        exact ih.cons fun pattern mem => unmatched (pattern, []) (List.mem_map_of_mem mem)
      · have patterns_eq : patterns = before.map Prod.fst ++ rule.1 :: after.map Prod.fst := by
          have fronts := congrArg (List.map Prod.fst) split
          rw [List.map_map, List.map_append, List.map_cons] at fronts
          exact (List.map_id patterns).symm.trans fronts
        have number : patterns.idxOf rule.1 = (before.map Prod.fst).length := by
          rw [patterns_eq, wins.idxOf]
        have nothing : ∀ earlier < 0, ∀ other ∈ patterns,
            ¬ Matches other ((character :: tail).drop earlier) :=
          fun earlier less => absurd less (Nat.not_lt_zero earlier)
        simp only [best, number]
        rw [← Nat.zero_add rule.1.length]
        exact .found patterns_eq nothing wins

theorem leftmostLongest_scan : LeftmostLongest scan :=
  fun patterns _ text => reports_scan patterns text

end

/-! ## Rewriting by any search -/

/-- A substitution is the rewriting of a text from left to right by the longest matches.  So pairs
whose patterns differ may be permuted, pairs with an empty pattern left out, and a text in which no
pattern occurs stays.  With any search for the leftmost and longest match the result is the same. -/
theorem apply_rewrites (pairs : List (String × String)) (text : String) :
    (∀ output : String,
      Rewrites (rulesOf pairs) text.toList output.toList ↔ output = apply pairs text) ∧
    (∀ others : List (String × String), others.Perm pairs → (rulesOf pairs).Pairwise Differ →
      apply others text = apply pairs text) ∧
    apply (pairs.filter fun pair => !pair.1.isEmpty) text = apply pairs text ∧
    ((∀ pair ∈ pairs, ¬ Occurs pair.1.toList text.toList) → apply pairs text = text) ∧
    ∀ search : Search, LeftmostLongest search →
      substitute search pairs text = apply pairs text := by
  refine ⟨fun output => ?_, fun others perm differ => ?_, ?_, fun absent => ?_, ?_⟩
  · rw [rewrites_iff, apply_eq, ← String.toList_inj, String.toList_ofList]
  · have permuted : (rulesOf others).Perm (rulesOf pairs) := perm.map _
    rw [apply_eq, apply_eq, applyFrom_perm permuted differ]
  · rw [apply_eq, apply_eq, rulesOf_filter, applyFrom_filter]
  · have absent' : ∀ rule ∈ rulesOf pairs, ¬ Occurs rule.1 text.toList := by
      intro rule mem
      obtain ⟨pair, member, rfl⟩ := List.mem_map.mp mem
      exact absent pair member
    rw [apply_eq, applyFrom_of_absent absent', String.ofList_toList]
  · exact fun search leftmost => substitute_eq_apply leftmost pairs text

theorem apply_rewrites_letters :
    Rewrites (rulesOf [("ab", "b"), ("", "x"), ("b", "c")]) "aBb".toList "bc".toList ∧
      apply [("b", "c"), ("ab", "b"), ("", "x")] "aBb" = "bc" ∧
      apply [("ab", "b"), ("b", "c")] "aBb" = "bc" ∧
      apply [("ab", "b"), ("", "x"), ("b", "c")] "cat" = "cat" ∧
      substitute scan [("ab", "b"), ("", "x"), ("b", "c")] "aBb" = "bc" := by
  obtain ⟨rewrites, order, empty, -, search⟩ :=
    apply_rewrites [("ab", "b"), ("", "x"), ("b", "c")] "aBb"
  obtain ⟨-, -, -, absent, -⟩ := apply_rewrites [("ab", "b"), ("", "x"), ("b", "c")] "cat"
  have result : apply [("ab", "b"), ("", "x"), ("b", "c")] "aBb" = "bc" := by decide +kernel
  refine ⟨(rewrites "bc").mpr result.symm, ?_, ?_, absent ?_, ?_⟩
  · exact (order _ (by decide +kernel) (by decide +kernel)).trans result
  · exact empty.trans result
  · decide +kernel
  · exact (search scan leftmostLongest_scan).trans result

end Substitution
end ChatMacro
