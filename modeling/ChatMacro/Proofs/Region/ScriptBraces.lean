import ChatMacro.Proofs.Region.Pairs
import ChatMacro.Proofs.Region.Scripts

/-!
# Braces inside of scripts

A brace behind a parenthesis belongs to a script if it stands inside of a late script.  Scanning for
scripts tells where they are, while the braces are judged by the last `$(` before them.  The two
agree unless the dollar of that `$(` closes a script.
-/

namespace ChatMacro
namespace Region

open Text

/-! ## The last opening delimiter -/

theorem infix_closing_iff {tail : List Char} :
    [')', '$'] <:+: '$' :: '(' :: tail ↔ [')', '$'] <:+: tail := by
  simp [List.infix_cons_iff]

/-- The text before a brace ends in a script if some `$(` has no `)$` behind it. -/
theorem endsInScript_iff {before : List Char} :
    endsInScript before = true ↔
      ∃ front tail, before = front ++ (['$', '('] ++ tail) ∧ ¬ [')', '$'] <:+: tail := by
  constructor
  · intro inside
    unfold endsInScript at inside
    split at inside
    · cases inside
    · next tail found =>
      obtain ⟨⟨front, split⟩, _⟩ := of_afterLast?_eq_some found
      rw [Bool.not_eq_true', ← Bool.not_eq_true, contains_iff, infix_closing_iff] at inside
      exact ⟨front, tail, split, inside⟩
  · rintro ⟨front, tail, rfl, unclosed⟩
    obtain ⟨last, found⟩ := Option.ne_none_iff_exists'.mp (afterLast?_append_ne_none front tail)
    have suffix := (of_afterLast?_eq_some found).2 front tail rfl
    unfold endsInScript
    rw [found, Bool.not_eq_true', ← Bool.not_eq_true, contains_iff, infix_closing_iff]
    exact fun occurs => unclosed (occurs.trans suffix.isInfix)

/-! ## Comparison with scanning -/

section

variable {opening delimiter : List Char} {offset : Nat} {text remainder : List Char}
  {regions : List Region}

/-- The text behind the regions is the whole text, or a closing delimiter stands before it. -/
theorem Scan.exists_delimiter
    (scan : Scan opening (endingWith delimiter) offset text regions remainder) :
    (regions = [] ∧ text = remainder) ∨
      regions ≠ [] ∧ ∃ front, text = front ++ (delimiter ++ remainder) := by
  induction scan with
  | unopened => exact .inl ⟨rfl, rfl⟩
  | unclosed => exact .inl ⟨rfl, rfl⟩
  | @region offset front opened closing _ remainder _ nearest _ ih =>
      refine .inr ⟨by simp, ?_⟩
      have text_eq : front ++ (opening ++ opened) =
          front ++ opening ++ closing.inner ++ (delimiter ++ closing.rest) := by
        rw [nearest.text_eq, nearest.closes]
        simp only [List.append_assoc]
      rcases ih with ⟨_, rest_eq⟩ | ⟨_, inside, rest_eq⟩
      · exact ⟨_, rest_eq ▸ text_eq⟩
      · refine ⟨front ++ opening ++ closing.inner ++ delimiter ++ inside, ?_⟩
        rw [text_eq, rest_eq]
        simp only [List.append_assoc]

/-- An opening delimiter behind the regions has no closing delimiter behind it. -/
theorem Scan.not_infix_opened
    (scan : Scan opening (endingWith delimiter) offset text regions remainder)
    {gap opened : List Char} (remainder_eq : remainder = gap ++ (opening ++ opened)) :
    ¬ delimiter <:+: opened := by
  intro occurs
  obtain ⟨late, here, suffix⟩ := List.infix_iff_prefix_suffix.mp occurs
  exact scan.not_closes_opened remainder_eq late suffix (closes_endingWith.mpr here)

end

/-- Scanning a text for late scripts that have their whole closing delimiter, from one place on. -/
abbrev ScanLate : List Char → List Region → List Char → Prop :=
  Scan ['$', '('] (endingWith [')', '$']) 0

/-- A text ends inside of a late script: an opening delimiter is left behind the last script. -/
def InScript (before : List Char) : Prop :=
  ∃ regions remainder, ScanLate before regions remainder ∧ ['$', '('] <:+: remainder

/-- The last script in a text is followed by a parenthesis that opens, which together with the
dollar of its closing delimiter looks like another opening delimiter, and by no `)$`. -/
def SharesDollar (before : List Char) : Prop :=
  ∃ regions remainder, ScanLate before regions remainder ∧ regions ≠ [] ∧
    ['('] <+: remainder ∧ ¬ [')', '$'] <:+: remainder

theorem exists_scanLate (before : List Char) :
    ∃ regions remainder, ScanLate before regions remainder :=
  ⟨_, scan_delimited (by simp) (finds_breakOn? [')', '$']) (Nat.le_refl _)⟩

theorem ScanLate.unique {before remainder rest : List Char} {regions others : List Region}
    (scan : ScanLate before regions remainder) (other : ScanLate before others rest) :
    regions = others ∧ remainder = rest := by
  have finds := finds_breakOn? [')', '$']
  have same : regions = others :=
    (scan.delimited_eq (by simp) finds (Nat.le_refl _)).symm.trans
      (other.delimited_eq (by simp) finds (Nat.le_refl _))
  subst same
  obtain ⟨front, text_eq, place⟩ := scan.exists_front
  rw [Nat.zero_add] at place
  exact ⟨rfl, other.remainder_eq text_eq place⟩

/-- Behind a closing delimiter, an opening delimiter with no closing one behind it either shares
the dollar or stands in what follows. -/
theorem shared_or_later {front early tail remainder : List Char}
    (split : front ++ ([')', '$'] ++ remainder) = early ++ (['$', '('] ++ tail))
    (unclosed : ¬ [')', '$'] <:+: tail) :
    remainder = '(' :: tail ∨ ∃ gap, remainder = gap ++ (['$', '('] ++ tail) := by
  have atDollar : (front ++ [')']) ++ '$' :: remainder = early ++ '$' :: '(' :: tail := by
    simpa using split
  rcases List.append_eq_append_iff.mp atDollar with ⟨gap, _, rest⟩ | ⟨behind, close, rest⟩
  · cases gap with
    | nil => exact .inl (List.cons.inj rest).2
    | cons first gap => exact .inr ⟨gap, (List.cons.inj rest).2⟩
  · rcases List.eq_nil_or_concat behind with rfl | ⟨inner, last, rfl⟩
    · exact .inl (List.cons.inj rest).2.symm
    · -- The closing delimiter would stand behind the opening one.
      have last_eq : ')' = last := by
        have lasts := congrArg List.getLast? close
        simpa using lasts
      subst last_eq
      refine absurd (infix_closing_iff.mp ⟨inner, remainder, ?_⟩) unclosed
      rw [rest]
      simp

theorem endsInScript_iff_of_scanLate {before remainder : List Char} {regions : List Region}
    (scan : ScanLate before regions remainder) :
    endsInScript before = true ↔ ['$', '('] <:+: remainder ∨
      regions ≠ [] ∧ ['('] <+: remainder ∧ ¬ [')', '$'] <:+: remainder := by
  rw [endsInScript_iff]
  constructor
  · rintro ⟨early, tail, split, unclosed⟩
    have occurs {gap : List Char} (remainder_eq : remainder = gap ++ (['$', '('] ++ tail)) :
        ['$', '('] <:+: remainder :=
      ⟨gap, tail, by rw [remainder_eq, List.append_assoc]⟩
    rcases scan.exists_delimiter with ⟨_, rfl⟩ | ⟨found, front, before_eq⟩
    · exact .inl (occurs split)
    · rcases shared_or_later (before_eq.symm.trans split) unclosed with rfl | ⟨gap, later⟩
      · refine .inr ⟨found, List.prefix_append _ _, ?_⟩
        simpa [List.infix_cons_iff] using unclosed
      · exact .inl (occurs later)
  · rintro (⟨gap, opened, remainder_eq⟩ | ⟨found, ⟨tail, rfl⟩, unclosed⟩)
    · obtain ⟨front, before_eq, _⟩ := scan.exists_front
      rw [List.append_assoc] at remainder_eq
      refine ⟨front ++ gap, opened, ?_, scan.not_infix_opened remainder_eq.symm⟩
      rw [before_eq, ← remainder_eq, List.append_assoc]
    · rcases scan.exists_delimiter with ⟨none, _⟩ | ⟨_, front, before_eq⟩
      · exact absurd none found
      · refine ⟨front ++ [')'], tail, by simpa using before_eq, ?_⟩
        exact fun occurs => unclosed (occurs.trans (List.suffix_cons _ _).isInfix)

theorem endsInScript_iff_inScript_or (before : List Char) :
    endsInScript before = true ↔ InScript before ∨ SharesDollar before := by
  obtain ⟨regions, remainder, scan⟩ := exists_scanLate before
  rw [endsInScript_iff_of_scanLate scan]
  constructor
  · rintro (occurs | ⟨found, shared, unclosed⟩)
    · exact .inl ⟨regions, remainder, scan, occurs⟩
    · exact .inr ⟨regions, remainder, scan, found, shared, unclosed⟩
  · rintro (⟨_, _, other, occurs⟩ | ⟨_, _, other, found, shared, unclosed⟩)
    · obtain ⟨rfl, rfl⟩ := scan.unique other
      exact .inl occurs
    · obtain ⟨rfl, rfl⟩ := scan.unique other
      exact .inr ⟨found, shared, unclosed⟩

/-! ## Braces behind a parenthesis -/

/-- The starts of the insides of braces that belong to scripts wherever they stand. -/
def scriptLeads : List (List Char) :=
  [['$'], functionHead, ['=', '>'], [')', '\x7b']]

theorem trimEnd_concat {text : List Char} {last : Char} (solid : isBlank last = false) :
    trimEnd (text ++ [last]) = text ++ [last] := by
  simp [trimEnd, solid]

theorem isScriptBrace_eq_endsInScript {before inner : List Char} (ends : [')'] <:+ before)
    (noHead : ¬ functionHead <:+ before) (plain : ∀ lead ∈ scriptLeads, ¬ lead <+: inner) :
    isScriptBrace before inner = endsInScript before := by
  obtain ⟨front, rfl⟩ := ends
  simp only [scriptLeads, List.forall_mem_cons, ← startsWith_iff, Bool.not_eq_true] at plain
  obtain ⟨plainDollar, plainHead, plainArrow, plainBody, _⟩ := plain
  rw [← endsWith_iff, Bool.not_eq_true] at noHead
  have trimmed : trimEnd (front ++ [')']) = front ++ [')'] := trimEnd_concat (by decide)
  have parenthesis : endsWith [')'] (front ++ [')']) = true := by
    simp [endsWith, startsWith, dropFront?]
  have noDollar : endsWith ['$'] (front ++ [')']) = false := by
    simp [endsWith, startsWith, dropFront?]
  have noArrow : endsWith ['=', '>'] (front ++ [')']) = false := by
    simp [endsWith, startsWith, dropFront?]
  simp only [isScriptBrace, plainDollar, plainHead, plainArrow, plainBody, trimmed, parenthesis,
    noDollar, noHead, noArrow, Bool.or_false, Bool.false_or, Bool.true_and]

/-- A brace behind a parenthesis belongs to a script if and only if the text before it ends inside
of a late script, or the parenthesis that opens behind the last script shares its dollar.  The pair
is a variable block otherwise. -/
theorem isScriptBrace_behind_parenthesis {before inner : List Char} (ends : [')'] <:+ before)
    (noHead : ¬ functionHead <:+ before) (braceless : Braceless inner)
    (plain : ∀ lead ∈ scriptLeads, ¬ lead <+: inner) :
    (isScriptBrace before inner = true ↔ InScript before ∨ SharesDollar before) ∧
      ∀ after, pairBehind before inner ∈
          blocks (before ++ ((pairBehind before inner).raw ++ after)) ↔
        ¬ (InScript before ∨ SharesDollar before) := by
  have judged : isScriptBrace before inner = true ↔ InScript before ∨ SharesDollar before := by
    rw [isScriptBrace_eq_endsInScript ends noHead plain, endsInScript_iff_inScript_or]
  refine ⟨judged, ?_⟩
  intro after
  rw [pairBehind_mem_blocks_iff braceless, ← judged, Bool.not_eq_true]

/-- A script, and right behind it a text in parentheses. -/
def sharedDollar : List Char :=
  ['$', '(', 'a', ')', '$', '(', 'b', ')']

theorem scanLate_sharedDollar :
    ScanLate sharedDollar
      [Closing.region ⟨['a'], [')', '$'], ['(', 'b', ')']⟩ 0 ['$', '(']] ['(', 'b', ')'] := by
  have nearest : Nearest (endingWith [')', '$']) ['a', ')', '$', '(', 'b', ')']
      ⟨['a'], [')', '$'], ['(', 'b', ')']⟩ := by
    refine ⟨rfl, rfl, noneIn_cons.mpr ⟨?_, noneIn_nil⟩⟩
    rw [closes_endingWith]
    decide
  have first : NoneIn (['$', '('] <+: ·) [] (['$', '('] ++ ['a', ')', '$', '(', 'b', ')']) :=
    noneIn_nil
  exact .region first nearest (.unopened (by decide))

theorem not_inScript_sharedDollar : ¬ InScript sharedDollar := by
  rintro ⟨_, _, scan, occurs⟩
  obtain ⟨_, rfl⟩ := scan.unique scanLate_sharedDollar
  revert occurs
  decide

theorem isScriptBrace_behind_parenthesis_sharedDollar :
    SharesDollar sharedDollar ∧
      ∀ after, pairBehind sharedDollar ['c'] ∉
        blocks (sharedDollar ++ ((pairBehind sharedDollar ['c']).raw ++ after)) := by
  obtain ⟨judged, listed⟩ :=
    isScriptBrace_behind_parenthesis (show [')'] <:+ sharedDollar by decide)
      (show ¬ functionHead <:+ sharedDollar by decide) (show Braceless ['c'] by simp [Braceless])
      (show ∀ lead ∈ scriptLeads, ¬ lead <+: ['c'] by decide)
  have shares := (judged.mp (by decide)).resolve_left not_inScript_sharedDollar
  refine ⟨shares, ?_⟩
  intro after member
  exact (listed after).mp member (.inr shares)

/-- The judgement differs from scanning where a dollar is shared. -/
theorem isScriptBrace_outside_sharedDollar :
    ¬ ∀ before inner : List Char, [')'] <:+ before → ¬ functionHead <:+ before →
      Braceless inner → (∀ lead ∈ scriptLeads, ¬ lead <+: inner) →
        (isScriptBrace before inner = true ↔ InScript before) := by
  intro agree
  have judged := agree sharedDollar ['c'] (by decide) (by decide) (by simp [Braceless]) (by decide)
  exact not_inScript_sharedDollar (judged.mp (by decide))

end Region
end ChatMacro
