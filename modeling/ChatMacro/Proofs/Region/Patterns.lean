import ChatMacro.Proofs.Region.Braces
import ChatMacro.Proofs.Region.Scripts

/-!
# Patterns of regions

The regions of a text are the matches of three patterns, `\{([^{}]*)\}`, `(?s)\^\((.*?)\)\^` and
`(?s)\$\((.*?)\)(?:\$|\z)`.  A text is searched for matches from left to right, and the search goes
on behind each of them.  At one place the first of all ways to match is taken: those of the first
alternative come before those of the second one, and more repetitions before fewer, unless the
pattern prefers fewer.
-/

namespace ChatMacro

/-- Patterns of texts. -/
inductive Pattern where
  /-- A character that is accepted. -/
  | one (accepts : Char → Bool)
  /-- The end of the text. -/
  | finish
  /-- One pattern and then another one. -/
  | both (first second : Pattern)
  /-- One pattern or else another one. -/
  | either (first second : Pattern)
  /-- Accepted characters, as many or as few as possible. -/
  | many (greedy : Bool) (accepts : Char → Bool)
  /-- A pattern whose text is captured. -/
  | group (inner : Pattern)

/-- A way in which a pattern matches at the front of a text. -/
structure Way where
  /-- The text that matches. -/
  taken : List Char
  /-- The text that is captured, if any. -/
  captured : Option (List Char)
  /-- The text behind. -/
  rest : List Char

/-- A match in a text. -/
structure Hit where
  /-- Its place. -/
  start : Nat
  /-- The text that matches. -/
  raw : List Char
  /-- The text that is captured. -/
  inner : List Char
  deriving DecidableEq

namespace Pattern

/-- The ways to take accepted characters. -/
def repeats (greedy : Bool) (accepts : Char → Bool) : List Char → List Way
  | [] => [⟨[], none, []⟩]
  | character :: tail =>
      let stop : Way := ⟨[], none, character :: tail⟩
      let more :=
        if accepts character then
          (repeats greedy accepts tail).map fun way =>
            { way with taken := character :: way.taken }
        else []
      if greedy then more ++ [stop] else stop :: more

/-- The ways in which a pattern matches at the front of a text, the preferred one first. -/
def ways : Pattern → List Char → List Way
  | one _, [] => []
  | one accepts, character :: tail =>
      if accepts character then [⟨[character], none, tail⟩] else []
  | finish, text => if text.isEmpty then [⟨[], none, []⟩] else []
  | both first second, text =>
      (first.ways text).flatMap fun way =>
        (second.ways way.rest).map fun later =>
          ⟨way.taken ++ later.taken, later.captured.or way.captured, later.rest⟩
  | either first second, text => first.ways text ++ second.ways text
  | many greedy accepts, text => repeats greedy accepts text
  | group inner, text => (inner.ways text).map fun way => { way with captured := some way.taken }

/-- The matches with captured texts in a text that starts at the place `offset`, whose first `skip`
characters belong to a match already. -/
def hitsFrom (pattern : Pattern) : Nat → Nat → List Char → List Hit
  | _, _, [] => []
  | skip + 1, offset, character :: tail =>
      hitsFrom pattern skip (offset + character.utf8Size) tail
  | 0, offset, character :: tail =>
      match pattern.ways (character :: tail) with
      | [] => hitsFrom pattern 0 (offset + character.utf8Size) tail
      | way :: _ =>
          way.captured.toList.map (fun inner => ⟨offset, way.taken, inner⟩) ++
            hitsFrom pattern (way.taken.length - 1) (offset + character.utf8Size) tail

/-- The matches with captured texts in a text, for patterns that match no empty text. -/
def hits (pattern : Pattern) (text : List Char) : List Hit :=
  pattern.hitsFrom 0 0 text

end Pattern

/-- A region as a match. -/
def Region.hit (region : Region) : Hit :=
  ⟨region.start, region.raw, region.inner⟩

namespace Pattern

open Text Region

/-! ## Searching -/

section

variable {pattern : Pattern}

/-- A pattern matches at the front of a text. -/
def Starts (pattern : Pattern) (text : List Char) : Prop :=
  pattern.ways text ≠ []

theorem hitsFrom_skip (front rest : List Char) (offset : Nat) :
    pattern.hitsFrom front.length offset (front ++ rest) =
      pattern.hitsFrom 0 (offset + byteSize front) rest := by
  induction front generalizing offset with
  | nil => rfl
  | cons character front ih =>
      rw [List.length_cons, List.cons_append, hitsFrom, ih, byteSize_cons, Nat.add_assoc]

/-- The search passes over texts at which nothing matches. -/
theorem hitsFrom_pass {front rest : List Char} (none : NoneIn pattern.Starts front rest)
    (offset : Nat) :
    pattern.hitsFrom 0 offset (front ++ rest) =
      pattern.hitsFrom 0 (offset + byteSize front) rest := by
  induction front generalizing offset with
  | nil => rfl
  | cons character front ih =>
      obtain ⟨notHere, later⟩ := noneIn_cons.mp none
      rw [List.cons_append, hitsFrom, Classical.not_not.mp notHere, byteSize_cons, ← Nat.add_assoc]
      exact ih later _

theorem hitsFrom_eq_nil {text : List Char} (none : NoneIn pattern.Starts text []) (offset : Nat) :
    pattern.hitsFrom 0 offset text = [] := by
  have passed := hitsFrom_pass none offset
  rwa [List.append_nil] at passed

/-- The preferred way at a place is taken, and the search goes on behind it. -/
theorem hitsFrom_hit {taken inner rest : List Char} (nonempty : taken ≠ [])
    (preferred : (pattern.ways (taken ++ rest)).head? = some ⟨taken, some inner, rest⟩)
    (offset : Nat) :
    pattern.hitsFrom 0 offset (taken ++ rest) =
      ⟨offset, taken, inner⟩ :: pattern.hitsFrom 0 (offset + byteSize taken) rest := by
  obtain ⟨others, ways_eq⟩ := List.head?_eq_some_iff.mp preferred
  obtain ⟨character, taken, rfl⟩ := List.exists_cons_of_ne_nil nonempty
  rw [List.cons_append] at ways_eq ⊢
  rw [hitsFrom, ways_eq, byteSize_cons, ← Nat.add_assoc]
  exact congrArg _ (hitsFrom_skip taken rest _)

end

/-! ## Characters in front -/

theorem ways_one_both {next : Pattern} (sought character : Char) (tail : List Char) :
    ((one (· = sought)).both next).ways (character :: tail) =
      if character = sought then
        (next.ways tail).map fun later => { later with taken := character :: later.taken }
      else [] := by
  by_cases same : character = sought <;> simp [ways, same]

/-! ## Closing delimiters -/

/-- The ways to accept characters up to a closing delimiter at a place in a text, of which the
characters `inside` have been accepted already. -/
def closings (greedy : Bool) (accepts : Char → Bool) (closing : Pattern)
    (inside text : List Char) : List Way :=
  (repeats greedy accepts text).flatMap fun way =>
    (closing.ways way.rest).map fun later =>
      ⟨inside ++ way.taken ++ later.taken, later.captured.or (some (inside ++ way.taken)),
        later.rest⟩

section

variable {greedy : Bool} {accepts : Char → Bool} {closing : Pattern}

theorem closings_nil (inside : List Char) :
    closings greedy accepts closing inside [] =
      (closing.ways []).map fun later =>
        ⟨inside ++ later.taken, later.captured.or (some inside), later.rest⟩ := by
  simp [closings, repeats]

theorem closings_lazy_cons (inside : List Char) (character : Char) (tail : List Char) :
    closings false (fun _ => true) closing inside (character :: tail) =
      ((closing.ways (character :: tail)).map fun later =>
        ⟨inside ++ later.taken, later.captured.or (some inside), later.rest⟩) ++
          closings false (fun _ => true) closing (inside ++ [character]) tail := by
  simp [closings, repeats, List.flatMap_map]

theorem closings_greedy_cons (inside : List Char) (character : Char) (tail : List Char) :
    closings true accepts closing inside (character :: tail) =
      (if accepts character then closings true accepts closing (inside ++ [character]) tail
        else []) ++
        ((closing.ways (character :: tail)).map fun later =>
          ⟨inside ++ later.taken, later.captured.or (some inside), later.rest⟩) := by
  by_cases accepted : accepts character <;>
    simp [closings, repeats, List.flatMap_map, accepted]

theorem ways_group_both (opened : List Char) :
    ((group (many greedy accepts)).both closing).ways opened =
      closings greedy accepts closing [] opened := by
  simp [closings, ways, List.flatMap_map]

end

/-! ## Scripts -/

/-- The pattern of scripts that start with two given characters. -/
def script (first second : Char) (closing : Pattern) : Pattern :=
  (one (· = first)).both
    ((one (· = second)).both ((group (many false fun _ => true)).both closing))

/-- A pattern matches the closing delimiters, and captures nothing. -/
structure Offers (closing : Pattern) (ending : Ending) : Prop where
  /-- A delimiter at the front is preferred. -/
  here {delimiter rest : List Char} (closes : ending delimiter rest) :
    (closing.ways (delimiter ++ rest)).head? = some ⟨delimiter, none, rest⟩
  /-- Nothing else matches. -/
  nowhere {text : List Char} (notHere : ¬ Closes ending text) : closing.ways text = []

section

variable {closing : Pattern} {ending : Ending} (offers : closing.Offers ending)

include offers

/-- The way to the nearest closing delimiter is preferred. -/
theorem head?_closings {text : List Char} {found : Closing} (nearest : Nearest ending text found)
    (inside : List Char) :
    (closings false (fun _ => true) closing inside text).head? =
      some ⟨inside ++ found.inner ++ found.delimiter, some (inside ++ found.inner),
        found.rest⟩ := by
  obtain ⟨inner, delimiter, rest⟩ := found
  obtain ⟨rfl, closes, noneBefore⟩ := nearest
  induction inner generalizing inside with
  | nil =>
      have preferred := offers.here closes
      cases text_eq : delimiter ++ rest with
      | nil => simp_all [closings_nil]
      | cons character tail => simp_all [closings_lazy_cons]
  | cons character inner ih =>
      obtain ⟨notHere, noneLater⟩ := noneIn_cons.mp noneBefore
      have later := ih (inside ++ [character]) closes noneLater
      rw [List.cons_append, closings_lazy_cons, offers.nowhere notHere]
      simpa using later

/-- There is no way if no closing delimiter is left. -/
theorem closings_eq_nil {text : List Char} (never : ∀ late, late <:+ text → ¬ Closes ending late)
    (inside : List Char) : closings false (fun _ => true) closing inside text = [] := by
  induction text generalizing inside with
  | nil => simp [closings_nil, offers.nowhere (never [] List.nil_suffix)]
  | cons character tail ih =>
      have notHere := offers.nowhere (never _ (List.suffix_refl _))
      have later := ih fun late suffix => never late (suffix.trans (List.suffix_cons _ _))
      rw [closings_lazy_cons, notHere, later]
      rfl

end

theorem ways_script {first second : Char} {closing : Pattern} (opened : List Char) :
    (script first second closing).ways (first :: second :: opened) =
      (closings false (fun _ => true) closing [] opened).map fun way =>
        { way with taken := first :: second :: way.taken } := by
  simp [script, ways_one_both, ways_group_both, Function.comp_def]

theorem exists_of_starts_script {first second : Char} {closing : Pattern} {text : List Char}
    (starts : Starts (script first second closing) text) :
    ∃ opened, text = [first, second] ++ opened ∧
      closings false (fun _ => true) closing [] opened ≠ [] := by
  unfold Starts at starts
  match text with
  | [] => simp [script, ways] at starts
  | [character] => simp [script, ways_one_both, ways] at starts
  | character :: other :: opened =>
      by_cases delimiters : character = first ∧ other = second
      · obtain ⟨rfl, rfl⟩ := delimiters
        rw [ways_script, ne_eq, List.map_eq_nil_iff] at starts
        exact ⟨opened, rfl, starts⟩
      · simp_all [script, ways_one_both]

/-- The regions that scanning from left to right finds are the matches of the pattern. -/
theorem hitsFrom_of_scan {first second : Char} {closing : Pattern} {ending : Ending}
    (offers : closing.Offers ending) {offset : Nat} {text remainder : List Char}
    {regions : List Region} (scan : Scan [first, second] ending offset text regions remainder) :
    (script first second closing).hitsFrom 0 offset text = regions.map Region.hit := by
  induction scan with
  | @unopened offset text absent =>
      apply hitsFrom_eq_nil
      intro late _ suffix starts
      obtain ⟨opened, late_eq, _⟩ := exists_of_starts_script starts
      rw [List.append_nil] at late_eq
      apply absent
      exact (late_eq ▸ List.prefix_append _ _ : [first, second] <+: late).isInfix.trans
        suffix.isInfix
  | @unclosed offset front opened opens never =>
      -- What follows any opening delimiter is at the end of what follows the first one, where no
      -- closing delimiter is left.
      apply hitsFrom_eq_nil
      intro late _ suffix starts
      obtain ⟨behind, late_eq, closed⟩ := exists_of_starts_script starts
      rw [List.append_nil] at late_eq
      obtain ⟨other, split⟩ := suffix
      rw [late_eq] at split
      have inside := suffix_of_noneIn opens split.symm
      exact closed (closings_eq_nil offers (fun late ends => never late (ends.trans inside)) [])
  | @region offset front opened found regions remainder opens nearest _ ih =>
      have passed : NoneIn (script first second closing).Starts front
          ([first, second] ++ opened) := by
        intro late nonempty suffix starts
        obtain ⟨_, late_eq, _⟩ := exists_of_starts_script starts
        exact opens late nonempty suffix ⟨_, late_eq.symm⟩
      have text_eq : [first, second] ++ opened =
          (found.region (offset + byteSize front) [first, second]).raw ++ found.rest := by
        rw [nearest.text_eq, raw_closingRegion]
        simp
      have closed := head?_closings offers nearest []
      have preferred : ((script first second closing).ways
          ((found.region (offset + byteSize front) [first, second]).raw ++ found.rest)).head? =
            some ⟨(found.region (offset + byteSize front) [first, second]).raw, some found.inner,
              found.rest⟩ := by
        rw [← text_eq, raw_closingRegion]
        simp [ways_script, closed]
      rw [hitsFrom_pass passed, text_eq, hitsFrom_hit (by simp [raw_closingRegion]) preferred]
      exact congrArg _ ih

/-! ## Early and late scripts -/

/-- The pattern `(?s)\^\((.*?)\)\^`. -/
def early : Pattern :=
  script '^' '(' ((one (· = ')')).both (one (· = '^')))

/-- The pattern `(?s)\$\((.*?)\)(?:\$|\z)`. -/
def late : Pattern :=
  script '$' '(' ((one (· = ')')).both ((one (· = '$')).either finish))

theorem offers_early :
    Offers ((one (· = ')')).both (one (· = '^'))) (endingWith [')', '^']) where
  here := by
    rintro _ rest rfl
    rfl
  nowhere := by
    intro text notHere
    rw [closes_endingWith] at notHere
    match text with
    | [] => rfl
    | [_] => simp [ways]
    | first :: second :: rest =>
        have apart : ¬ (first = ')' ∧ second = '^') := by
          rintro ⟨rfl, rfl⟩
          exact notHere (List.prefix_append [')', '^'] rest)
        simpa [ways] using apart

theorem offers_late :
    Offers ((one (· = ')')).both ((one (· = '$')).either finish)) lateEnding where
  here := by
    rintro _ rest (rfl | ⟨rfl, rfl⟩)
    · simp [ways]
    · rfl
  nowhere := by
    intro text notHere
    rw [closes_lateEnding] at notHere
    match text with
    | [] => rfl
    | [_] => simp_all [ways]
    | first :: second :: rest =>
        have apart : ¬ (first = ')' ∧ second = '$') := by
          rintro ⟨rfl, rfl⟩
          exact notHere (.inl (List.prefix_append [')', '$'] rest))
        simpa [ways] using apart

theorem hits_early (text : List Char) :
    early.hits text = (earlyScripts text).map Region.hit := by
  obtain ⟨_, scan⟩ : ∃ remainder,
      Scan ['^', '('] (endingWith [')', '^']) 0 text (earlyScripts text) remainder :=
    (delimited_eq_iff (by simp) finds_earlyClosing?).mp rfl
  exact hitsFrom_of_scan offers_early scan

theorem hits_late (text : List Char) :
    late.hits text = (lateScripts text).map Region.hit := by
  obtain ⟨_, scan⟩ : ∃ remainder,
      Scan ['$', '('] lateEnding 0 text (lateScripts text) remainder :=
    (delimited_eq_iff (by simp) finds_lateClosing?).mp rfl
  exact hitsFrom_of_scan offers_late scan

/-- The end of the text closes a late script as a dollar does. -/
example : late.hits ['$', '(', 'a', ')'] = [⟨0, ['$', '(', 'a', ')'], ['a']⟩] := by decide

/-! ## Pairs of braces -/

/-- Every character that is no brace. -/
def plain (character : Char) : Bool :=
  character ≠ '\x7b' && character ≠ '\x7d'

/-- The pattern `\{([^{}]*)\}`. -/
def braces : Pattern :=
  (one (· = '\x7b')).both ((group (many true plain)).both (one (· = '\x7d')))

section

variable {inner : List Char} (braceless : Braceless inner)

include braceless

/-- The only way to close a brace is to accept all characters up to the next one. -/
theorem closings_plain (inside rest : List Char)
    (stops : ∀ next ∈ rest.head?, plain next = false) :
    closings true plain (one (· = '\x7d')) inside (inner ++ rest) =
      ((one (· = '\x7d')).ways rest).map fun later =>
        ⟨inside ++ inner ++ later.taken, later.captured.or (some (inside ++ inner)),
          later.rest⟩ := by
  induction inner generalizing inside with
  | nil =>
      rw [List.nil_append, List.append_nil]
      cases rest with
      | nil => rfl
      | cons next rest =>
          have stop : plain next = false := stops next rfl
          simp [closings_greedy_cons, stop]
  | cons character inner ih =>
      obtain ⟨noOpening, noClosing⟩ := braceless character List.mem_cons_self
      have accepted : plain character = true := by simp [plain, noOpening, noClosing]
      have later := ih (fun other member => braceless other (List.mem_cons_of_mem _ member))
        (inside ++ [character])
      rw [List.cons_append, closings_greedy_cons, if_pos accepted, later]
      simp [ways, noClosing]

theorem closings_open (rest : List Char) (stops : ∀ next ∈ rest.head?, next = '\x7b') :
    closings true plain (one (· = '\x7d')) [] (inner ++ rest) = [] := by
  rw [closings_plain braceless]
  · cases rest with
    | nil => rfl
    | cons next rest => simp [ways, stops next rfl]
  · intro next first
    simp [plain, stops next first]

theorem ways_braces (rest : List Char) :
    braces.ways ('\x7b' :: (inner ++ '\x7d' :: rest)) =
      [⟨'\x7b' :: inner ++ ['\x7d'], some inner, rest⟩] := by
  rw [braces, ways_one_both, if_pos rfl, ways_group_both,
    closings_plain braceless _ _ (by simp [plain])]
  simp [ways]

/-- An opening brace is passed over unless the next brace is a closing one. -/
theorem noneIn_braces {rest : List Char} (stops : ∀ next ∈ rest.head?, next = '\x7b') :
    NoneIn braces.Starts ('\x7b' :: inner) rest := by
  refine noneIn_cons.mpr ⟨?_, ?_⟩
  · rw [Starts, Classical.not_not, braces, ways_one_both, if_pos rfl, ways_group_both,
      closings_open braceless rest stops]
    rfl
  · intro late nonempty suffix starts
    obtain ⟨character, later, rfl⟩ := List.exists_cons_of_ne_nil nonempty
    have member : character ∈ inner := suffix.subset List.mem_cons_self
    rw [Starts, List.cons_append, braces, ways_one_both, if_neg (braceless character member).1]
      at starts
    exact starts rfl

end

/-- The pairs of braces that scanning finds from a place on are the matches of the pattern, from
the pending brace on if there is one. -/
theorem hitsFrom_braces (text : List Char) (offset : Nat) (before : List Char) :
    braces.hitsFrom 0 offset text = (bracePairsFrom offset before none text).map (·.2.hit) ∧
      ∀ brace : OpenBrace, Braceless brace.inner → offset = brace.start + byteSize brace.raw →
        braces.hitsFrom 0 brace.start (brace.raw ++ text) =
          (bracePairsFrom offset before (some brace) text).map (·.2.hit) := by
  induction text generalizing offset before with
  | nil =>
      refine ⟨rfl, ?_⟩
      intro brace braceless _
      rw [List.append_nil]
      exact hitsFrom_eq_nil (noneIn_braces (braceless_reverse braceless) (by simp)) _
  | cons character tail ih =>
      by_cases opening : character = '\x7b'
      · subst opening
        have opened := (ih (offset + 1) ('\x7b' :: before)).2 ⟨offset, before, []⟩
          (by simp [Braceless]) rfl
        refine ⟨opened, ?_⟩
        intro brace braceless place
        -- The pending brace is passed over, and the new one is pending instead.
        rw [bracePairsFrom_opening, ← opened, OpenBrace.raw,
          hitsFrom_pass (noneIn_braces (braceless_reverse braceless) (by simp)), place]
        rfl
      · obtain ⟨closed, waiting⟩ := ih (offset + character.utf8Size) (character :: before)
        refine ⟨?_, ?_⟩
        · rw [bracePairsFrom_none _ _ _ opening, ← closed, hitsFrom, braces, ways_one_both,
            if_neg opening]
        · intro brace braceless place
          by_cases closing : character = '\x7d'
          · subst closing
            have text_eq : brace.raw ++ '\x7d' :: tail = brace.close.raw ++ tail := by
              simp [brace.raw_close]
            have preferred : (braces.ways (brace.close.raw ++ tail)).head? =
                some ⟨brace.close.raw, some brace.close.inner, tail⟩ := by
              rw [← text_eq, OpenBrace.raw, List.cons_append,
                ways_braces (braceless_reverse braceless)]
              rfl
            rw [bracePairsFrom_closing_some, text_eq,
              hitsFrom_hit (by simp [brace.raw_close]) preferred]
            have stop_eq : brace.start + byteSize brace.close.raw = offset + 1 :=
              OpenBrace.stop_close place
            rw [stop_eq]
            exact congrArg _ closed
          · rw [bracePairsFrom_some _ _ _ opening closing,
              ← waiting { brace with inner := character :: brace.inner }
                (braceless.cons opening closing) (OpenBrace.place_cons place character),
              brace.raw_cons, List.append_assoc]
            rfl

theorem hits_braces (text : List Char) :
    braces.hits text = (bracePairs text).map (·.2.hit) :=
  (hitsFrom_braces text 0 []).1

end Pattern
end ChatMacro
