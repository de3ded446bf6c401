import ChatMacro.Proofs.Region.Layout
import ChatMacro.Proofs.Text.Search

/-!
# Scripts in a text

The scripts of a text are found from left to right: a script starts at the first opening delimiter,
it ends at the nearest closing delimiter behind that one, and the search goes on behind it.
-/

namespace ChatMacro
namespace Region

open Text

/-! ## Closing delimiters -/

/-- Which closing delimiters may stand in front of the rest of a text. -/
abbrev Ending :=
  List Char → List Char → Prop

/-- Scripts that always end with the same delimiter. -/
def endingWith (delimiter : List Char) : Ending :=
  fun closing _ => closing = delimiter

/-- Late scripts end with `)$`, and with a parenthesis at the end of the text. -/
def lateEnding : Ending :=
  fun closing rest => closing = [')', '$'] ∨ closing = [')'] ∧ rest = []

/-- A text starts with a closing delimiter. -/
def Closes (ending : Ending) (text : List Char) : Prop :=
  ∃ delimiter rest, text = delimiter ++ rest ∧ ending delimiter rest

theorem closes_endingWith {delimiter text : List Char} :
    Closes (endingWith delimiter) text ↔ delimiter <+: text := by
  constructor
  · rintro ⟨_, rest, rfl, rfl⟩
    exact List.prefix_append _ _
  · rintro ⟨rest, rfl⟩
    exact ⟨delimiter, rest, rfl, rfl⟩

theorem closes_lateEnding {text : List Char} :
    Closes lateEnding text ↔ [')', '$'] <+: text ∨ text = [')'] := by
  constructor
  · rintro ⟨_, rest, rfl, rfl | ⟨rfl, rfl⟩⟩
    · exact .inl (List.prefix_append _ _)
    · exact .inr rfl
  · rintro (⟨rest, rfl⟩ | rfl)
    · exact ⟨[')', '$'], rest, rfl, .inl rfl⟩
    · exact ⟨[')'], [], rfl, .inr ⟨rfl, rfl⟩⟩

/-- The nearest closing delimiter of a text, with the text before and behind it. -/
structure Nearest (ending : Ending) (text : List Char) (closing : Closing) : Prop where
  /-- The three parts make up the text. -/
  text_eq : text = closing.inner ++ (closing.delimiter ++ closing.rest)
  /-- The delimiter may stand where it stands. -/
  closes : ending closing.delimiter closing.rest
  /-- No closing delimiter starts before it. -/
  nearest : NoneIn (Closes ending) closing.inner (closing.delimiter ++ closing.rest)

/-- A search looks for closing delimiters at one place after the other. -/
structure Finds (closing? : List Char → Option Closing) (ending : Ending) : Prop where
  /-- A closing delimiter at the front is taken. -/
  here {delimiter rest : List Char} (closes : ending delimiter rest) :
    closing? (delimiter ++ rest) = some ⟨[], delimiter, rest⟩
  /-- A character with which no closing delimiter starts is passed over. -/
  later {character : Char} {tail : List Char} (notHere : ¬ Closes ending (character :: tail)) :
    closing? (character :: tail) =
      (closing? tail).map fun closing => { closing with inner := character :: closing.inner }
  /-- The search ends with the text. -/
  nil (notHere : ¬ Closes ending []) : closing? [] = none

section

variable {closing? : List Char → Option Closing} {ending : Ending} {text : List Char}

theorem Finds.none_iff (finds : Finds closing? ending) :
    closing? text = none ↔ ∀ late, late <:+ text → ¬ Closes ending late := by
  have taken {text : List Char} (closes : Closes ending text) : closing? text ≠ none := by
    obtain ⟨delimiter, rest, rfl, closes⟩ := closes
    simp [finds.here closes]
  induction text with
  | nil =>
      constructor
      · intro unfound late suffix closes
        exact taken (List.suffix_nil.mp suffix ▸ closes) unfound
      · intro never
        exact finds.nil (never [] List.nil_suffix)
  | cons character tail ih =>
      constructor
      · intro unfound late suffix closes
        have notHere : ¬ Closes ending (character :: tail) := fun closes => taken closes unfound
        rw [finds.later notHere, Option.map_eq_none_iff] at unfound
        rcases List.suffix_cons_iff.mp suffix with rfl | later
        · exact notHere closes
        · exact ih.mp unfound late later closes
      · intro never
        rw [finds.later (never _ (List.suffix_refl _)), Option.map_eq_none_iff]
        apply ih.mpr
        intro late suffix
        exact never late (suffix.trans (List.suffix_cons _ _))

theorem Finds.some_iff (finds : Finds closing? ending) {closing : Closing} :
    closing? text = some closing ↔ Nearest ending text closing := by
  constructor
  · intro found
    induction text generalizing closing with
    | nil =>
        by_cases closes : Closes ending []
        · obtain ⟨delimiter, rest, text_eq, closes⟩ := closes
          rw [text_eq, finds.here closes] at found
          cases found
          exact ⟨text_eq, closes, noneIn_nil⟩
        · rw [finds.nil closes] at found
          cases found
    | cons character tail ih =>
        by_cases closes : Closes ending (character :: tail)
        · obtain ⟨delimiter, rest, text_eq, closes⟩ := closes
          rw [text_eq, finds.here closes] at found
          cases found
          exact ⟨text_eq, closes, noneIn_nil⟩
        · rw [finds.later closes, Option.map_eq_some_iff] at found
          obtain ⟨inside, found, rfl⟩ := found
          obtain ⟨rfl, ends, nearest⟩ := ih found
          exact ⟨rfl, ends, noneIn_cons.mpr ⟨closes, nearest⟩⟩
  · rintro ⟨rfl, closes, nearest⟩
    obtain ⟨inner, delimiter, rest⟩ := closing
    induction inner with
    | nil => exact finds.here closes
    | cons character inner ih =>
        obtain ⟨notHere, nearest⟩ := noneIn_cons.mp nearest
        rw [List.cons_append, finds.later notHere, ih closes nearest]
        rfl

end

theorem finds_breakOn? (delimiter : List Char) :
    Finds (fun text => (breakOn? delimiter text).map fun parts => ⟨parts.1, delimiter, parts.2⟩)
      (endingWith delimiter) where
  here := by
    rintro _ rest rfl
    simp only [breakOn?_append, Option.map_some]
  later := by
    intro character tail notHere
    rw [closes_endingWith] at notHere
    simp only [breakOn?_cons notHere, Option.map_map]
    rfl
  nil := by
    intro notHere
    rw [closes_endingWith, List.prefix_nil] at notHere
    simp [breakOn?, notHere]

theorem finds_earlyClosing? : Finds earlyClosing? (endingWith [')', '^']) :=
  finds_breakOn? [')', '^']

theorem finds_lateClosing? : Finds lateClosing? lateEnding where
  here := by
    rintro _ rest (rfl | ⟨rfl, rfl⟩)
    · simp [lateClosing?]
    · rfl
  later := by
    intro character tail notHere
    rw [closes_lateEnding, not_or] at notHere
    rw [lateClosing?.eq_def]
    split
    · rename_i single
      cases single
    · rename_i single
      exact absurd single notHere.2
    · rename_i rest closed
      exact absurd ⟨rest, closed.symm⟩ notHere.1
    · rename_i same
      cases same
      rfl
  nil := fun _ => rfl

/-! ## Scanning -/

/-- The region between an opening delimiter at a place and a closing delimiter. -/
def Closing.region (closing : Closing) (start : Nat) (opening : List Char) : Region :=
  { start, opening, inner := closing.inner, closing := closing.delimiter }

/-- Scanning from left to right, from the place `offset` on: the regions, and the text behind the
last of them. -/
inductive Scan (opening : List Char) (ending : Ending) :
    Nat → List Char → List Region → List Char → Prop where
  /-- There is no opening delimiter. -/
  | unopened {offset : Nat} {text : List Char} (absent : ¬ opening <:+: text) :
      Scan opening ending offset text [] text
  /-- No closing delimiter is behind the first opening delimiter. -/
  | unclosed {offset : Nat} {front opened : List Char}
      (first : NoneIn (opening <+: ·) front (opening ++ opened))
      (never : ∀ late, late <:+ opened → ¬ Closes ending late) :
      Scan opening ending offset (front ++ (opening ++ opened)) [] (front ++ (opening ++ opened))
  /-- The nearest closing delimiter behind the first opening delimiter ends a region. -/
  | region {offset : Nat} {front opened : List Char} {closing : Closing} {regions : List Region}
      {remainder : List Char} (first : NoneIn (opening <+: ·) front (opening ++ opened))
      (nearest : Nearest ending opened closing)
      (later : Scan opening ending (closing.region (offset + byteSize front) opening).stop
        closing.rest regions remainder) :
      Scan opening ending offset (front ++ (opening ++ opened))
        (closing.region (offset + byteSize front) opening :: regions) remainder

section

variable {opening : List Char} {closing? : List Char → Option Closing} {ending : Ending}
  {offset : Nat} {text remainder : List Char} {regions : List Region}

/-- What follows an opened region is shorter than the text. -/
theorem length_rest_lt (nonempty : opening ≠ []) (front : List Char) {opened : List Char}
    {closing : Closing} (nearest : Nearest ending opened closing) :
    closing.rest.length < (front ++ (opening ++ opened)).length := by
  have positive := List.length_pos_iff.mpr nonempty
  rw [nearest.text_eq]
  simp only [List.length_append]
  omega

theorem scan_delimited (nonempty : opening ≠ []) (finds : Finds closing? ending) {limit : Nat}
    (enough : text.length ≤ limit) :
    ∃ remainder,
      Scan opening ending offset text (delimited opening closing? limit offset text) remainder := by
  induction limit generalizing offset text with
  | zero =>
      obtain rfl := List.eq_nil_of_length_eq_zero (Nat.le_zero.mp enough)
      exact ⟨[], .unopened fun occurs => nonempty (List.eq_nil_of_infix_nil occurs)⟩
  | succ limit ih =>
      cases broken : breakOn? opening text with
      | none =>
          simp only [delimited, broken]
          exact ⟨text, .unopened (breakOn?_eq_none_iff.mp broken)⟩
      | some parts =>
          obtain ⟨front, opened⟩ := parts
          obtain ⟨rfl, first⟩ := breakOn?_eq_some_iff.mp broken
          cases found : closing? opened with
          | none =>
              simp only [delimited, broken, found]
              exact ⟨_, .unclosed first (finds.none_iff.mp found)⟩
          | some closing =>
              have nearest := finds.some_iff.mp found
              have shorter := length_rest_lt nonempty front nearest
              obtain ⟨remainder, later⟩ : ∃ remainder,
                  Scan opening ending (closing.region (offset + byteSize front) opening).stop
                    closing.rest
                    (delimited opening closing? limit
                      (closing.region (offset + byteSize front) opening).stop closing.rest)
                    remainder :=
                ih (by omega)
              simp only [delimited, broken, found]
              exact ⟨remainder, .region first nearest later⟩

theorem Scan.delimited_eq (nonempty : opening ≠ []) (finds : Finds closing? ending)
    (scan : Scan opening ending offset text regions remainder) {limit : Nat}
    (enough : text.length ≤ limit) : delimited opening closing? limit offset text = regions := by
  induction scan generalizing limit with
  | unopened absent =>
      cases limit with
      | zero => rfl
      | succ limit => simp only [delimited, breakOn?_eq_none_iff.mpr absent]
  | unclosed first never =>
      cases limit with
      | zero => rfl
      | succ limit =>
          have broken := breakOn?_eq_some_iff.mpr ⟨rfl, first⟩
          simp only [delimited, broken, finds.none_iff.mpr never]
  | @region offset front opened closing regions remainder first nearest later ih =>
      have shorter := length_rest_lt nonempty front nearest
      obtain ⟨limit, rfl⟩ : ∃ smaller, limit = smaller + 1 := ⟨limit - 1, by omega⟩
      have broken := breakOn?_eq_some_iff.mpr ⟨rfl, first⟩
      have behind : delimited opening closing? limit
          (closing.region (offset + byteSize front) opening).stop closing.rest = regions :=
        ih (by omega)
      simp only [delimited, broken, finds.some_iff.mpr nearest]
      exact congrArg _ behind

end

/-! ## What is found and what is not -/

/-- The place behind the last of some regions. -/
def endFrom (offset : Nat) : List Region → Nat
  | [] => offset
  | region :: regions => endFrom region.stop regions

section

variable {opening : List Char} {ending : Ending} {offset : Nat} {text remainder : List Char}
  {regions : List Region}

theorem raw_closingRegion (closing : Closing) (start : Nat) :
    (closing.region start opening).raw = opening ++ (closing.inner ++ closing.delimiter) := by
  simp [raw, Closing.region]

theorem Scan.layout (scan : Scan opening ending offset text regions remainder) :
    Layout offset regions text := by
  induction scan with
  | unopened => exact .nil _ _
  | unclosed => exact .nil _ _
  | @region offset front opened closing _ _ _ nearest _ ih =>
      have text_eq : opening ++ opened =
          (closing.region (offset + byteSize front) opening).raw ++ closing.rest := by
        rw [nearest.text_eq, raw_closingRegion]
        simp only [List.append_assoc]
      rw [text_eq]
      exact .cons front rfl ih

theorem Scan.exists_front (scan : Scan opening ending offset text regions remainder) :
    ∃ front, text = front ++ remainder ∧ offset + byteSize front = endFrom offset regions := by
  induction scan with
  | unopened => exact ⟨[], rfl, rfl⟩
  | unclosed => exact ⟨[], rfl, rfl⟩
  | @region offset front opened closing _ remainder _ nearest _ ih =>
      obtain ⟨inside, rest_eq, place⟩ := ih
      refine ⟨front ++ (closing.region (offset + byteSize front) opening).raw ++ inside, ?_, ?_⟩
      · rw [nearest.text_eq, raw_closingRegion, rest_eq]
        simp only [List.append_assoc]
      · rw [endFrom, ← place, stop, byteSize_append, byteSize_append]
        simp only [Closing.region]
        omega

/-- The text behind the last region is determined by its place. -/
theorem Scan.remainder_eq (scan : Scan opening ending 0 text regions remainder)
    {front rest : List Char} (text_eq : text = front ++ rest)
    (place : byteSize front = endFrom 0 regions) : rest = remainder := by
  obtain ⟨before, split, before_place⟩ := scan.exists_front
  rw [Nat.zero_add] at before_place
  exact (append_inj_of_byteSize (text_eq.symm.trans split) (place.trans before_place.symm)).2

theorem Nearest.not_infix {opened delimiter : List Char} {closing : Closing}
    (nearest : Nearest ending opened closing) (nonempty : delimiter ≠ [])
    (always : ∀ rest, ending delimiter rest) : ¬ delimiter <:+: closing.inner := by
  rintro ⟨before, behind, inner_eq⟩
  refine nearest.nearest (delimiter ++ behind) (by simp [nonempty]) ?_ ?_
  · rw [← inner_eq, List.append_assoc]
    exact List.suffix_append _ _
  · rw [List.append_assoc]
    exact ⟨delimiter, _, rfl, always _⟩

theorem Scan.not_infix_inner (scan : Scan opening ending offset text regions remainder)
    {delimiter : List Char} (nonempty : delimiter ≠ []) (always : ∀ rest, ending delimiter rest) :
    ∀ region ∈ regions, ¬ delimiter <:+: region.inner := by
  induction scan with
  | unopened => simp
  | unclosed => simp
  | region _ nearest _ ih =>
      exact List.forall_mem_cons.mpr ⟨nearest.not_infix nonempty always, ih⟩

/-- No opening delimiter behind the last region is followed by a closing one. -/
theorem Scan.not_closes_opened (scan : Scan opening ending offset text regions remainder)
    {gap opened : List Char} (remainder_eq : remainder = gap ++ (opening ++ opened)) :
    ∀ late, late <:+ opened → ¬ Closes ending late := by
  induction scan with
  | unopened absent =>
      refine absurd ⟨gap, opened, ?_⟩ absent
      rw [remainder_eq, List.append_assoc]
  | unclosed first never =>
      intro late suffix
      exact never late (suffix.trans (suffix_of_noneIn first remainder_eq))
  | region _ _ _ ih => exact ih remainder_eq

/-- Regions of a text that are apart and in order, that end with the nearest closing delimiter, and
behind the last of which there is no further one. -/
structure Exhaustive (opening : List Char) (ending : Ending) (delimiter text : List Char)
    (regions : List Region) : Prop where
  /-- The regions lie in the text at their places. -/
  layout : Layout 0 regions text
  /-- No two of them overlap. -/
  ordered : regions.Pairwise fun left right => left.stop ≤ right.start
  /-- None has the delimiter inside. -/
  nearest : ∀ region ∈ regions, ¬ delimiter <:+: region.inner
  /-- Behind the last region no opening delimiter is followed by a closing one. -/
  exhausted : ∀ front remainder, text = front ++ remainder → byteSize front = endFrom 0 regions →
    ∀ gap opened, remainder = gap ++ (opening ++ opened) →
      ∀ late, late <:+ opened → ¬ Closes ending late

theorem Scan.exhaustive (scan : Scan opening ending 0 text regions remainder)
    {delimiter : List Char} (nonempty : delimiter ≠ []) (always : ∀ rest, ending delimiter rest) :
    Exhaustive opening ending delimiter text regions where
  layout := scan.layout
  ordered := scan.layout.pairwise
  nearest := scan.not_infix_inner nonempty always
  exhausted := by
    intro front rest text_eq place gap opened rest_eq
    rw [scan.remainder_eq text_eq place] at rest_eq
    exact scan.not_closes_opened rest_eq

theorem delimited_eq_iff {closing? : List Char → Option Closing} (nonempty : opening ≠ [])
    (finds : Finds closing? ending) :
    delimited opening closing? text.length 0 text = regions ↔
      ∃ remainder, Scan opening ending 0 text regions remainder := by
  constructor
  · rintro rfl
    exact scan_delimited nonempty finds (Nat.le_refl _)
  · rintro ⟨remainder, scan⟩
    exact scan.delimited_eq nonempty finds (Nat.le_refl _)

end

/-- The scripts of a text are the regions that scanning from left to right finds, each one from the
first opening delimiter to the nearest closing delimiter behind it.  They are apart and in order,
none has a closing delimiter inside, and none is missed behind the last. -/
theorem scripts_by_scanning (text : List Char) :
    (∀ regions, earlyScripts text = regions ↔
        ∃ remainder, Scan ['^', '('] (endingWith [')', '^']) 0 text regions remainder) ∧
      (∀ regions, lateScripts text = regions ↔
        ∃ remainder, Scan ['$', '('] lateEnding 0 text regions remainder) ∧
      Exhaustive ['^', '('] (endingWith [')', '^']) [')', '^'] text (earlyScripts text) ∧
      Exhaustive ['$', '('] lateEnding [')', '$'] text (lateScripts text) := by
  have early (regions : List Region) : earlyScripts text = regions ↔
      ∃ remainder, Scan ['^', '('] (endingWith [')', '^']) 0 text regions remainder :=
    delimited_eq_iff (by simp) finds_earlyClosing?
  have late (regions : List Region) : lateScripts text = regions ↔
      ∃ remainder, Scan ['$', '('] lateEnding 0 text regions remainder :=
    delimited_eq_iff (by simp) finds_lateClosing?
  obtain ⟨_, earlyScan⟩ := (early _).mp rfl
  obtain ⟨_, lateScan⟩ := (late _).mp rfl
  exact ⟨early, late, earlyScan.exhaustive (by simp) fun _ => rfl,
    lateScan.exhaustive (by simp) fun _ => .inl rfl⟩

end Region
end ChatMacro
