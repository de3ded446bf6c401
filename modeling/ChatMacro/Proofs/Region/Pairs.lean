import ChatMacro.Proofs.Region.Braces

/-!
# All pairs of braces

Scanning lists every opening brace with a closing brace behind it and no brace between, whatever
braces stand before it.  So the variable blocks are all the pairs that do not belong to a script.
-/

namespace ChatMacro
namespace Region

open Text

theorem byteSize_reverse_cons (character : Char) (before : List Char) :
    byteSize (character :: before).reverse = byteSize before.reverse + character.utf8Size := by
  rw [List.reverse_cons, byteSize_append]
  rfl

/-- A pending brace stands at its place in the reversed text `before`, and all that follows it there
is inside of it. -/
structure OpenBrace.Pends (brace : OpenBrace) (before : List Char) : Prop where
  /-- The place of the brace. -/
  start_eq : brace.start = byteSize brace.before.reverse
  /-- The text from the brace on. -/
  before_eq : before = brace.inner ++ '\x7b' :: brace.before

theorem OpenBrace.Pends.cons {brace : OpenBrace} {before : List Char} (pends : brace.Pends before)
    (character : Char) :
    OpenBrace.Pends { brace with inner := character :: brace.inner } (character :: before) :=
  ⟨pends.start_eq, congrArg (character :: ·) pends.before_eq⟩

theorem OpenBrace.Pends.reverse_eq {brace : OpenBrace} {before : List Char}
    (pends : brace.Pends before) (tail : List Char) :
    before.reverse ++ '\x7d' :: tail = brace.before.reverse ++ (brace.close.raw ++ tail) := by
  rw [pends.before_eq]
  simp [Region.raw, OpenBrace.close]

/-- A pair that is listed is in the text, behind the text that is listed with it. -/
theorem exists_after_of_mem_bracePairsFrom (text before : List Char) {offset : Nat}
    {pending : Option OpenBrace} (place : offset = byteSize before.reverse)
    (pends : ∀ brace ∈ pending, brace.Pends before) {pair : List Char × Region}
    (member : pair ∈ bracePairsFrom offset before pending text) :
    ∃ after, before.reverse ++ text = pair.1 ++ (pair.2.raw ++ after) ∧
      pair.2.start = byteSize pair.1 := by
  induction text generalizing offset before pending with
  | nil => simp [bracePairsFrom] at member
  | cons character tail ih =>
      have place' : offset + character.utf8Size = byteSize (character :: before).reverse := by
        rw [byteSize_reverse_cons, place]
      have shifted :
          before.reverse ++ character :: tail = (character :: before).reverse ++ tail := by
        simp
      by_cases opening : character = '\x7b'
      · subst opening
        rw [bracePairsFrom_opening] at member
        rw [shifted]
        refine ih _ place' ?_ member
        intro brace same
        cases same
        exact ⟨place, rfl⟩
      · cases pending with
        | none =>
            rw [bracePairsFrom_none _ _ _ opening] at member
            rw [shifted]
            exact ih _ place' (by simp) member
        | some brace =>
            by_cases closing : character = '\x7d'
            · subst closing
              rw [bracePairsFrom_closing_some] at member
              rcases List.mem_cons.mp member with rfl | later
              · exact ⟨tail, (pends brace rfl).reverse_eq tail, (pends brace rfl).start_eq⟩
              · rw [shifted]
                exact ih _ place' (by simp) later
            · rw [bracePairsFrom_some _ _ _ opening closing] at member
              rw [shifted]
              refine ih _ place' ?_ member
              intro grown same
              cases same
              exact (pends brace rfl).cons character

/-- The pair of braces that stands behind a text. -/
def pairBehind (before inner : List Char) : Region :=
  { start := byteSize before, opening := ['\x7b'], inner, closing := ['\x7d'] }

/-- Scanning reaches every pair with no brace between: an opening brace discards whatever is pending
before it. -/
theorem mem_bracePairsFrom {inner : List Char} (braceless : Braceless inner)
    (before front after : List Char) {offset : Nat} (pending : Option OpenBrace)
    (place : offset = byteSize before.reverse) :
    (before.reverse ++ front, pairBehind (before.reverse ++ front) inner) ∈
      bracePairsFrom offset before pending (front ++ '\x7b' :: (inner ++ '\x7d' :: after)) := by
  induction front generalizing before offset pending with
  | nil =>
      rw [List.nil_append, bracePairsFrom_opening, bracePairsFrom_braceless braceless,
        bracePairsFrom_closing_some, List.append_nil, place]
      simp [OpenBrace.close, pairBehind]
  | cons character front ih =>
      have shifted :
          before.reverse ++ character :: front = (character :: before).reverse ++ front := by
        simp
      have place' : offset + character.utf8Size = byteSize (character :: before).reverse := by
        rw [byteSize_reverse_cons, place]
      have later (pending : Option OpenBrace) := ih (character :: before) pending place'
      rw [shifted, List.cons_append]
      by_cases opening : character = '\x7b'
      · subst opening
        exact later _
      · cases pending with
        | none =>
            rw [bracePairsFrom_none _ _ _ opening]
            exact later _
        | some brace =>
            by_cases closing : character = '\x7d'
            · subst closing
              rw [bracePairsFrom_closing_some]
              exact List.mem_cons_of_mem _ (later _)
            · rw [bracePairsFrom_some _ _ _ opening closing]
              exact later _

theorem mem_bracePairs_iff {text before : List Char} {region : Region} :
    (before, region) ∈ bracePairs text ↔
      region.IsPair ∧ ∃ after, text = before ++ (region.raw ++ after) ∧
        region.start = byteSize before := by
  constructor
  · intro member
    exact ⟨isPair_of_mem_bracePairsFrom text 0 [] none (by simp) member,
      exists_after_of_mem_bracePairsFrom text [] rfl (by simp) member⟩
  · rintro ⟨⟨opening, closing, braceless⟩, after, rfl, start_eq⟩
    obtain ⟨start, _, inner, _⟩ := region
    subst opening closing start_eq
    have atStart : 0 = byteSize ([] : List Char).reverse := rfl
    have listed := mem_bracePairsFrom braceless [] before after none atStart
    simpa [bracePairs, raw, pairBehind] using listed

theorem mem_blocks_iff {text : List Char} {region : Region} :
    region ∈ blocks text ↔
      region.IsPair ∧ ∃ before after, text = before ++ (region.raw ++ after) ∧
        region.start = byteSize before ∧ isScriptBrace before region.inner = false := by
  have listed : region ∈ blocks text ↔
      ∃ before, (before, region) ∈ bracePairs text ∧
        isScriptBrace before region.inner = false := by
    simp [blocks]
  rw [listed]
  constructor
  · rintro ⟨before, member, noScript⟩
    obtain ⟨isPair, after, text_eq, start_eq⟩ := mem_bracePairs_iff.mp member
    exact ⟨isPair, before, after, text_eq, start_eq, noScript⟩
  · rintro ⟨isPair, before, after, text_eq, start_eq, noScript⟩
    exact ⟨before, mem_bracePairs_iff.mpr ⟨isPair, after, text_eq, start_eq⟩, noScript⟩

/-- The variable blocks of a text are apart and in order, and they are all the pairs of braces with
no brace between that do not belong to a script. -/
theorem blocks_exact (text : List Char) :
    (blocks text).Pairwise (fun left right => left.stop ≤ right.start) ∧
      ∀ region, region ∈ blocks text ↔
        region.IsPair ∧ ∃ before after, text = before ++ (region.raw ++ after) ∧
          region.start = byteSize before ∧ isScriptBrace before region.inner = false :=
  ⟨(layout_blocks text).pairwise, fun _ => mem_blocks_iff⟩

theorem pairBehind_mem_blocks_iff {before inner : List Char} (braceless : Braceless inner)
    (after : List Char) :
    pairBehind before inner ∈ blocks (before ++ ((pairBehind before inner).raw ++ after)) ↔
      isScriptBrace before inner = false := by
  rw [mem_blocks_iff]
  constructor
  · rintro ⟨_, other, _, text_eq, start_eq, noScript⟩
    rw [(append_inj_of_byteSize text_eq start_eq).1]
    exact noScript
  · intro noScript
    exact ⟨⟨rfl, rfl, braceless⟩, before, after, rfl, rfl, noScript⟩

end Region
end ChatMacro
