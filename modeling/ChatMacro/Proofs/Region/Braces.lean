import ChatMacro.Proofs.Region.Layout

/-!
# Pairs of braces

The pairs of braces of a text lie in it one after the other, and no brace stands between the two of
a pair.  A text that is one such pair has no other.
-/

namespace ChatMacro
namespace Region

open Text

/-! ## Scanning one character -/

section

variable (offset : Nat) (before tail : List Char)

theorem bracePairsFrom_opening (pending : Option OpenBrace) :
    bracePairsFrom offset before pending ('\x7b' :: tail) =
      bracePairsFrom (offset + 1) ('\x7b' :: before) (some ⟨offset, before, []⟩) tail := rfl

/-- The region of an opening brace that is closed. -/
def OpenBrace.close (brace : OpenBrace) : Region :=
  { start := brace.start, opening := ['\x7b'], inner := brace.inner.reverse, closing := ['\x7d'] }

theorem bracePairsFrom_closing_some (brace : OpenBrace) :
    bracePairsFrom offset before (some brace) ('\x7d' :: tail) =
      (brace.before.reverse, brace.close) ::
        bracePairsFrom (offset + 1) ('\x7d' :: before) none tail := rfl

theorem bracePairsFrom_none {character : Char} (noOpening : character ≠ '\x7b') :
    bracePairsFrom offset before none (character :: tail) =
      bracePairsFrom (offset + character.utf8Size) (character :: before) none tail := by
  simp [bracePairsFrom, noOpening]

theorem bracePairsFrom_some {character : Char} (noOpening : character ≠ '\x7b')
    (noClosing : character ≠ '\x7d') (brace : OpenBrace) :
    bracePairsFrom offset before (some brace) (character :: tail) =
      bracePairsFrom (offset + character.utf8Size) (character :: before)
        (some { brace with inner := character :: brace.inner }) tail := by
  simp [bracePairsFrom, noOpening, noClosing]

end

/-! ## Places of the pairs -/

/-- An opening brace with the text after it. -/
def OpenBrace.raw (brace : OpenBrace) : List Char :=
  '\x7b' :: brace.inner.reverse

theorem OpenBrace.raw_cons (brace : OpenBrace) (character : Char) :
    OpenBrace.raw { brace with inner := character :: brace.inner } = brace.raw ++ [character] := by
  simp [OpenBrace.raw]

theorem OpenBrace.raw_close (brace : OpenBrace) : brace.close.raw = brace.raw ++ ['\x7d'] := by
  simp [Region.raw, OpenBrace.close, OpenBrace.raw]

section

variable {brace : OpenBrace} {offset : Nat} (place : offset = brace.start + byteSize brace.raw)

include place

/-- The place behind a pending brace after one more character. -/
theorem OpenBrace.place_cons (character : Char) :
    offset + character.utf8Size =
      brace.start + byteSize (OpenBrace.raw { brace with inner := character :: brace.inner }) := by
  rw [brace.raw_cons, byteSize_append, place, Nat.add_assoc]
  rfl

theorem OpenBrace.stop_close : brace.close.stop = offset + 1 := by
  rw [stop, brace.raw_close, byteSize_append, place, Nat.add_assoc]
  rfl

end

/-- The pairs that scanning finds lie in the text from the pending brace on. -/
theorem layout_bracePairsFrom (text : List Char) (offset : Nat) (before : List Char) :
    Layout offset ((bracePairsFrom offset before none text).map (·.2)) text ∧
      ∀ brace : OpenBrace, offset = brace.start + byteSize brace.raw →
        Layout brace.start ((bracePairsFrom offset before (some brace) text).map (·.2))
          (brace.raw ++ text) := by
  induction text generalizing offset before with
  | nil => exact ⟨.nil _ _, fun brace _ => .nil _ _⟩
  | cons character tail ih =>
      by_cases opening : character = '\x7b'
      · subst opening
        have opened := (ih (offset + 1) ('\x7b' :: before)).2 ⟨offset, before, []⟩ rfl
        refine ⟨opened, ?_⟩
        intro brace place
        rw [bracePairsFrom_opening]
        rw [place] at opened ⊢
        exact opened.prepend brace.raw
      · obtain ⟨plain, waiting⟩ := ih (offset + character.utf8Size) (character :: before)
        have single : byteSize [character] = character.utf8Size := by
          simp [byteSize]
        rw [← single] at plain
        refine ⟨?_, ?_⟩
        · rw [bracePairsFrom_none _ _ _ opening, ← single]
          exact plain.prepend [character]
        · intro brace place
          by_cases closing : character = '\x7d'
          · subst closing
            have size : byteSize ['\x7d'] = 1 := rfl
            rw [size, ← OpenBrace.stop_close place] at plain
            have closed : Layout brace.start _ ([] ++ (brace.close.raw ++ tail)) :=
              .cons [] rfl plain
            rw [brace.raw_close, OpenBrace.stop_close place] at closed
            rw [bracePairsFrom_closing_some]
            simpa using closed
          · rw [bracePairsFrom_some _ _ _ opening closing]
            have grown := waiting { brace with inner := character :: brace.inner }
              (OpenBrace.place_cons place character)
            simpa [OpenBrace.raw] using grown

/-- The variable blocks of a text lie in it. -/
theorem layout_blocks (text : List Char) : Layout 0 (blocks text) text := by
  have pairs := (layout_bracePairsFrom text 0 []).1
  exact pairs.sublist (List.filter_sublist.map _)

/-! ## Texts inside of the pairs -/

/-- No brace is in a text. -/
def Braceless (text : List Char) : Prop :=
  ∀ character ∈ text, character ≠ '\x7b' ∧ character ≠ '\x7d'

theorem Braceless.cons {character : Char} {text : List Char} (noOpening : character ≠ '\x7b')
    (noClosing : character ≠ '\x7d') (braceless : Braceless text) :
    Braceless (character :: text) := by
  intro other member
  rcases List.mem_cons.mp member with rfl | later
  · exact ⟨noOpening, noClosing⟩
  · exact braceless other later

theorem braceless_reverse {text : List Char} (braceless : Braceless text) :
    Braceless text.reverse :=
  fun character member => braceless character (List.mem_reverse.mp member)

/-- A region in braces without a brace inside. -/
def IsPair (region : Region) : Prop :=
  region.opening = ['\x7b'] ∧ region.closing = ['\x7d'] ∧ Braceless region.inner

theorem isPair_of_mem_bracePairsFrom (text : List Char) (offset : Nat) (before : List Char)
    (pending : Option OpenBrace) (braceless : ∀ brace ∈ pending, Braceless brace.inner)
    {pair : List Char × Region} (member : pair ∈ bracePairsFrom offset before pending text) :
    IsPair pair.2 := by
  induction text generalizing offset before pending with
  | nil => simp [bracePairsFrom] at member
  | cons character tail ih =>
      by_cases opening : character = '\x7b'
      · subst opening
        refine ih (offset + 1) ('\x7b' :: before) (some ⟨offset, before, []⟩) ?_ member
        intro brace same
        cases same
        simp [Braceless]
      · cases pending with
        | none =>
            rw [bracePairsFrom_none _ _ _ opening] at member
            exact ih _ _ none (by simp) member
        | some brace =>
            by_cases closing : character = '\x7d'
            · subst closing
              rw [bracePairsFrom_closing_some] at member
              rcases List.mem_cons.mp member with rfl | later
              · exact ⟨rfl, rfl, braceless_reverse (braceless brace rfl)⟩
              · exact ih _ _ none (by simp) later
            · rw [bracePairsFrom_some _ _ _ opening closing] at member
              refine ih _ _ _ ?_ member
              intro grown same
              cases same
              exact (braceless brace rfl).cons opening closing

/-- A variable block has no brace inside and does not belong to a script. -/
theorem of_mem_blocks {text : List Char} {region : Region} (member : region ∈ blocks text) :
    region.IsPair ∧ ∃ before, isScriptBrace before region.inner = false := by
  obtain ⟨pair, kept, rfl⟩ := List.mem_map.mp member
  obtain ⟨pairMember, noScript⟩ := List.mem_filter.mp kept
  refine ⟨isPair_of_mem_bracePairsFrom text 0 [] none (by simp) pairMember, pair.1, ?_⟩
  simpa using noScript

/-! ## A single pair -/

theorem bracePairsFrom_braceless {inner : List Char} (braceless : Braceless inner) (offset : Nat)
    (before rest : List Char) (brace : OpenBrace) :
    bracePairsFrom offset before (some brace) (inner ++ rest) =
      bracePairsFrom (offset + byteSize inner) (inner.reverse ++ before)
        (some { brace with inner := inner.reverse ++ brace.inner }) rest := by
  induction inner generalizing offset before brace with
  | nil => rfl
  | cons character tail ih =>
      obtain ⟨noOpening, noClosing⟩ := braceless character List.mem_cons_self
      have tailBraceless : Braceless tail := fun other member =>
        braceless other (List.mem_cons_of_mem _ member)
      rw [List.cons_append, bracePairsFrom_some _ _ _ noOpening noClosing, ih tailBraceless]
      simp [byteSize_cons, Nat.add_assoc]

/-- A pair of braces that nothing stands in front of is a block if it is one anywhere. -/
theorem isScriptBrace_nil {before inner : List Char}
    (noScript : isScriptBrace before inner = false) : isScriptBrace [] inner = false := by
  unfold isScriptBrace at noScript ⊢
  simp only [Bool.or_eq_false_iff] at noScript ⊢
  obtain ⟨⟨⟨⟨inside, _⟩, _⟩, _⟩, _⟩ := noScript
  exact ⟨⟨⟨⟨inside, rfl⟩, rfl⟩, rfl⟩, rfl⟩

/-- The region of a text that is one pair of braces. -/
def whole (inner : List Char) : Region :=
  { start := 0, opening := ['\x7b'], inner, closing := ['\x7d'] }

theorem raw_whole (inner : List Char) : (whole inner).raw = '\x7b' :: inner ++ ['\x7d'] := rfl

/-- A text that is one pair of braces has one block. -/
theorem blocks_whole {before inner : List Char} (braceless : Braceless inner)
    (noScript : isScriptBrace before inner = false) : blocks (whole inner).raw = [whole inner] := by
  have single : bracePairs (whole inner).raw = [([], whole inner)] := by
    rw [raw_whole, bracePairs, List.cons_append, bracePairsFrom_opening,
      bracePairsFrom_braceless braceless]
    simp [bracePairsFrom, whole]
  rw [blocks, single]
  simp [whole, isScriptBrace_nil noScript]

theorem splice_whole (inner filler : List Char) :
    splice (whole inner).raw [(whole inner, filler)] = filler := by
  have replaced := replaceRange?_append [] (whole inner).raw [] filler
  have stop_eq : (whole inner).stop = byteSize [] + byteSize (whole inner).raw := rfl
  have spliced : splice? (whole inner).raw [(whole inner, filler)] =
      replaceRange? (whole inner).start (whole inner).stop filler (whole inner).raw := rfl
  rw [List.append_nil, List.nil_append, ← stop_eq] at replaced
  change replaceRange? (whole inner).start _ _ _ = _ at replaced
  simp [splice, spliced, replaced]

end Region
end ChatMacro
