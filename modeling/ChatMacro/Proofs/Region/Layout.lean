import ChatMacro.Region

/-!
# Layouts of regions

Regions that were found in a text lie in it one after the other.  What is outside of them stays as
it is when other texts are put into their places, and comes out between these texts.
-/

namespace ChatMacro
namespace Region

open Text

/-! ## Places -/

theorem byteSize_cons (character : Char) (tail : List Char) :
    byteSize (character :: tail) = character.utf8Size + byteSize tail := rfl

theorem byteSize_append (front back : List Char) :
    byteSize (front ++ back) = byteSize front + byteSize back := by
  induction front with
  | nil => simp [byteSize]
  | cons character tail ih => rw [List.cons_append, byteSize_cons, byteSize_cons, ih, Nat.add_assoc]

/-- The size of a text is the place at which it ends. -/
theorem splitAt?_append (front rest : List Char) :
    splitAt? (byteSize front) (front ++ rest) = some (front, rest) := by
  induction front with
  | nil => simp [byteSize, splitAt?]
  | cons character tail ih =>
      have positive := character.utf8Size_pos
      obtain ⟨place, place_eq⟩ : ∃ place, byteSize (character :: tail) = place + 1 :=
        ⟨byteSize (character :: tail) - 1, by rw [byteSize_cons]; omega⟩
      have fits : character.utf8Size ≤ place + 1 := by
        rw [← place_eq, byteSize_cons]
        omega
      have remaining : place + 1 - character.utf8Size = byteSize tail := by
        rw [← place_eq, byteSize_cons]
        omega
      rw [place_eq, List.cons_append, splitAt?, if_pos fits, remaining, ih]
      rfl

/-- A place splits a text in one way only. -/
theorem append_inj_of_byteSize {front rest other behind : List Char}
    (same : front ++ rest = other ++ behind) (place : byteSize front = byteSize other) :
    front = other ∧ rest = behind := by
  have split := splitAt?_append front rest
  rw [same, place, splitAt?_append] at split
  cases split
  exact ⟨rfl, rfl⟩

theorem replaceRange?_append (front old back replacement : List Char) :
    replaceRange? (byteSize front) (byteSize front + byteSize old) replacement
        (front ++ (old ++ back)) =
      some (front ++ replacement ++ back) := by
  have inOrder : ¬ byteSize front + byteSize old < byteSize front := by omega
  have width : byteSize front + byteSize old - byteSize front = byteSize old := by omega
  simp [replaceRange?, splitAt?_append, inOrder, width]

/-! ## Layouts -/

/-- Regions lie one after the other in a text that starts at the place `offset`. -/
inductive Layout : Nat → List Region → List Char → Prop where
  /-- No region is left. -/
  | nil (offset : Nat) (text : List Char) : Layout offset [] text
  /-- The first region follows a gap. -/
  | cons {offset : Nat} {region : Region} {regions : List Region} (gap : List Char)
      {rest : List Char} (start_eq : region.start = offset + byteSize gap)
      (later : Layout region.stop regions rest) :
      Layout offset (region :: regions) (gap ++ (region.raw ++ rest))

/-- A text in front becomes part of the first gap. -/
theorem Layout.prepend {offset : Nat} {regions : List Region} {text : List Char}
    (front : List Char) (layout : Layout (offset + byteSize front) regions text) :
    Layout offset regions (front ++ text) := by
  cases layout with
  | nil => exact .nil offset _
  | cons gap start_eq later =>
      rw [← List.append_assoc]
      refine .cons (front ++ gap) ?_ later
      rw [start_eq, byteSize_append, Nat.add_assoc]

/-- Some of the regions lie in the text as well. -/
theorem Layout.sublist {offset : Nat} {regions chosen : List Region} {text : List Char}
    (layout : Layout offset regions text) (sublist : chosen.Sublist regions) :
    Layout offset chosen text := by
  induction layout generalizing chosen with
  | nil =>
      rw [List.sublist_nil.mp sublist]
      exact .nil _ _
  | cons gap start_eq later ih =>
      rename_i offset region regions rest
      cases sublist with
      | cons _ kept =>
          have skipped := ih kept
          have place : region.stop = offset + byteSize (gap ++ region.raw) := by
            rw [stop, start_eq, byteSize_append, Nat.add_assoc]
          rw [place] at skipped
          rw [← List.append_assoc]
          exact skipped.prepend (gap ++ region.raw)
      | cons_cons _ kept => exact .cons gap start_eq (ih kept)

theorem Layout.start_le {offset : Nat} {regions : List Region} {text : List Char}
    (layout : Layout offset regions text) : ∀ region ∈ regions, offset ≤ region.start := by
  induction layout with
  | nil => simp
  | cons gap start_eq _ ih =>
      rename_i offset region regions rest _
      have first : offset ≤ region.start := by omega
      refine List.forall_mem_cons.mpr ⟨first, ?_⟩
      intro later member
      have behind := ih later member
      have size : region.stop = region.start + byteSize region.raw := rfl
      omega

/-- The regions stand in the order of their places, and no two of them overlap. -/
theorem Layout.pairwise {offset : Nat} {regions : List Region} {text : List Char}
    (layout : Layout offset regions text) :
    regions.Pairwise fun left right => left.stop ≤ right.start := by
  induction layout with
  | nil => exact List.Pairwise.nil
  | cons _ _ later ih => exact List.pairwise_cons.mpr ⟨later.start_le, ih⟩

/-! ## Gaps -/

/-- The part of a text from one place on, up to another. -/
def slice (start stop : Nat) (text : List Char) : List Char :=
  match splitAt? start text with
  | none => []
  | some (_, rest) =>
      match splitAt? (stop - start) rest with
      | none => rest
      | some (front, _) => front

/-- The parts of a text outside of regions: before the first one, between two of them, and after
the last one.  The parts before the place `offset` are left out. -/
def gapsFrom (text : List Char) (offset : Nat) : List Region → List (List Char)
  | [] => [slice offset (byteSize text) text]
  | region :: regions => slice offset region.start text :: gapsFrom text region.stop regions

/-- The parts of a text outside of regions. -/
def gaps (text : List Char) (regions : List Region) : List (List Char) :=
  gapsFrom text 0 regions

/-- Texts with fillers between them. -/
def interleave : List (List Char) → List (List Char) → List Char
  | gap :: gaps, filler :: fillers => gap ++ filler ++ interleave gaps fillers
  | gaps, _ => gaps.flatten

theorem slice_append (front middle back : List Char) :
    slice (byteSize front) (byteSize front + byteSize middle) (front ++ (middle ++ back)) =
      middle := by
  have width : byteSize front + byteSize middle - byteSize front = byteSize middle := by omega
  simp only [slice, splitAt?_append, width]

/-- Splicing fills the places of the regions and keeps the gaps. -/
theorem splice?_eq_interleave {offset : Nat} {replacements : List (Region × List Char)}
    {text : List Char} (layout : Layout offset (replacements.map (·.1)) text) (front : List Char)
    (size : byteSize front = offset) :
    splice? (front ++ text) replacements =
      some (front ++ interleave (gapsFrom (front ++ text) offset (replacements.map (·.1)))
        (replacements.map (·.2))) := by
  induction replacements generalizing offset text front with
  | nil =>
      have whole := slice_append front text []
      rw [List.append_nil, ← byteSize_append, size] at whole
      simp [splice?, interleave, gapsFrom, whole]
  | cons replacement replacements ih =>
      obtain ⟨region, filler⟩ := replacement
      cases layout with
      | cons gap start_eq later =>
          rename_i rest
          have text_eq : front ++ (gap ++ (region.raw ++ rest)) =
              front ++ gap ++ region.raw ++ rest := by
            simp only [List.append_assoc]
          have start_size : byteSize (front ++ gap) = region.start := by
            rw [byteSize_append, size, start_eq]
          have stop_eq : region.start + byteSize region.raw = region.stop := rfl
          have stop_size : byteSize (front ++ gap ++ region.raw) = region.stop := by
            rw [byteSize_append, start_size, stop_eq]
          have gap_eq :
              slice offset region.start (front ++ (gap ++ (region.raw ++ rest))) = gap := by
            have middle := slice_append front gap (region.raw ++ rest)
            rwa [← byteSize_append, start_size, size] at middle
          have spliced := ih later (front ++ gap ++ region.raw) stop_size
          rw [← text_eq] at spliced
          have replaced := replaceRange?_append (front ++ gap) region.raw
            (interleave (gapsFrom (front ++ (gap ++ (region.raw ++ rest))) region.stop
              (replacements.map (·.1))) (replacements.map (·.2))) filler
          rw [start_size, stop_eq, ← List.append_assoc] at replaced
          change (splice? (front ++ (gap ++ (region.raw ++ rest))) replacements).bind
            (replaceRange? region.start region.stop filler) = _
          rw [spliced, Option.bind_some, replaced]
          simp only [List.map_cons, gapsFrom, interleave, gap_eq, List.append_assoc]

/-- Splicing finds all places, and the texts put there stand between the gaps. -/
theorem splice?_eq_some {replacements : List (Region × List Char)} {text : List Char}
    (layout : Layout 0 (replacements.map (·.1)) text) :
    splice? text replacements =
      some (interleave (gaps text (replacements.map (·.1))) (replacements.map (·.2))) := by
  have spliced := splice?_eq_interleave layout [] rfl
  rwa [List.nil_append, List.nil_append] at spliced

theorem splice_eq_interleave {replacements : List (Region × List Char)} {text : List Char}
    (layout : Layout 0 (replacements.map (·.1)) text) :
    splice text replacements =
      interleave (gaps text (replacements.map (·.1))) (replacements.map (·.2)) := by
  rw [splice, splice?_eq_some layout, Option.getD_some]

end Region
end ChatMacro
