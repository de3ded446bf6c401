import ChatMacro.Proofs.Region.Braces
import ChatMacro.Proofs.Region.Scripts
import ChatMacro.Script.Expansion

/-!
# Splicing

The regions of one kind lie in a text one after the other, and so do some of them.  So texts that
are put into their places, the last one first, come out between the parts of the text outside of
these places.  A region that gets its own text back may as well be left out, and this is how early
scripts that fail stay as they are written.
-/

namespace ChatMacro
namespace Region

open Text

theorem layout_earlyScripts (text : List Char) : Layout 0 (earlyScripts text) text :=
  (scan_delimited (by simp) finds_earlyClosing? (Nat.le_refl _)).elim fun _ scan => scan.layout

theorem layout_lateScripts (text : List Char) : Layout 0 (lateScripts text) text :=
  (scan_delimited (by simp) finds_lateClosing? (Nat.le_refl _)).elim fun _ scan => scan.layout

/-- Some of the regions of one kind, in their order. -/
def Selected (text : List Char) (regions : List Region) : Prop :=
  regions.Sublist (blocks text) ∨ regions.Sublist (earlyScripts text) ∨
    regions.Sublist (lateScripts text)

theorem Selected.layout {text : List Char} {regions : List Region}
    (selected : Selected text regions) : Layout 0 regions text := by
  rcases selected with someBlocks | someEarly | someLate
  · exact (layout_blocks text).sublist someBlocks
  · exact (layout_earlyScripts text).sublist someEarly
  · exact (layout_lateScripts text).sublist someLate

/-! ## Regions that keep their text -/

/-- Put the text that stands in for a missing one into the place of each region without a text. -/
def completed (missing : Region → List Char) (fillers : List (Region × Option (List Char))) :
    List (Region × List Char) :=
  fillers.map fun (region, filler) => (region, filler.getD (missing region))

/-- Leave the regions without a text out. -/
def given (fillers : List (Region × Option (List Char))) : List (Region × List Char) :=
  fillers.filterMap fun (region, filler) => filler.map (region, ·)

theorem map_fst_completed (missing : Region → List Char)
    (fillers : List (Region × Option (List Char))) :
    (completed missing fillers).map (·.1) = fillers.map (·.1) := by
  simp [completed]

theorem sublist_given (fillers : List (Region × Option (List Char))) :
    ((given fillers).map (·.1)).Sublist (fillers.map (·.1)) := by
  induction fillers with
  | nil => exact List.Sublist.slnil
  | cons place fillers ih =>
      obtain ⟨region, _ | filler⟩ := place
      · exact ih.cons region
      · exact ih.cons_cons region

section

variable {text : List Char}

/-- The first region is filled last. -/
theorem splice?_cons (region : Region) (filler : List Char)
    (replacements : List (Region × List Char)) :
    splice? text ((region, filler) :: replacements) =
      (splice? text replacements).bind (replaceRange? region.start region.stop filler) := rfl

/-- A region is still in its place when the regions behind it have been filled, so it makes no
difference whether its own text is put there. -/
theorem splice?_own {region : Region} {replacements : List (Region × List Char)}
    (layout : Layout 0 (region :: replacements.map (·.1)) text) :
    splice? text ((region, region.raw) :: replacements) = splice? text replacements := by
  cases layout with
  | cons gap start_eq later =>
      rename_i rest
      rw [Nat.zero_add] at start_eq
      have stop_eq : region.stop = byteSize gap + byteSize region.raw := by rw [stop, start_eq]
      have size : byteSize (gap ++ region.raw) = region.stop := by rw [byteSize_append, stop_eq]
      have behind := splice?_eq_interleave later (gap ++ region.raw) size
      rw [List.append_assoc, List.append_assoc] at behind
      rw [splice?_cons, behind, Option.bind_some, start_eq, stop_eq, replaceRange?_append,
        List.append_assoc]

/-- Regions that get their own text back may be left out. -/
theorem splice?_completed_raw {fillers : List (Region × Option (List Char))}
    (layout : Layout 0 (fillers.map (·.1)) text) :
    splice? text (completed raw fillers) = splice? text (given fillers) := by
  induction fillers with
  | nil => rfl
  | cons place fillers ih =>
      obtain ⟨region, filler⟩ := place
      have later := ih (layout.sublist (List.sublist_cons_self _ _))
      cases filler with
      | none =>
          have own : Layout 0 (region :: (completed raw fillers).map (·.1)) text := by
            rw [map_fst_completed]
            exact layout
          exact (splice?_own own).trans later
      | some filler =>
          change splice? text ((region, filler) :: completed raw fillers) =
            splice? text ((region, filler) :: given fillers)
          rw [splice?_cons, splice?_cons, later]

theorem splice_completed {fillers : List (Region × Option (List Char))}
    (layout : Layout 0 (fillers.map (·.1)) text) (missing : Region → List Char) :
    splice text (completed missing fillers) =
      interleave (gaps text (fillers.map (·.1)))
        (fillers.map fun (region, filler) => filler.getD (missing region)) := by
  have texts_eq : (completed missing fillers).map (·.2) =
      fillers.map fun (region, filler) => filler.getD (missing region) := by
    simp [completed]
  rw [← map_fst_completed missing] at layout
  have spliced := splice_eq_interleave layout
  rwa [map_fst_completed, texts_eq] at spliced

theorem splice_completed_raw {fillers : List (Region × Option (List Char))}
    (layout : Layout 0 (fillers.map (·.1)) text) :
    splice text (completed raw fillers) =
      interleave (gaps text ((given fillers).map (·.1))) ((given fillers).map (·.2)) := by
  rw [splice, splice?_completed_raw layout,
    splice?_eq_some (layout.sublist (sublist_given fillers)), Option.getD_some]

/-- A text is made of its regions and of the gaps between them. -/
theorem interleave_raw {regions : List Region} (layout : Layout 0 regions text) :
    text = interleave (gaps text regions) (regions.map raw) := by
  let fillers : List (Region × Option (List Char)) := regions.map fun region => (region, none)
  have regions_eq : fillers.map (·.1) = regions := by
    simp [fillers, Function.comp_def]
  have own_eq : (completed raw fillers).map (·.2) = regions.map raw := by
    simp [fillers, completed, Function.comp_def]
  have given_eq : given fillers = [] := by
    simp [fillers, given]
  rw [← regions_eq] at layout
  have kept := splice?_completed_raw layout
  rw [← map_fst_completed raw] at layout
  have spliced := splice?_eq_some layout
  rw [kept, given_eq, map_fst_completed, regions_eq, own_eq] at spliced
  exact Option.some.inj spliced

end

end Region

/-! ## Scripts that fail -/

namespace Script

/-- What a script puts out, unless it fails. -/
def output? (outcomes : Outcomes) (script : Region) : Option (List Char) :=
  (evaluate outcomes (String.ofList script.inner)).toOption.map fun value => value.output.toList

/-- What the scripts of a text put out, each under its own outcomes of chance. -/
def outputs (chance : Chance) (scripts : List Region) : List (Region × Option (List Char)) :=
  scripts.mapIdx fun index script => (script, output? (chance index) script)

theorem outputOr_eq (failure : List Char) (outcomes : Outcomes) (script : Region) :
    outputOr failure outcomes script = (output? outcomes script).getD failure := by
  rw [outputOr, output?]
  cases evaluate outcomes (String.ofList script.inner) <;> rfl

variable (chance : Chance) (text : List Char)

theorem map_fst_outputs (scripts : List Region) : (outputs chance scripts).map (·.1) = scripts := by
  simp [outputs, List.mapIdx_eq_zipIdx_map, Function.comp_def]

theorem expandEarly_eq :
    expandEarly chance text = Region.splice text
      (Region.completed Region.raw (outputs chance (Region.earlyScripts text))) := by
  simp [expandEarly, Region.completed, outputs, List.mapIdx_eq_zipIdx_map, Function.comp_def,
    outputOr_eq]

theorem expandLate_eq :
    expandLate chance text = Region.splice text
      (Region.completed (fun _ => []) (outputs chance (Region.lateScripts text))) := by
  simp [expandLate, Region.completed, outputs, List.mapIdx_eq_zipIdx_map, Function.comp_def,
    outputOr_eq]

end Script

namespace Region

/-- Texts that are put into the places of variable blocks, of early scripts or of late scripts, or
of some of them, come out one after the other between the parts of the text outside of these places,
and no place is missed.  So the early scripts change nothing outside of those that succeed; one that
fails stays as it is written, and a late one that fails leaves nothing. -/
theorem splice_between_gaps (text : List Char) :
    (∀ replacements : List (Region × List Char), Selected text (replacements.map (·.1)) →
      text = interleave (gaps text (replacements.map (·.1))) (replacements.map (·.1.raw)) ∧
        splice? text replacements =
          some (interleave (gaps text (replacements.map (·.1))) (replacements.map (·.2)))) ∧
      ∀ chance : Script.Chance,
        let early := Script.outputs chance (earlyScripts text)
        let late := Script.outputs chance (lateScripts text)
        Script.expandEarly chance text =
            interleave (gaps text (earlyScripts text))
              (early.map fun (script, output) => output.getD script.raw) ∧
          Script.expandEarly chance text =
            interleave (gaps text ((given early).map (·.1))) ((given early).map (·.2)) ∧
          Script.expandLate chance text =
            interleave (gaps text (lateScripts text))
              (late.map fun (_, output) => output.getD []) := by
  refine ⟨fun replacements selected => ?_, fun chance => ?_⟩
  · have layout := selected.layout
    have whole := interleave_raw layout
    rw [List.map_map] at whole
    exact ⟨whole, splice?_eq_some layout⟩
  · have earlyLayout := layout_earlyScripts text
    have lateLayout := layout_lateScripts text
    rw [← Script.map_fst_outputs chance (earlyScripts text)] at earlyLayout
    rw [← Script.map_fst_outputs chance (lateScripts text)] at lateLayout
    have early := splice_completed earlyLayout raw
    have late := splice_completed lateLayout fun _ => []
    rw [← Script.expandEarly_eq, Script.map_fst_outputs] at early
    rw [← Script.expandLate_eq, Script.map_fst_outputs] at late
    refine ⟨early, ?_, late⟩
    rw [Script.expandEarly_eq]
    exact splice_completed_raw earlyLayout

/-- Two of three blocks, behind and in front of characters of several bytes. -/
theorem splice_between_gaps_umlauts :
    Selected "ä{a}ö{b}^(1)^{c}".toList
        [⟨2, ['\x7b'], ['a'], ['\x7d']⟩, ⟨15, ['\x7b'], ['c'], ['\x7d']⟩] ∧
      splice? "ä{a}ö{b}^(1)^{c}".toList
          [(⟨2, ['\x7b'], ['a'], ['\x7d']⟩, "€€€".toList),
            (⟨15, ['\x7b'], ['c'], ['\x7d']⟩, [])] =
        some "ä€€€ö{b}^(1)^".toList := by
  have selected : Selected "ä{a}ö{b}^(1)^{c}".toList
      [⟨2, ['\x7b'], ['a'], ['\x7d']⟩, ⟨15, ['\x7b'], ['c'], ['\x7d']⟩] := .inl (by decide)
  refine ⟨selected, ?_⟩
  rw [((splice_between_gaps _).1 _ selected).2]
  decide

end Region
end ChatMacro
