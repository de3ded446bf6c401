import ChatMacro.Engine.Basic
import ChatMacro.Proofs.Engine.Stages
import ChatMacro.Proofs.Region.Braces
import Mathlib

/-!
# Templates block by block

Without handlers of drafts and without scripts, a template is expanded as if each of its blocks were
a template of its own: the blocks are expanded one after the other on the same store, and their
outputs come out between the unchanged parts of the template.
-/

namespace ChatMacro

namespace Expansion

/-- Whether there is a block in a region. -/
def holdsBlock (region : Region) : Bool :=
  (Block.parse? (String.ofList region.inner)).isSome

/-- The regions of a template that hold a block. -/
def blockRegions (template : String) : List Region :=
  (Region.blocks template.toList).filter holdsBlock

/-- The template that is nothing but the block with the given text inside. -/
def blockTemplate (inner : List Char) : String :=
  String.ofList ('\x7b' :: inner ++ ['\x7d'])

/-- A template with other texts in place of its blocks. -/
def rejoin (template : String) (outputs : List String) : String :=
  String.ofList
    (Region.interleave (Region.gaps template.toList (blockRegions template))
      (outputs.map String.toList))

end Expansion

namespace Engine

variable {Store : Type}

/-- Parse templates one after the other on the same store, up to the first that fails. -/
def parseEach (engine : Engine) (answer : Answer Store) (chance : Script.Chance)
    (input : Option Json) : List String → Store → Except EngineError (List String) × Store
  | [], store => (.ok [], store)
  | template :: templates, store =>
      match engine.parse answer chance (some template) input store with
      | (.ok output, _, store) =>
          let (outputs, store) := engine.parseEach answer chance input templates store
          (outputs.map (output :: ·), store)
      | (.error error, _, store) => (.error error, store)

end Engine

namespace Expansion

/-! ## Regions one by one -/

section

variable {Store : Type} {stage : Stage} {options : Options} {blocks : Chain Block}
  {input : Option Json}

/-- The regions whose places are filled are those that hold a block. -/
theorem map_fst_resolveAll (answer : Answer Store) {regions : List Region} {store : Store}
    {replacements : List (Region × List Char)}
    (resolved : ((resolveAll stage options blocks input regions).run answer store).1 =
      .ok replacements) :
    replacements.map (·.1) = regions.filter holdsBlock := by
  induction regions generalizing store replacements with
  | nil =>
      cases resolved
      rfl
  | cons region regions ih =>
      cases parsed : Block.parse? (String.ofList region.inner) with
      | none =>
          rw [resolveAll_of_none parsed] at resolved
          rw [List.filter_cons_of_neg (by simp [holdsBlock, parsed])]
          exact ih resolved
      | some block =>
          rw [run_resolveAll_of_some parsed] at resolved
          rw [List.filter_cons_of_pos (by simp [holdsBlock, parsed])]
          split at resolved
          · next output middle _ =>
            cases later : (resolveAll stage options blocks input regions).run answer middle with
            | mk tail after =>
                rw [later] at resolved
                cases tail with
                | error error => cases resolved
                | ok tail =>
                    cases resolved
                    rw [List.map_cons, ih (congrArg Prod.fst later)]
          · cases resolved

end

end Expansion

namespace Engine

/-- An engine that changes no draft and runs no script. -/
structure BlocksOnly (engine : Engine) : Prop where
  /-- No handler sees the draft. -/
  noDrafts : engine.pipeline.drafts = []
  /-- Early scripts stay as they are. -/
  noEarly : engine.options.early = false
  /-- Late scripts stay as they are. -/
  noLate : engine.options.late = false

section

variable {Store : Type} {engine : Engine} (blocksOnly : engine.BlocksOnly)
  (answer : Answer Store) (chance : Script.Chance) (input : Option Json)

include blocksOnly

/-- Such an engine resolves the blocks of a template and splices their outputs into it. -/
theorem parse_eq {template : String} (notBroken : template ≠ brokenDraft) (store : Store) :
    engine.parse answer chance (some template) input store =
      let (replacements, after) := (Expansion.resolveAll .blockScanning engine.options
        engine.pipeline.blocks input (Region.blocks template.toList)).run answer store
      (replacements.map fun replacements =>
        String.ofList (Region.splice template.toList replacements), engine, after) := by
  have draft : (engine.pipeline.drafts.dispatch input template).subject = template := by
    rw [blocksOnly.noDrafts]
    rfl
  simp only [parse, expand, plan, Expansion.run_expand, draft, notBroken, if_false,
    Expansion.scriptedText, Expansion.finishedText, blocksOnly.noEarly, blocksOnly.noLate,
    Bool.false_eq_true]
  rcases (Expansion.resolveAll .blockScanning engine.options engine.pipeline.blocks input
    (Region.blocks template.toList)).run answer store with ⟨_ | replacements, after⟩ <;> rfl

/-- The template of one block puts out what this block puts out. -/
theorem parse_blockTemplate {before inner : List Char} (braceless : Region.Braceless inner)
    (noScript : Region.isScriptBrace before inner = false) {block : Block}
    (parsed : Block.parse? (String.ofList inner) = some block) (store : Store) :
    engine.parse answer chance (some (Expansion.blockTemplate inner)) input store =
      let (resolved, after) := ((engine.pipeline.blocks.dispatch input block).subject.resolve
        engine.options.root).run answer store
      ((resolved.map fun block => String.ofList (Expansion.outputText block)).mapError
        (.store .blockScanning), engine, after) := by
  have notBroken : Expansion.blockTemplate inner ≠ brokenDraft := by
    intro broken
    have characters := congrArg String.toList broken
    rw [Expansion.blockTemplate, String.toList_ofList] at characters
    exact absurd (List.cons.inj characters).1 (by decide)
  have text_eq : (Expansion.blockTemplate inner).toList = (Region.whole inner).raw :=
    String.toList_ofList
  have parsedWhole : Block.parse? (String.ofList (Region.whole inner).inner) = some block := parsed
  rw [parse_eq blocksOnly answer chance input notBroken, text_eq,
    Region.blocks_whole braceless noScript, Expansion.run_resolveAll_of_some parsedWhole]
  cases ((engine.pipeline.blocks.dispatch input block).subject.resolve
      engine.options.root).run answer store with
  | mk resolved after =>
      cases resolved with
      | error error => rfl
      | ok resolved =>
          have spliced := Region.splice_whole inner (Expansion.outputText resolved)
          simp only [Expansion.resolveAll, Plan.run, Except.map, Except.mapError, spliced]

/-- The templates of the blocks in some regions put out what goes into the places of these
regions. -/
theorem parseEach_blockTemplates {regions : List Region}
    (apart : ∀ region ∈ regions, region.IsPair ∧
      ∃ before, Region.isScriptBrace before region.inner = false) (store : Store) :
    engine.parseEach answer chance input
        ((regions.filter Expansion.holdsBlock).map fun region =>
          Expansion.blockTemplate region.inner) store =
      let (replacements, after) := (Expansion.resolveAll .blockScanning engine.options
        engine.pipeline.blocks input regions).run answer store
      (replacements.map fun replacements =>
        replacements.map fun replacement => String.ofList replacement.2, after) := by
  induction regions generalizing store with
  | nil => rfl
  | cons region regions ih =>
      have later := ih fun other member => apart other (List.mem_cons_of_mem _ member)
      obtain ⟨⟨_, _, braceless⟩, before, noScript⟩ := apart region List.mem_cons_self
      cases parsed : Block.parse? (String.ofList region.inner) with
      | none =>
          rw [Expansion.resolveAll_of_none parsed,
            List.filter_cons_of_neg (by simp [Expansion.holdsBlock, parsed])]
          exact later store
      | some block =>
          rw [Expansion.run_resolveAll_of_some parsed,
            List.filter_cons_of_pos (by simp [Expansion.holdsBlock, parsed]), List.map_cons,
            parseEach, parse_blockTemplate blocksOnly answer chance input braceless noScript parsed]
          cases ((engine.pipeline.blocks.dispatch input block).subject.resolve
              engine.options.root).run answer store with
          | mk resolved middle =>
              cases resolved with
              | error error => rfl
              | ok resolved =>
                  simp only [Except.map, Except.mapError, later middle]
                  cases (Expansion.resolveAll .blockScanning engine.options
                      engine.pipeline.blocks input regions).run answer middle with
                  | mk replacements after => cases replacements <;> rfl

theorem parse_eq_parseEach {template : String} (notBroken : template ≠ brokenDraft)
    (store : Store) :
    engine.parse answer chance (some template) input store =
      let (outputs, after) := engine.parseEach answer chance input
        ((Expansion.blockRegions template).map fun region =>
          Expansion.blockTemplate region.inner) store
      (outputs.map (Expansion.rejoin template), engine, after) := by
  have apart : ∀ region ∈ Region.blocks template.toList, region.IsPair ∧
      ∃ before, Region.isScriptBrace before region.inner = false :=
    fun _ member => Region.of_mem_blocks member
  have each := parseEach_blockTemplates blocksOnly answer chance input apart store
  rw [parse_eq blocksOnly answer chance input notBroken, Expansion.blockRegions, each]
  cases run : (Expansion.resolveAll .blockScanning engine.options
      engine.pipeline.blocks input (Region.blocks template.toList)).run answer store with
  | mk replacements after =>
      cases replacements with
      | error error => rfl
      | ok replacements =>
          have places := Expansion.map_fst_resolveAll answer (congrArg Prod.fst run)
          have layout : Region.Layout 0 (replacements.map (·.1)) template.toList := by
            rw [places]
            exact (Region.layout_blocks template.toList).sublist List.filter_sublist
          have spliced := Region.splice_eq_interleave layout
          rw [places] at spliced
          simp only [Except.map, Expansion.rejoin, Expansion.blockRegions, spliced, List.map_map]
          have texts : (String.toList ∘ fun replacement : Region × List Char =>
              String.ofList replacement.2) = (·.2) := by
            funext replacement
            exact String.toList_ofList
          rw [texts]

end

/-- Blocks do not influence each other but through the store.  A template without early and late
scripts has the output, the calls and the final store of its blocks parsed as templates of their
own, one after the other up to the first that fails; the text between them is unchanged, and outputs
are not looked through for blocks. -/
theorem parse_block_by_block {Store : Type} {engine : Engine} (blocksOnly : engine.BlocksOnly)
    (answer : Answer Store) (chance : Script.Chance) (input : Option Json) {template : String}
    (notBroken : template ≠ brokenDraft) (state : Logged Store) :
    engine.parse answer.logged chance (some template) input state =
      let (outputs, after) := engine.parseEach answer.logged chance input
        ((Expansion.blockRegions template).map fun region =>
          Expansion.blockTemplate region.inner) state
      (outputs.map (Expansion.rejoin template), engine, after) :=
  parse_eq_parseEach blocksOnly answer.logged chance input notBroken state

/-- An engine without scripts. -/
def scriptless : Engine :=
  { template := none, options := { early := false, late := false } }

theorem parse_block_by_block_counting :
    (scriptless.parse (Store.answer true).logged (fun _ _ => 0) (some "a {n=5} { } b {n++} c") none
      ⟨.memory .empty, []⟩).1.toOption = some "a 5 { } b 6 c" := by
  have blocksOnly : scriptless.BlocksOnly := ⟨rfl, rfl, rfl⟩
  have notBroken : "a {n=5} { } b {n++} c" ≠ brokenDraft := by decide
  rw [parse_block_by_block blocksOnly (Store.answer true) _ none notBroken]
  decide +kernel

end Engine
end ChatMacro
