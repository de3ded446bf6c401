import ChatMacro.Engine.Expansion
import ChatMacro.Proofs.Resolution.Visits

/-!
# What the stages of an expansion do

The scripts of a template run without the store, which is used in one stage only: the blocks are
resolved in it, from left to right.  So every error of the store comes in this stage.  What is noted
meanwhile comes from the parts of the program that expand templates.
-/

namespace ChatMacro

/-- The parts of the program that expand templates. -/
def Origin.expands : Origin → Bool
  | engine | chain | scripts | resolution => true
  | program | store | shelf => false

/-- A note comes from a part of the program that expands templates. -/
def Note.IsOfExpansion (note : Note) : Prop :=
  note.origin.expands = true

theorem Chain.isOfExpansion_of_mem_notes {Subject : Type} {chain : Chain Subject}
    {input : Option Json} {subject : Subject} :
    ∀ note ∈ (chain.dispatch input subject).notes, note.IsOfExpansion := by
  induction chain generalizing subject with
  | nil => exact nofun
  | cons handler chain ih =>
      simp only [dispatch]
      split
      · rintro _ (_ | ⟨_, ⟨⟩⟩)
        rfl
      · exact ih
      · exact List.forall_mem_cons.mpr ⟨rfl, ih⟩

theorem Script.isOfExpansion_of_mem_failureNotes {phase : Phase} {chance : Chance}
    {scripts : List Region} : ∀ note ∈ failureNotes phase chance scripts, note.IsOfExpansion := by
  intro note member
  obtain ⟨_, listed, rfl⟩ := List.mem_filterMap.mp member
  obtain ⟨index, inside, made⟩ := List.mem_mapIdx.mp listed
  simp only [failureNote?] at made
  split at made
  · cases made
  · cases made
    rfl

namespace Block

/-- Applying a block passes errors of the store on and notes nothing. -/
theorem keepsTo_apply (root : String) (block : Block) :
    (block.apply root).KeepsTo id Note.IsOfExpansion := by
  cases deletion : block.isDeletion with
  | true =>
      simp only [apply, deletion, if_true]
      exact ⟨rfl, fun _ => trivial⟩
  | false =>
      simp only [apply, deletion, Bool.false_eq_true, if_false]
      refine ⟨rfl, fun stored? => ?_⟩
      dsimp only
      cases block.valueOn stored? with
      | error error => trivial
      | ok value =>
          by_cases reference : block.operator = .reference
          · simp only [reference, if_true]
            trivial
          · simp only [reference, if_false]
            exact ⟨rfl, fun _ => trivial⟩

theorem keepsTo_resolve (root : String) (block : Block) :
    (block.resolve root).KeepsTo id Note.IsOfExpansion :=
  (block.keepsTo_apply root).andThen fun outcome => by
    cases outcome with
    | ok value => exact ⟨rfl, trivial⟩
    | error error => exact ⟨rfl, rfl, trivial⟩

end Block

namespace Expansion

variable {State : Type} (answer : Answer State) (options : Options) (chance : Script.Chance)

/-! ## Blocks -/

section

variable {answer options} {stage : Stage} {blocks : Chain Block} {input : Option Json}
  {region : Region} {regions : List Region}

theorem resolveAll_of_none (noBlock : Block.parse? (String.ofList region.inner) = none) :
    resolveAll stage options blocks input (region :: regions) =
      resolveAll stage options blocks input regions := by
  simp only [resolveAll, noBlock]

variable {block : Block} (parsed : Block.parse? (String.ofList region.inner) = some block)

include parsed

theorem run_resolveAll_of_some (store : State) :
    (resolveAll stage options blocks input (region :: regions)).run answer store =
      match ((blocks.dispatch input block).subject.resolve options.root).run answer store with
      | (.ok block, middle) =>
          let (replacements, after) :=
            (resolveAll stage options blocks input regions).run answer middle
          (replacements.map ((region, outputText block) :: ·), after)
      | (.error cause, middle) => (.error (.store stage cause), middle) := by
  simp only [resolveAll, parsed, Plan.bind_eq_andThen, Plan.pure_eq_done, Plan.run_andThen,
    Plan.run_noteAll, Plan.run_mapError]
  rcases ((blocks.dispatch input block).subject.resolve options.root).run answer store with
    ⟨_ | resolved, middle⟩
  · rfl
  · dsimp only [Except.mapError]
    rcases (resolveAll stage options blocks input regions).run answer middle with
      ⟨_ | replacements, after⟩ <;> rfl

theorem calls_resolveAll_of_some (store : State) :
    (resolveAll stage options blocks input (region :: regions)).calls answer store =
      ((blocks.dispatch input block).subject.resolve options.root).calls answer store ++
        match ((blocks.dispatch input block).subject.resolve options.root).run answer store with
        | (.ok _, middle) => (resolveAll stage options blocks input regions).calls answer middle
        | (.error _, _) => [] := by
  simp only [resolveAll, parsed, Plan.bind_eq_andThen, Plan.pure_eq_done, Plan.calls_andThen,
    Plan.calls_noteAll, Plan.run_noteAll, Plan.calls_mapError, Plan.run_mapError, List.nil_append]
  rcases ((blocks.dispatch input block).subject.resolve options.root).run answer store with
    ⟨_ | resolved, middle⟩
  · rfl
  · dsimp only [Except.mapError]
    rcases (resolveAll stage options blocks input regions).run answer middle with
      ⟨_ | replacements, after⟩ <;> simp [Plan.calls]

end

theorem keepsTo_resolveAll (stage : Stage) (blocks : Chain Block) (input : Option Json)
    (regions : List Region) :
    (resolveAll stage options blocks input regions).KeepsTo (.store stage) Note.IsOfExpansion := by
  induction regions with
  | nil => trivial
  | cons region regions ih =>
      cases parsed : Block.parse? (String.ofList region.inner) with
      | none => rwa [resolveAll_of_none parsed]
      | some block =>
          simp only [resolveAll, parsed, Plan.bind_eq_andThen, Plan.pure_eq_done]
          refine (Plan.keepsTo_noteAll Chain.isOfExpansion_of_mem_notes).andThen fun _ => ?_
          refine ((Block.keepsTo_resolve options.root _).mapError _).andThen fun resolved => ?_
          exact ih.andThen fun _ => trivial

/-- Blocks are resolved in a stage of their own, whatever the stage before. -/
theorem keepsTo_expandBlocks (stage : Stage) (blocks : Chain Block) (input : Option Json)
    (text : List Char) :
    (expandBlocks stage options blocks input text).KeepsTo (.store .blockScanning)
      Note.IsOfExpansion :=
  ⟨rfl, (keepsTo_resolveAll options .blockScanning blocks input (Region.blocks text)).andThen
    fun _ => ⟨rfl, trivial⟩⟩

/-! ## Scripts -/

/-- The text of a draft in which the blocks are looked for. -/
def scriptedText (draft : String) : List Char :=
  if options.early then Script.expandEarly (earlyChance chance) draft.toList else draft.toList

/-- The output that comes of a text whose blocks have been replaced. -/
def finishedText (text : List Char) : String :=
  String.ofList (if options.late then Script.expandLate (lateChance chance) text else text)

section

variable (stage : Stage) (draft : String) (text : List Char) (store : State)

theorem run_expandEarly :
    (expandEarly stage options chance draft.toList).run answer store =
      (.ok (if options.early then .earlyScripts else stage, scriptedText options chance draft),
        store) := by
  cases early : options.early <;>
    simp [expandEarly, scriptedText, early, Stage.enter, Plan.run, Plan.run_andThen,
      Plan.run_noteAll]

theorem run_expandLate :
    (expandLate stage options chance text).run answer store =
      (.ok (if options.late then .lateScripts else stage,
        (finishedText options chance text).toList), store) := by
  cases late : options.late <;>
    simp [expandLate, finishedText, late, Stage.enter, Plan.run, Plan.run_andThen,
      Plan.run_noteAll]

theorem calls_expandEarly : (expandEarly stage options chance text).calls answer store = [] := by
  cases early : options.early <;>
    simp [expandEarly, early, Stage.enter, Plan.run, Plan.calls, Plan.calls_andThen,
      Plan.run_noteAll, Plan.calls_noteAll]

theorem calls_expandLate : (expandLate stage options chance text).calls answer store = [] := by
  cases late : options.late <;>
    simp [expandLate, late, Stage.enter, Plan.run, Plan.calls, Plan.calls_andThen,
      Plan.run_noteAll, Plan.calls_noteAll]

section

variable {raise : StoreError → EngineError}

theorem keepsTo_expandEarly :
    (expandEarly stage options chance text).KeepsTo raise Note.IsOfExpansion := by
  rw [expandEarly]
  split
  · refine ⟨rfl, ?_⟩
    exact (Plan.keepsTo_noteAll Script.isOfExpansion_of_mem_failureNotes).andThen fun _ => trivial
  · trivial

theorem keepsTo_expandLate :
    (expandLate stage options chance text).KeepsTo raise Note.IsOfExpansion := by
  rw [expandLate]
  split
  · refine ⟨rfl, ?_⟩
    exact (Plan.keepsTo_noteAll Script.isOfExpansion_of_mem_failureNotes).andThen fun _ => trivial
  · trivial

end

end

/-! ## All stages -/

section

variable (pipeline : Pipeline) (input : Option Json) (template : String) (store : State)

/-- The store is used to resolve the blocks of the scripted draft, unless the draft is broken
off. -/
theorem run_expand :
    (expand options pipeline chance input template).run answer store =
      let draft := (pipeline.drafts.dispatch input template).subject
      let text := scriptedText options chance draft
      if draft = brokenDraft then (.ok "", store)
      else
        match (resolveAll .blockScanning options pipeline.blocks input (Region.blocks text)).run
            answer store with
        | (.ok replacements, after) =>
            (.ok (finishedText options chance (Region.splice text replacements)), after)
        | (.error error, after) => (.error error, after) := by
  by_cases broken : (pipeline.drafts.dispatch input template).subject = brokenDraft
  · simp only [expand, broken, if_true, Plan.bind_eq_andThen, Stage.enter, Plan.run_andThen,
      Plan.run, Plan.run_noteAll, Plan.pure_eq_done]
  · simp only [expand, expandBlocks, broken, if_false, Plan.bind_eq_andThen, Stage.enter,
      Plan.run_andThen, Plan.run, Plan.run_noteAll, run_expandEarly, run_expandLate,
      Plan.pure_eq_done, String.ofList_toList]
    rcases (resolveAll .blockScanning options pipeline.blocks input _).run answer store with
      ⟨_ | replacements, after⟩ <;> rfl

theorem calls_expand :
    (expand options pipeline chance input template).calls answer store =
      let draft := (pipeline.drafts.dispatch input template).subject
      if draft = brokenDraft then []
      else
        (resolveAll .blockScanning options pipeline.blocks input
          (Region.blocks (scriptedText options chance draft))).calls answer store := by
  by_cases broken : (pipeline.drafts.dispatch input template).subject = brokenDraft
  · simp only [expand, broken, if_true, Plan.bind_eq_andThen, Stage.enter, Plan.calls_andThen,
      Plan.calls, Plan.run, Plan.run_noteAll, Plan.calls_noteAll, Plan.pure_eq_done,
      List.append_nil]
  · simp only [expand, expandBlocks, broken, if_false, Plan.bind_eq_andThen, Stage.enter,
      Plan.calls_andThen, Plan.calls, Plan.run_andThen, Plan.run, Plan.run_noteAll,
      Plan.calls_noteAll, run_expandEarly, calls_expandEarly, run_expandLate, calls_expandLate,
      Plan.pure_eq_done, List.nil_append]
    rcases (resolveAll .blockScanning options pipeline.blocks input _).run answer store with
      ⟨_ | replacements, after⟩ <;> simp only [List.append_nil]

/-- An expansion is given up only for errors of the store, all of which come in the stage in which
the blocks are resolved. -/
theorem keepsTo_expand :
    (expand options pipeline chance input template).KeepsTo (.store .blockScanning)
      Note.IsOfExpansion := by
  refine ⟨rfl, ?_⟩
  refine (Plan.keepsTo_noteAll Chain.isOfExpansion_of_mem_notes).andThen fun _ => ?_
  split
  · exact ⟨rfl, trivial⟩
  · refine (keepsTo_expandEarly options chance _ _).andThen fun scripted => ?_
    refine (keepsTo_expandBlocks options _ pipeline.blocks input _).andThen fun replaced => ?_
    exact (keepsTo_expandLate options chance _ _).andThen fun _ => ⟨rfl, trivial⟩

end

end Expansion
end ChatMacro
