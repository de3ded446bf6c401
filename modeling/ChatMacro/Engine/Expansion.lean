import ChatMacro.Engine.Stage
import ChatMacro.Handler.Namespace
import ChatMacro.Handler.Rejection
import ChatMacro.Handler.Substitution
import ChatMacro.Resolution
import ChatMacro.Script.Expansion

/-!
# Expanding templates

A template is expanded in stages: the first chain of handlers changes its draft and may break it
off, early scripts run, variable blocks are resolved from left to right and replaced all at once,
and late scripts run on the result.  The store is only touched while blocks are resolved, so an
expansion is a plan of calls.
-/

namespace ChatMacro

/-- What can be set for expansions. -/
structure Options where
  /-- Root of the paths of variables. -/
  root : String := "variables"
  /-- Whether early scripts run. -/
  early : Bool := true
  /-- Whether late scripts run. -/
  late : Bool := true
  deriving DecidableEq, Repr

/-- The chains of handlers. -/
structure Pipeline where
  /-- Handlers of the draft of a template. -/
  drafts : Chain String := []
  /-- Handlers of each block before its variable is looked up. -/
  blocks : Chain Block := []

namespace Expansion

/-- The scripts of the first stage take every other outcome of chance. -/
def earlyChance (chance : Script.Chance) : Script.Chance := fun index => chance (2 * index)

/-- The scripts of the last stage take the remaining outcomes of chance. -/
def lateChance (chance : Script.Chance) : Script.Chance := fun index => chance (2 * index + 1)

/-- The text that a block puts out. -/
def outputText (block : Block) : List Char :=
  ((block.output.map Datum.display).getD "").toList

/-- Resolve the blocks in regions, and pair the regions with what goes into their places.  A region
that holds no block keeps its place. -/
def resolveAll (stage : Stage) (options : Options) (blocks : Chain Block) (input : Option Json) :
    List Region → Plan EngineError (List (Region × List Char))
  | [] => .done []
  | region :: regions =>
      match Block.parse? (String.ofList region.inner) with
      | none => resolveAll stage options blocks input regions
      | some block => do
          let dispatched := blocks.dispatch input block
          Plan.noteAll dispatched.notes
          let block ← (dispatched.subject.resolve options.root).mapError (.store stage)
          let replacements ← resolveAll stage options blocks input regions
          return (region, outputText block) :: replacements

/-- Replace the variable blocks of a text. -/
def expandBlocks (stage : Stage) (options : Options) (blocks : Chain Block)
    (input : Option Json) (text : List Char) : Plan EngineError (Stage × List Char) := do
  let stage ← stage.enter .blockScanning
  let replacements ← resolveAll stage options blocks input (Region.blocks text)
  let stage ← stage.enter .substituting
  return (stage, Region.splice text replacements)

/-- Replace the early scripts of a text, if they are to run. -/
def expandEarly (stage : Stage) (options : Options) (chance : Script.Chance) (text : List Char) :
    Plan EngineError (Stage × List Char) :=
  if options.early then do
    let stage ← stage.enter .earlyScripts
    Plan.noteAll (Script.failureNotes .early (earlyChance chance) (Region.earlyScripts text))
    return (stage, Script.expandEarly (earlyChance chance) text)
  else
    return (stage, text)

/-- Replace the late scripts of a text, if they are to run. -/
def expandLate (stage : Stage) (options : Options) (chance : Script.Chance) (text : List Char) :
    Plan EngineError (Stage × List Char) :=
  if options.late then do
    let stage ← stage.enter .lateScripts
    Plan.noteAll (Script.failureNotes .late (lateChance chance) (Region.lateScripts text))
    return (stage, Script.expandLate (lateChance chance) text)
  else
    return (stage, text)

/-- Expand a template. -/
def expand (options : Options) (pipeline : Pipeline) (chance : Script.Chance)
    (input : Option Json) (template : String) : Plan EngineError String := do
  let stage ← Stage.uninitialized.enter .preParsing
  let dispatched := pipeline.drafts.dispatch input template
  Plan.noteAll dispatched.notes
  if dispatched.subject = brokenDraft then do
    let _ ← stage.enter .done
    return ""
  else do
    let (stage, text) ← expandEarly stage options chance dispatched.subject.toList
    let (stage, text) ← expandBlocks stage options pipeline.blocks input text
    let (stage, text) ← expandLate stage options chance text
    let _ ← stage.enter .done
    return String.ofList text

end Expansion
end ChatMacro
