import ChatMacro.Store.Plan

/-!
# Stages

An expansion goes from one stage to the next, and an error of the store says in which stage it
came.
-/

namespace ChatMacro

/-- The stages of an expansion. -/
inductive Stage where
  | uninitialized
  | preParsing
  | earlyScripts
  | blockScanning
  | substituting
  | lateScripts
  | done
  deriving DecidableEq, Repr

namespace Stage

/-- The name of a stage. -/
def name : Stage → String
  | uninitialized => "uninitialized"
  | preParsing => "pre-parsing"
  | earlyScripts => "pre-command eval"
  | blockScanning => "block scanning"
  | substituting => "substituting"
  | lateScripts => "post-command eval"
  | done => "done"

/-- The note on going from one stage to another. -/
def changeNote (stage next : Stage) : Note where
  origin := .engine
  level := .debug
  message := "stage"
  fields := [("from", stage.name), ("to", next.name)]

/-- Go from one stage to another. -/
def enter {Error : Type} (stage next : Stage) : Plan Error Stage :=
  .note (stage.changeNote next) (.done next)

end Stage

/-- Why an engine has no output. -/
inductive EngineError where
  /-- There is no template to expand. -/
  | noTemplate
  /-- The store failed in a stage. -/
  | store (stage : Stage) (cause : StoreError)
  deriving DecidableEq

/-- The message of an error. -/
def EngineError.message : EngineError → String
  | noTemplate => "no template: engine was built without one and none was passed"
  | store stage cause => "store failure during " ++ stage.name ++ ": " ++ cause.message

end ChatMacro
