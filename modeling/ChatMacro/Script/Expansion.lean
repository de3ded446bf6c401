import ChatMacro.Log
import ChatMacro.Region
import ChatMacro.Script.Run

/-!
# Scripts in templates

Early scripts run before the variable blocks of a template are looked for, so that what they put out
may hold further blocks; late scripts run on the result.  An early script that fails stays as it is
written, a late one disappears.
-/

namespace ChatMacro
namespace Script

/-- The outcomes of chance for each script of a template, by its number. -/
abbrev Chance := Nat → Outcomes

/-- The text that a script puts out, or else the text that stands in for a failure. -/
def outputOr (failure : List Char) (outcomes : Outcomes) (region : Region) : List Char :=
  match evaluate outcomes (String.ofList region.inner) with
  | .ok value => value.output.toList
  | .error _ => failure

/-- When a script runs. -/
inductive Phase where
  | early
  | late
  deriving DecidableEq, Repr

/-- The name of a phase in the log. -/
def Phase.name : Phase → String
  | early => "Pre"
  | late => "Post"

/-- The note on a script, if it fails. -/
def failureNote? (phase : Phase) (outcomes : Outcomes) (region : Region) : Option Note :=
  match evaluate outcomes (String.ofList region.inner) with
  | .ok _ => none
  | .error error => some {
      origin := .scripts
      level := .warning
      message := "sandboxed block failed"
      fields := [("phase", phase.name), ("block", Text.quoted (String.ofList region.raw)),
        ("error", error.message)] }

/-- The notes on the scripts that fail. -/
def failureNotes (phase : Phase) (chance : Chance) (scripts : List Region) : List Note :=
  (scripts.mapIdx fun index script => failureNote? phase (chance index) script).filterMap id

/-- Replace the early scripts of a text. -/
def expandEarly (chance : Chance) (text : List Char) : List Char :=
  Region.splice text ((Region.earlyScripts text).mapIdx fun index region =>
    (region, outputOr region.raw (chance index) region))

/-- Replace the late scripts of a text. -/
def expandLate (chance : Chance) (text : List Char) : List Char :=
  Region.splice text ((Region.lateScripts text).mapIdx fun index region =>
    (region, outputOr [] (chance index) region))

end Script
end ChatMacro
