import ChatMacro.Folder.Tree
import ChatMacro.Log
import ChatMacro.Script.Expansion
import ChatMacro.Text.Lines

/-!
# Machines

What the program needs of the machine that it runs on.  A transcript is such a machine: it holds the
files and the input, and writes down what is printed and what is reported.
-/

namespace ChatMacro

/-- A machine, whose actions are those of a monad. -/
structure Machine (Action : Type → Type) where
  /-- Whether anything is there under a path. -/
  isThere : String → Action Bool
  /-- Read what is under a path. -/
  look : String → Action Lookup
  /-- Write a file, and tell whether it could be written. -/
  write : String → String → Action Bool
  /-- Take steps with the lines of the input until one ends it, and tell whether none did. -/
  eachLine : {State : Type} → (State → String → Action (Option State)) → State → Action Bool
  /-- Print a line. -/
  print : String → Action Unit
  /-- Report an error in a line. -/
  complain : String → Action Unit
  /-- Note something in the log. -/
  note : Note → Action Unit
  /-- The outcomes of chance for one expansion. -/
  chance : Action Script.Chance

namespace Machine

variable {Action : Type → Type} [Monad Action]

/-- The machine whose log goes through a filter. -/
def filtering (machine : Machine Action) (filter : LogFilter) : Machine Action :=
  { machine with note := fun note => ((filter.pass? note).map machine.note).getD (pure ()) }

/-- Take steps with texts until one ends it, and tell whether none did. -/
def eachOf {State : Type} (step : State → String → Action (Option State)) (state : State) :
    List String → Action Bool
  | [] => return true
  | text :: texts => do
      match ← step state text with
      | none => return false
      | some state => eachOf step state texts

end Machine

/-- What is written where errors go. -/
inductive Report where
  /-- A line about an error. -/
  | error (line : String)
  /-- A note in the log. -/
  | noted (note : Note)
  deriving DecidableEq, Repr

/-- What has happened so far. -/
structure Transcript where
  /-- The files as they are. -/
  folder : Folder
  /-- What is left of the input. -/
  input : String := ""
  /-- The lines that were printed. -/
  output : List String := []
  /-- The errors and notes that were reported. -/
  reports : List Report := []
  deriving DecidableEq, Repr

namespace Transcript

/-- The path under which the input can be read like a file. -/
def inputPath : String := "/dev/stdin"

/-- The lines about errors. -/
def errors (transcript : Transcript) : List String :=
  transcript.reports.filterMap fun
    | .error line => some line
    | .noted _ => none

/-- Read what is under a path.  What is read of the input is gone. -/
def look (path : String) (transcript : Transcript) : Lookup × Transcript :=
  if path = inputPath then (.text transcript.input, { transcript with input := "" })
  else (transcript.folder.look path, transcript)

/-- The files with another text under a path, if one can be written there. -/
def write? (path content : String) (folder : Folder) : Option Folder :=
  if path = inputPath then none else folder.write? path content

/-- The machine that acts on a transcript, with the same outcomes of chance for every expansion. -/
def machine (chance : Script.Chance) : Machine (StateM Transcript) where
  isThere path := fun transcript =>
    (path = inputPath || (transcript.folder.look path).isThere, transcript)
  look := look
  write path content := fun transcript =>
    match write? path content transcript.folder with
    | some folder => (true, { transcript with folder })
    | none => (false, transcript)
  eachLine step state := fun transcript =>
    Machine.eachOf step state ((Text.lines transcript.input.toList).map String.ofList)
      { transcript with input := "" }
  print line := fun transcript =>
    ((), { transcript with output := transcript.output ++ [line] })
  complain line := fun transcript =>
    ((), { transcript with reports := transcript.reports ++ [.error line] })
  note note := fun transcript =>
    ((), { transcript with reports := transcript.reports ++ [.noted note] })
  chance := pure chance

end Transcript
end ChatMacro
