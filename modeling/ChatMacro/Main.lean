import ChatMacro.Program.Run

/-!
# Command line

The program on the machine that it is started on.
-/

namespace ChatMacro
namespace CommandLine

/-- What a file that cannot be opened is. -/
def lookupOf : IO.Error → Lookup
  | .noFileOrDirectory .. => .missing
  | .permissionDenied .. => .unreadable
  | _ => .blocked

/-- Whether anything is there under a path. -/
def isThere (path : String) : IO Bool := do
  match ← (IO.FS.Handle.mk path .read).toBaseIO with
  | .error error => return (lookupOf error).isThere
  | .ok _ => return true

/-- Read what is under a path. -/
def look (path : String) : IO Lookup := do
  match ← (IO.FS.Handle.mk path .read).toBaseIO with
  | .error error => return lookupOf error
  | .ok handle =>
      match ← handle.readToEnd.toBaseIO with
      | .error _ => return .unreadable
      | .ok content => return .text content

/-- The directories on the way to a file. -/
def directories (path : String) : List String :=
  let steps := (Path.steps path).dropLast
  (List.range steps.length).map fun count => "/".intercalate (steps.take (count + 1))

/-- Write a file, making the directories on the way.  The text is written beside the file first,
which then changes at once. -/
def write (path content : String) : IO Bool := do
  for directory in directories path do
    try IO.FS.createDir directory catch _ => pure ()
  try
    let beside := path ++ "." ++ toString (← IO.monoNanosNow)
    IO.FS.writeFile beside content
    IO.FS.rename beside path
    return true
  catch _ => return false

/-- Outcomes of chance that follow from a seed. -/
def chanceOf (seed : Nat) : Script.Chance := fun script draw =>
  (randNat (mkStdGen (seed + 7919 * script + draw)) 0 (Nat.pow 2 53 - 1)).1

/-- The line without its end. -/
def withoutEnd (line : String) : String :=
  match Text.lines line.toList with
  | [] => ""
  | characters :: _ => String.ofList characters

/-- Take steps with the lines of the input, each as soon as it is there. -/
partial def eachLine {State : Type} (step : State → String → IO (Option State)) (state : State) :
    IO Bool := do
  match ← (← IO.getStdin).getLine.toBaseIO with
  | .error error =>
      IO.eprintln ("cmdvar: stdin: " ++ toString error)
      return false
  | .ok line =>
      if line.isEmpty then
        return true
      else
        match ← step state (withoutEnd line) with
        | none => return false
        | some state => eachLine step state

/-- The machine that the program is started on. -/
def machine : Machine IO where
  isThere := isThere
  look := look
  write := write
  eachLine := eachLine
  print line := do
    IO.println line
    (← IO.getStdout).flush
  complain := fun line => IO.eprintln line
  note note := IO.eprintln note.text
  chance := return chanceOf (← IO.rand 0 (Nat.pow 2 31))

/-- The filter that the name of a level stands for. -/
def filterOf? (name : String) : Option LogFilter :=
  if ["off", "error"].contains name then
    some { shows := fun _ => false, namesTemplates := false }
  else if ["warn", "info"].contains name then
    some (.byDefault false)
  else if ["debug", "trace"].contains name then
    some (.byDefault true)
  else
    none

/-- What the program is told by its surroundings. -/
def surroundings : IO Surroundings := do
  let home := (← IO.getEnv "HOME").getD "."
  let plain : Surroundings := { home }
  return { plain with
    configHome := (← IO.getEnv "XDG_CONFIG_HOME").getD plain.configHome
    dataHome := (← IO.getEnv "XDG_DATA_HOME").getD plain.dataHome
    settingsFile := ← IO.getEnv "CMDVAR_RC"
    logFilter := (← IO.getEnv "CMDVAR_LOG").bind filterOf? }

/-- Run the program on its arguments. -/
def run (words : List String) : IO ExitStatus := do
  Program.run machine (← surroundings) words

end CommandLine
end ChatMacro

/-- The program. -/
def main (words : List String) : IO UInt32 := do
  return (← ChatMacro.CommandLine.run words).code.toUInt32
