import ChatMacro.Program.Arguments
import ChatMacro.Program.Session
import ChatMacro.Settings.Basic

/-!
# The program

The program reads its settings, the message and the store, and then expands the templates among its
arguments, or else the lines of its input.
-/

namespace ChatMacro

/-- How the program ends. -/
inductive ExitStatus where
  | success
  | failure
  | misuse
  deriving DecidableEq, Repr

namespace ExitStatus

/-- The number of a status. -/
def code : ExitStatus → Nat
  | success => 0
  | failure => 1
  | misuse => 2

end ExitStatus

/-- What the program is told by its surroundings. -/
structure Surroundings where
  /-- Home of the user. -/
  home : String
  /-- Directory of settings. -/
  configHome : String := Path.join home ".config"
  /-- Directory of data. -/
  dataHome : String := Path.join home ".local/share"
  /-- Settings file that comes before the other ones. -/
  settingsFile : Option String := none
  /-- What is to be shown of the log, if that is said. -/
  logFilter : Option LogFilter := none

/-- What is shown of the log. -/
def Surroundings.filter (surroundings : Surroundings) (debug : Bool) : LogFilter :=
  surroundings.logFilter.getD (.byDefault debug)

namespace Program

variable {Action : Type → Type} [Monad Action]

/-- How the program is used. -/
def usage : String :=
  "Usage: cmdvar [-f[<rc>]] [-s<store>] [-c<template>] [-i<json>] [-nd] [<template>...]"

/-- The settings files that are looked for, the first one there being read. -/
def settingsFiles (surroundings : Surroundings) : List String :=
  surroundings.settingsFile.toList ++
    [Path.join surroundings.configHome "cmdvar/cmdvarrc", "./.cmdvarrc"]

/-- The file in which variables are kept by default. -/
def defaultStore (surroundings : Surroundings) : String :=
  Path.join surroundings.dataHome "cmdvar/variables.json"

/-- The first path under which something is there. -/
def firstThere (machine : Machine Action) : List String → Action (Option String)
  | [] => return none
  | path :: paths => do
      if ← machine.isThere path then return some path else firstThere machine paths

/-- The settings file that has been chosen. -/
def chooseFile (machine : Machine Action) (surroundings : Surroundings) :
    SettingsChoice → Action (Option String)
  | .search => firstThere machine (settingsFiles surroundings)
  | .skip => return none
  | .file path => return some path

/-- The note on a line of a settings file that cannot be read. -/
def faultyNote (path : String) (line : FaultyLine) : Note where
  origin := .program
  level := .warning
  message := line.message
  fields := [("path", path)]

/-- Read the settings.  Without a file that can be read there are none. -/
def readSettings (machine : Machine Action) (surroundings : Surroundings)
    (choice : SettingsChoice) : Action Settings := do
  match ← chooseFile machine surroundings choice with
  | none => return {}
  | some path =>
      match ← machine.look path with
      | .text content =>
          let (settings, faulty) := Settings.load surroundings.home content
          faulty.forM fun line => machine.note (faultyNote path line)
          return settings
      | _ =>
          machine.complain ("cmdvar: warning: " ++ path ++ ": cannot be read")
          return {}

/-- The message that is given as text, if it can be read. -/
def readInput : Option String → Option (Option Json)
  | none => some none
  | some text => (Json.parse? text.toList).map some

/-- The entries of a store file. -/
def openStore : Lookup → Except StoreError Entries
  | .missing => .ok .empty
  | .text content => (FileStore.load (some content)).map FileStore.entries
  | _ => .error .io

/-- The session on a store. -/
def sessionOn (settings : Settings) (input : Option Json) (path : Option String)
    (entries : Entries) : Session :=
  { shelf := { options := settings.options, pipeline := settings.pipeline }, input, path, entries }

/-- The file of the store. -/
def storePath (surroundings : Surroundings) (arguments : Arguments) (settings : Settings) :
    String :=
  (arguments.store <|> settings.store).getD (defaultStore surroundings)

/-- The note on a store that has been opened. -/
def openedNote (path : String) (entries : Entries) : Note where
  origin := .store
  level := .debug
  message := "opened variable store"
  fields := [("path", path), ("entries", toString entries.toList.length)]

/-- Start a session, or end at once. -/
def start (machine : Machine Action) (surroundings : Surroundings) (arguments : Arguments) :
    Action (Except ExitStatus Session) := do
  let settings ← readSettings machine surroundings arguments.settings
  match readInput arguments.input with
  | none =>
      machine.complain "cmdvar: -i: invalid JSON"
      return .error .misuse
  | some input =>
      if arguments.dryRun then
        return .ok (sessionOn settings input none .empty)
      else
        let path := storePath surroundings arguments settings
        match openStore (← machine.look path) with
        | .ok entries =>
            machine.note (openedNote path entries)
            return .ok (sessionOn settings input (some path) entries)
        | .error error =>
            machine.complain ("cmdvar: store: " ++ path ++ ": " ++ error.message)
            return .error .failure

/-- Expand templates, or else the lines of the input, and tell whether the store has failed none of
them. -/
def expandAll (machine : Machine Action) (session : Session) : List String → Action Bool
  | [] => machine.eachLine (Session.expandLine machine) session
  | templates => Machine.eachOf (Session.expandTemplate machine) session templates

/-- The status after the texts of a session. -/
def statusOf (finished : Bool) : ExitStatus :=
  if finished then .success else .failure

/-- Do what the arguments ask for. -/
def obey (machine : Machine Action) (surroundings : Surroundings) (arguments : Arguments) :
    Action ExitStatus := do
  match ← start machine surroundings arguments with
  | .error status => return status
  | .ok session =>
      return statusOf (← expandAll machine session arguments.allTemplates)

/-- Run the program on its arguments, which also say what is shown of the log. -/
def run (machine : Machine Action) (surroundings : Surroundings) (words : List String) :
    Action ExitStatus := do
  match Arguments.parse surroundings.home words with
  | .error error =>
      machine.complain ("cmdvar: " ++ error.message)
      machine.complain usage
      return .misuse
  | .ok arguments =>
      obey (machine.filtering (surroundings.filter arguments.debug)) surroundings arguments

/-- What happens when the program runs on a tree of files. -/
def transcript (chance : Script.Chance) (surroundings : Surroundings) (folder : Folder)
    (words : List String) (input : String) : ExitStatus × Transcript :=
  run (Transcript.machine chance) surroundings words { folder, input }

end Program
end ChatMacro
