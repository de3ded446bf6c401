import ChatMacro.Folder.Path

/-!
# Arguments of the program

Flags stand in clusters behind a dash.  A flag with a value takes the rest of its cluster, or else
the next argument.  Everything else is a template, and so is everything after two dashes.
-/

namespace ChatMacro

/-- Which settings file is read. -/
inductive SettingsChoice where
  /-- The first one that is there. -/
  | search
  /-- None. -/
  | skip
  /-- A given one. -/
  | file (path : String)
  deriving DecidableEq, Repr

/-- What the arguments ask for. -/
structure Arguments where
  /-- Settings file. -/
  settings : SettingsChoice := .search
  /-- File of the store. -/
  store : Option String := none
  /-- Template that comes first. -/
  command : Option String := none
  /-- Message that comes with the templates. -/
  input : Option String := none
  /-- Whether variables are kept in memory only. -/
  dryRun : Bool := false
  /-- Whether more is logged. -/
  debug : Bool := false
  /-- The other templates. -/
  templates : List String := []
  deriving DecidableEq, Repr

/-- Why arguments cannot be read. -/
inductive UsageError where
  | missingValue (flag : Char)
  | unknownFlag (flag : Char)
  deriving DecidableEq, Repr

namespace UsageError

/-- The message of an error. -/
def message : UsageError → String
  | missingValue flag => "-" ++ flag.toString ++ " requires an argument"
  | unknownFlag flag => "unknown option: -" ++ flag.toString

end UsageError

namespace Arguments

/-- The templates in the order in which they are expanded. -/
def allTemplates (arguments : Arguments) : List String :=
  arguments.command.toList ++ arguments.templates

/-- The value of a flag, given the rest of its cluster and the next argument, and whether the next
argument has been taken. -/
def valueOf (flag : Char) (next? : Option String) (rest : List Char) :
    Except UsageError (String × Bool) :=
  match rest, next? with
  | _ :: _, _ => .ok (String.ofList rest, false)
  | [], some next => .ok (next, true)
  | [], none => .error (.missingValue flag)

/-- The choice of a settings file, which is none if no path follows, and whether the next argument
has been taken. -/
def settingsOf (next? : Option String) (rest : List Char) : SettingsChoice × Bool :=
  match rest, next? with
  | _ :: _, _ => (.file (String.ofList rest), false)
  | [], some next =>
      if Text.startsWith ['-'] next.toList then (.skip, false) else (.file next, true)
  | [], none => (.skip, false)

/-- Read a cluster of flags, given the next argument, and tell whether that has been taken. -/
def readFlags (home : String) (next? : Option String) (arguments : Arguments) :
    List Char → Except UsageError (Arguments × Bool)
  | [] => .ok (arguments, false)
  | flag :: rest =>
      if flag = 'd' then
        readFlags home next? { arguments with debug := true } rest
      else if flag = 'n' then
        readFlags home next? { arguments with dryRun := true } rest
      else if flag = 'f' then
        let (settings, taken) := settingsOf next? rest
        .ok ({ arguments with settings }, taken)
      else if flag = 'c' then do
        let (command, taken) ← valueOf flag next? rest
        return ({ arguments with command := some command }, taken)
      else if flag = 'i' then do
        let (input, taken) ← valueOf flag next? rest
        return ({ arguments with input := some input }, taken)
      else if flag = 's' then do
        let (store, taken) ← valueOf flag next? rest
        return ({ arguments with store := some (Path.expandHome home store) }, taken)
      else
        .error (.unknownFlag flag)

/-- The flags of an argument that is a cluster of them. -/
def flags? (argument : String) : Option (List Char) :=
  match argument.toList with
  | '-' :: flag :: flags => some (flag :: flags)
  | _ => none

/-- Read arguments. -/
def readFrom (home : String) (arguments : Arguments) : List String → Except UsageError Arguments
  | [] => .ok arguments
  | argument :: others =>
      if argument = "--" then
        .ok { arguments with templates := arguments.templates ++ others }
      else
        match flags? argument with
        | none =>
            readFrom home { arguments with templates := arguments.templates ++ [argument] } others
        | some flags =>
            match readFlags home others.head? arguments flags with
            | .error error => .error error
            | .ok (arguments, false) => readFrom home arguments others
            | .ok (arguments, true) =>
                match others with
                | [] => .ok arguments
                | _ :: others => readFrom home arguments others

/-- The arguments of the program; the home of the user stands for a tilde. -/
def parse (home : String) (words : List String) : Except UsageError Arguments :=
  readFrom home {} words

end Arguments
end ChatMacro
