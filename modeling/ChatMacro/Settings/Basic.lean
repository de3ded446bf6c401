import ChatMacro.Engine.Expansion
import ChatMacro.Settings.Directive
import ChatMacro.Text.Lines

/-!
# Settings

What a settings file says, line by line.  A directive that cannot be read is listed with its line
and changes nothing.
-/

namespace ChatMacro

/-- What a settings file sets. -/
structure Settings where
  /-- File of the store. -/
  store : Option String := none
  /-- Options of expansions. -/
  options : Options := {}
  /-- Field of the message that keeps variables apart. -/
  scope : Option String := none
  /-- Patterns with their replacements, in the order of the file. -/
  replacements : List (String × String) := []
  /-- Words of rejected messages, in the order of the file. -/
  rejections : List String := []
  deriving DecidableEq, Repr

/-- A line of a settings file that cannot be read. -/
structure FaultyLine where
  /-- Number of the line, counted from one. -/
  number : Nat
  /-- What is wrong with it. -/
  cause : DirectiveError
  deriving DecidableEq, Repr

namespace FaultyLine

/-- The message about a line. -/
def message (line : FaultyLine) : String :=
  "line " ++ toString line.number ++ ": " ++ line.cause.message

end FaultyLine

namespace Settings

/-- Follow a directive. -/
def follow (settings : Settings) : Directive → Settings
  | .store path => { settings with store := some path }
  | .root path => { settings with options := { settings.options with root := path } }
  | .early enabled => { settings with options := { settings.options with early := enabled } }
  | .late enabled => { settings with options := { settings.options with late := enabled } }
  | .scope field => { settings with scope := field }
  | .replace pattern replacement =>
      { settings with replacements := settings.replacements ++ [(pattern, replacement)] }
  | .reject word => { settings with rejections := settings.rejections ++ [word] }

/-- Read lines from one with a given number on. -/
def readLines (home : String) (settings : Settings) (number : Nat) :
    List (List Char) → Settings × List FaultyLine
  | [] => (settings, [])
  | line :: lines =>
      match Directive.parse home line with
      | .ok none => readLines home settings (number + 1) lines
      | .ok (some directive) => readLines home (settings.follow directive) (number + 1) lines
      | .error cause =>
          let (settings, faulty) := readLines home settings (number + 1) lines
          (settings, { number, cause } :: faulty)

/-- Read a settings file, whose lines are counted from one. -/
def load (home text : String) : Settings × List FaultyLine :=
  readLines home {} 1 (Text.lines text.toList)

/-- The handlers that settings ask for: a message is rejected before anything is replaced. -/
def pipeline (settings : Settings) : Pipeline where
  drafts :=
    settings.rejections.map Rejection.handler ++
      (if settings.replacements.isEmpty then []
      else [Substitution.handler settings.replacements])
  blocks := settings.scope.toList.map Namespace.handler

end Settings
end ChatMacro
