import ChatMacro.Text.Quoted

/-!
# The log

Parts of the program note what they do.  A note changes nothing; it is written down with the time,
which is left out here, if a filter lets it through.
-/

namespace ChatMacro

/-- How much a note matters. -/
inductive Level where
  /-- Something was done. -/
  | debug
  /-- Something went wrong, and what was asked for was done without it. -/
  | warning
  deriving DecidableEq, Repr

/-- The name of a level in the log. -/
def Level.name : Level → String
  | debug => "DEBUG"
  | warning => " WARN"

/-- The parts of the program that note something. -/
inductive Origin where
  | program
  | store
  | shelf
  | engine
  | chain
  | scripts
  | resolution
  deriving DecidableEq, Repr

/-- A note in the log. -/
structure Note where
  /-- The part of the program that it comes from. -/
  origin : Origin
  /-- How much it matters. -/
  level : Level
  /-- What it says. -/
  message : String
  /-- Names and texts of what it is about. -/
  fields : List (String × String) := []
  /-- The template that is being expanded, if any. -/
  template : Option String := none
  deriving DecidableEq, Repr

namespace Note

/-- A note on something that is done while a template is expanded. -/
def within (template : String) (note : Note) : Note :=
  { note with template := some template }

/-- The text of a note in a line of the log, behind the time. -/
def text (note : Note) : String :=
  note.level.name ++ " " ++
    (note.template.elim "" fun template =>
      "parse\x7btemplate=" ++ Text.quoted template ++ "\x7d: ") ++
    note.message ++ String.join (note.fields.map fun field => " " ++ field.1 ++ "=" ++ field.2)

end Note

/-- What is shown of the log. -/
structure LogFilter where
  /-- Which notes are shown. -/
  shows : Note → Bool
  /-- Whether notes are shown with the template that is being expanded. -/
  namesTemplates : Bool

namespace LogFilter

/-- By default warnings are shown, or everything if one wants to see what is done. -/
def byDefault (debug : Bool) : LogFilter where
  shows note := debug || note.level = .warning
  namesTemplates := debug

/-- A note as it is shown, if it is. -/
def pass? (filter : LogFilter) (note : Note) : Option Note :=
  if filter.shows note then
    some (if filter.namesTemplates then note else { note with template := none })
  else
    none

end LogFilter
end ChatMacro
