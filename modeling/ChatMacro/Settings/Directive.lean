import ChatMacro.Folder.Path
import ChatMacro.Settings.Words
import ChatMacro.Text.Blank

/-!
# Directives

A line of a settings file may hold a directive: a slash, the name of what it does, and its words.
Other lines and unknown names say nothing.
-/

namespace ChatMacro

/-- A directive of a settings file. -/
inductive Directive where
  /-- Keep variables in a file. -/
  | store (path : String)
  /-- Put the paths of variables below a root. -/
  | root (path : String)
  /-- Let early scripts run or not. -/
  | early (enabled : Bool)
  /-- Let late scripts run or not. -/
  | late (enabled : Bool)
  /-- Keep variables apart by a field of the message, or not. -/
  | scope (field : Option String)
  /-- Replace a pattern in drafts. -/
  | replace (pattern replacement : String)
  /-- Reject messages with a word. -/
  | reject (word : String)
  deriving DecidableEq, Repr

/-- Why a directive cannot be read. -/
inductive DirectiveError where
  | replaceWords
  | rejectWords
  | noSetting
  | noValue (setting : String)
  | emptyStore
  | notASwitch (setting value : String)
  | emptySetting
  | unknownSetting (setting : String)
  deriving DecidableEq, Repr

namespace DirectiveError

/-- The message of an error. -/
def message : DirectiveError → String
  | replaceWords => "/replace: expected <from> <to>"
  | rejectWords => "/reject: expected exactly one word"
  | noSetting => "/set: requires an argument"
  | noValue setting => "/set: missing value for '" ++ setting ++ "'"
  | emptyStore => "/set store: path cannot be empty"
  | notASwitch setting value => "/set " ++ setting ++ ": expected on or off, got '" ++ value ++ "'"
  | emptySetting => "/set: setting name cannot be empty"
  | unknownSetting setting => "/set: unknown setting '" ++ setting ++ "'"

end DirectiveError

namespace Directive

/-- The words for on and off, in letters of any size. -/
def switch? (value : String) : Option Bool :=
  let word := String.ofList (value.toList.map Char.toLower)
  if ["on", "1", "true", "yes"].contains word then some true
  else if ["off", "0", "false", "no"].contains word then some false
  else none

/-- The setting and the value in the words of a directive: joined by an equals sign in the first
word, or else the first word and the other ones. -/
def settingOf : List String → Except DirectiveError (String × String)
  | [] => .error .noSetting
  | first :: others =>
      match Text.splitOnce? '=' first.toList with
      | some (setting, value) => .ok (String.ofList setting, String.ofList value)
      | none =>
          if others.isEmpty then .error (.noValue first)
          else .ok (first, " ".intercalate others)

/-- A switch that has been set. -/
def ofSwitch (setting value : String) (directive : Bool → Directive) :
    Except DirectiveError Directive :=
  match switch? value with
  | some enabled => .ok (directive enabled)
  | none => .error (.notASwitch setting value)

/-- The directive that gives a setting a value. -/
def ofSetting (home setting value : String) : Except DirectiveError Directive :=
  if setting = "store" then
    if value.isEmpty then .error .emptyStore else .ok (.store (Path.expandHome home value))
  else if setting = "prefix" then .ok (.root value)
  else if setting = "pre_command" then ofSwitch setting value .early
  else if setting = "post_command" then ofSwitch setting value .late
  else if setting = "namespace" then .ok (.scope (if value.isEmpty then none else some value))
  else if setting = "" then .error .emptySetting
  else .error (.unknownSetting setting)

/-- The directive with a name and words, if the name is known. -/
def ofWords (home name : String) (words : List String) :
    Except DirectiveError (Option Directive) :=
  if name = "set" then do
    let (setting, value) ← settingOf words
    let directive ← ofSetting home setting value
    return some directive
  else if name = "replace" then
    match words with
    | [pattern, replacement] =>
        if pattern.isEmpty then .error .replaceWords else .ok (some (.replace pattern replacement))
    | _ => .error .replaceWords
  else if name = "reject" then
    match words with
    | [word] => if word.isEmpty then .error .rejectWords else .ok (some (.reject word))
    | _ => .error .rejectWords
  else .ok none

/-- The directive in a line, if there is one.  The home of the user stands for a tilde. -/
def parse (home : String) (line : List Char) : Except DirectiveError (Option Directive) :=
  match Text.trim line with
  | '/' :: rest =>
      ofWords home (String.ofList (rest.takeWhile (!isGap ·)))
        (words (Text.trim ((rest.dropWhile (!isGap ·)).drop 1)))
  | _ => .ok none

end Directive
end ChatMacro
