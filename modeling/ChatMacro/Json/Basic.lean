import ChatMacro.Keyed
import ChatMacro.Number.Numeral

/-!
# JSON values

The values of a JSON document, and how they are written.  Messages that come with a template and
the file of a store are JSON documents.
-/

namespace ChatMacro

/-- A JSON value.  Integers that fit 64 bits keep their own form. -/
inductive Json where
  | null
  | bool (value : Bool)
  | integer (value : Int)
  | real (value : Float)
  | string (value : String)
  | array (items : List Json)
  | object (fields : List (String × Json))

namespace Json

/-- The value of a field, if the document is an object that has it. -/
def field? (document : Json) (name : String) : Option Json :=
  match document with
  | object fields => Keyed.find? name fields
  | _ => none

/-- The least hexadecimal code of four digits. -/
def hexCode (code : Nat) : List Char :=
  let digits := Nat.toDigits 16 code
  List.replicate (4 - digits.length) '0' ++ digits

/-- A character inside a JSON string: quotes, backslashes and controls are escaped. -/
def escaped (character : Char) : List Char :=
  if character = '"' || character = '\\' then ['\\', character]
  else if character = '\x08' then ['\\', 'b']
  else if character = '\x0c' then ['\\', 'f']
  else if character = '\n' then ['\\', 'n']
  else if character = '\r' then ['\\', 'r']
  else if character = '\t' then ['\\', 't']
  else if character.toNat < 32 then ['\\', 'u'] ++ hexCode character.toNat
  else [character]

/-- A JSON string. -/
def stringText (text : String) : List Char :=
  '"' :: text.toList.flatMap escaped ++ ['"']

/-- The text of a JSON integer. -/
def integerText (value : Int) : List Char :=
  Numeral.integerDigits value

/-- The text of a JSON number that is not kept as an integer. -/
def realText (value : Float) : List Char :=
  (Numeral.write Numeral.filed value).toList

/-- The start of a line at a depth of nesting. -/
def newline (depth : Nat) : List Char :=
  '\n' :: List.replicate (2 * depth) ' '

mutual

/-- A JSON value over several lines, each level indented by two blanks. -/
def pretty (depth : Nat) : Json → List Char
  | null => ['n', 'u', 'l', 'l']
  | bool true => ['t', 'r', 'u', 'e']
  | bool false => ['f', 'a', 'l', 's', 'e']
  | integer value => integerText value
  | real value => realText value
  | string value => stringText value
  | array [] => ['[', ']']
  | array (item :: items) =>
      '[' :: newline (depth + 1) ++ pretty (depth + 1) item ++ prettyItems depth items
  | object [] => ['\x7b', '\x7d']
  | object ((name, value) :: fields) =>
      '\x7b' :: newline (depth + 1) ++ stringText name ++ [':', ' '] ++
        pretty (depth + 1) value ++ prettyFields depth fields

/-- The items of an array after the first, and the closing bracket. -/
def prettyItems (depth : Nat) : List Json → List Char
  | [] => newline depth ++ [']']
  | item :: items =>
      ',' :: newline (depth + 1) ++ pretty (depth + 1) item ++ prettyItems depth items

/-- The fields of an object after the first, and the closing brace. -/
def prettyFields (depth : Nat) : List (String × Json) → List Char
  | [] => newline depth ++ ['\x7d']
  | (name, value) :: fields =>
      ',' :: newline (depth + 1) ++ stringText name ++ [':', ' '] ++
        pretty (depth + 1) value ++ prettyFields depth fields

end

end Json
end ChatMacro
