import ChatMacro.Datum
import ChatMacro.Text.Blank
import ChatMacro.Text.Search

/-!
# Literals

How a value is written in a template.  Text in brackets is a sequence, text in parentheses is a set,
a numeral is a number, and everything else is text.  Blanks around a literal and around the elements
of a collection do not count.
-/

namespace ChatMacro
namespace Literal

open Text

/-- The text inside a pair of brackets that surrounds a whole text. -/
def bracketed? (opening closing : Char) : List Char → Option (List Char)
  | [] => none
  | character :: tail =>
      if character = opening && tail.getLast? = some closing then some tail.dropLast else none

/-- The kind of a literal, blanks around it left aside. -/
def kindOfTrimmed (text : List Char) : Kind :=
  if (bracketed? '[' ']' text).isSome then .sequence
  else if (bracketed? '(' ')' text).isSome then .set
  else if Numeral.isNumeral text then .number
  else .text

/-- The kind of a literal. -/
def kind (raw : String) : Kind :=
  kindOfTrimmed (trim raw.toList)

/-- The number that a numeral stands for. -/
def number? (text : List Char) : Option Float :=
  if Numeral.isNumeral text then Numeral.read? text else none

/-- The element that a text between two commas stands for. -/
def atom (raw : List Char) : Atom :=
  match number? (trim raw) with
  | some value => .number value
  | none => .text (String.ofList (trim raw))

/-- The elements that are written inside brackets. -/
def atoms (inner : List Char) : List Atom :=
  if allBlank inner then [] else (splitOn ',' inner).map atom

/-- The value of a literal without blanks around it. -/
def ofTrimmed (text : List Char) : Datum :=
  match bracketed? '[' ']' text with
  | some inner => .sequence (atoms inner)
  | none =>
      match bracketed? '(' ')' text with
      | some inner => .set (Atom.distinct (atoms inner))
      | none =>
          match number? text with
          | some value => .number value
          | none => .text (String.ofList text)

/-- The value of a literal. -/
def datum (raw : String) : Datum :=
  ofTrimmed (trim raw.toList)

end Literal
end ChatMacro
