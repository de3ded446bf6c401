import ChatMacro.Script.Error
import ChatMacro.Text.Blank

/-!
# Script values

The values that scripts compute with, and the operators on them.  An addition joins texts if one of
its operands is a text; the other operators turn their operands into numbers.  Two texts compare
character by character.
-/

namespace ChatMacro
namespace Script

/-- A value of a script. -/
inductive Value where
  | undefined
  | null
  | boolean (value : Bool)
  | number (value : Float)
  | text (value : String)
  deriving DecidableEq

namespace Value

/-- A text, unless it is longer than scripts may build. -/
def bounded (producer text : String) : Except Error Value :=
  if maxLength < text.length then .error (.running (.tooLong producer)) else .ok (.text text)

/-- The text of a value. -/
def display : Value → String
  | undefined => "undefined"
  | null => "null"
  | boolean true => "true"
  | boolean false => "false"
  | number value => Numeral.display value
  | text value => value

/-- The text that a template receives. -/
def output : Value → String
  | undefined => ""
  | value => value.display

/-- The name of a type. -/
def typeName : Value → String
  | undefined => "undefined"
  | null => "object"
  | boolean _ => "boolean"
  | number _ => "number"
  | text _ => "string"

/-- Whether a value counts as true. -/
def truthy : Value → Bool
  | undefined | null => false
  | boolean value => value
  | number value => !(value == 0.0) && !value.isNaN
  | text value => !value.isEmpty

/-- The number that a value counts as; texts are read as numerals, and blank ones are zero. -/
def toNumber : Value → Float
  | undefined => Number.nan
  | null => 0.0
  | boolean value => if value then 1.0 else 0.0
  | number value => value
  | text value =>
      let trimmed := Text.trim value.toList
      if trimmed.isEmpty then 0.0 else (Numeral.read? trimmed).getD Number.nan

/-- Whether a value is a text. -/
def isText : Value → Bool
  | text _ => true
  | _ => false

/-- Addition: texts are joined, numbers are added. -/
def add (left right : Value) : Except Error Value :=
  if left.isText || right.isText then
    bounded "string concatenation" (left.display ++ right.display)
  else
    .ok (number (left.toNumber + right.toNumber))

/-- Subtraction. -/
def sub (left right : Value) : Value :=
  number (left.toNumber - right.toNumber)

/-- Multiplication. -/
def mul (left right : Value) : Value :=
  number (left.toNumber * right.toNumber)

/-- Division. -/
def div (left right : Value) : Value :=
  number (left.toNumber / right.toNumber)

/-- Remainder, with the sign of the left operand. -/
def rem (left right : Value) : Value :=
  number (Number.remainder left.toNumber right.toNumber)

/-- Change of sign. -/
def neg (value : Value) : Value :=
  number (-value.toNumber)

/-- Equality of type and value. -/
def strictEq : Value → Value → Bool
  | undefined, undefined => true
  | null, null => true
  | boolean left, boolean right => left = right
  | number left, number right => left == right
  | text left, text right => left = right
  | _, _ => false

/-- Equality of two texts, or of numbers after turning the operands into numbers; undefined and null
equal each other and nothing else. -/
def looseEq : Value → Value → Bool
  | undefined, right | null, right =>
      match right with
      | undefined | null => true
      | _ => false
  | _, undefined | _, null => false
  | text left, text right => left = right
  | left, right => left.toNumber == right.toNumber

/-- The order of two values, if neither counts as NaN. -/
def compare? : Value → Value → Option Ordering
  | text left, text right => some (compare left right)
  | left, right =>
      if left.toNumber < right.toNumber then some .lt
      else if left.toNumber == right.toNumber then some .eq
      else if right.toNumber < left.toNumber then some .gt
      else none

end Value
end Script
end ChatMacro
