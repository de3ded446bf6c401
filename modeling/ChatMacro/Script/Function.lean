import ChatMacro.Script.Value
import ChatMacro.Text.Case
import ChatMacro.Text.Search

/-!
# Script functions

The functions that scripts can call.  A function sees its arguments and one outcome of a source of
chance, and nothing else.
-/

namespace ChatMacro
namespace Script

/-- The functions. -/
inductive Function where
  | len
  | upper
  | lower
  | trim
  | substr
  | replace
  | repeated
  | string
  | number
  | abs
  | floor
  | ceil
  | round
  | min
  | max
  | random
  | randint
  | pick
  deriving DecidableEq, Repr

namespace Function

/-- The name under which a script calls a function. -/
def name : Function → String
  | len => "len"
  | upper => "upper"
  | lower => "lower"
  | trim => "trim"
  | substr => "substr"
  | replace => "replace"
  | repeated => "repeat"
  | string => "String"
  | number => "Number"
  | abs => "abs"
  | floor => "floor"
  | ceil => "ceil"
  | round => "round"
  | min => "min"
  | max => "max"
  | random => "random"
  | randint => "randint"
  | pick => "pick"

/-- All functions. -/
def all : List Function :=
  [len, upper, lower, trim, substr, replace, repeated, string, number, abs, floor, ceil, round, min,
    max, random, randint, pick]

/-- The function with a name. -/
def ofName? (name : String) : Option Function :=
  all.find? fun function => function.name = name

/-- The argument at a position, counted from zero. -/
def argument (function : Function) (arguments : List Value) (index : Nat) : Except Error Value :=
  match arguments[index]? with
  | some value => .ok value
  | none => .error (.running (.missingArgument function.name index))

/-- The text of the argument at a position. -/
def textArgument (function : Function) (arguments : List Value) (index : Nat) :
    Except Error (List Char) :=
  (function.argument arguments index).map fun value => value.display.toList

/-- The number that the argument at a position counts as. -/
def numberArgument (function : Function) (arguments : List Value) (index : Nat) :
    Except Error Float :=
  (function.argument arguments index).map Value.toNumber

/-- The nearest position in a text of the given length. -/
def clampIndex (position : Float) (length : Nat) : Nat :=
  Nat.min (Number.toIndex position) length

/-- A text without length limit as a value. -/
def ofChars (text : List Char) : Value :=
  .text (String.ofList text)

/-- A part of a text: where it starts, and how many characters it has at most. -/
def slice (text : List Char) (start : Float) (count : Option Float) : List Char :=
  let front := clampIndex start text.length
  match count with
  | some count => (text.drop front).take (clampIndex count text.length)
  | none => text.drop front

/-- A text several times. -/
def repeatText (text : List Char) (count : Float) : Except Error Value :=
  if !(0.0 ≤ count && Number.isWhole count) then
    .error (.running (.invalidCount repeated.name count))
  else if maxLength < text.length * Number.toIndex count then
    .error (.running (.tooLong repeated.name))
  else if text.isEmpty then
    .ok (ofChars [])
  else
    .ok (ofChars (List.replicate (Number.toIndex count) text).flatten)

/-- A number from 0 on and below 1. -/
def fractionOf (outcome : Nat) : Float :=
  Float.ofNat (outcome % Nat.pow 2 53) / Float.ofNat (Nat.pow 2 53)

/-- A whole number between two bounds, both of which it may reach. -/
def between (low high : Float) (outcome : Nat) : Except Error Value :=
  if !(low ≤ high && low.isFinite && high.isFinite) then
    .error (.running (.emptyRange randint.name low high))
  else
    let least := Number.toInt low
    let count := (Number.toInt high - least).toNat + 1
    .ok (.number (Float.ofInt (least + (outcome % count : Nat))))

/-- One of several values. -/
def pickFrom (values : List Value) (outcome : Nat) : Except Error Value :=
  match values[outcome % values.length]? with
  | some value => .ok value
  | none => .error (.running (.nothingToPick pick.name))

/-- The value of a call. -/
def apply (function : Function) (arguments : List Value) (outcome : Nat) : Except Error Value :=
  let text := function.textArgument arguments
  let value := function.numberArgument arguments
  match function with
  | len => do return .number (Float.ofNat (← text 0).length)
  | upper => do Value.bounded upper.name (String.ofList (Text.toUpper (← text 0)))
  | lower => do Value.bounded lower.name (String.ofList (Text.toLower (← text 0)))
  | trim => do return ofChars (Text.trim (← text 0))
  | substr => do
      let whole ← text 0
      let start ← value 1
      return ofChars (slice whole start ((arguments[2]?).map Value.toNumber))
  | replace => do
      let whole ← text 0
      let sought ← text 1
      let replacement ← text 2
      if sought.isEmpty then
        return ofChars whole
      else
        Value.bounded replace.name (String.ofList (Text.replaceAll sought replacement whole))
  | repeated => do
      let whole ← text 0
      let count ← value 1
      repeatText whole count
  | string => .ok (.text ((arguments.head?.map Value.display).getD ""))
  | number => .ok (.number ((arguments.head?.map Value.toNumber).getD 0.0))
  | abs => do return .number (Number.magnitude (← value 0))
  | floor => do return .number (Number.floor (← value 0))
  | ceil => do return .number (Number.ceil (← value 0))
  | round => do return .number (Number.round (← value 0))
  | min => .ok (.number ((arguments.map Value.toNumber).foldl Number.lesser Number.infinity))
  | max => .ok (.number ((arguments.map Value.toNumber).foldl Number.greater (-Number.infinity)))
  | random => .ok (.number (fractionOf outcome))
  | randint => do
      let low ← value 0
      let high ← value 1
      between (Number.ceil low) (Number.floor high) outcome
  | pick => pickFrom arguments outcome

end Function
end Script
end ChatMacro
