import ChatMacro.Literal

/-!
# Variable blocks

The text between the braces of a template: a variable name, an operator with its operand, and
perhaps a fallback behind a bar.  The first operator character ends the name; a name without one is
a reference.  Text without a name is not a block.
-/

namespace ChatMacro

open Text

/-- What a block does with its variable. -/
inductive Operator where
  | assign
  | add
  | subtract
  | increment
  | decrement
  | reference
  deriving DecidableEq, Repr

namespace Operator

/-- The sign of an operator in messages. -/
def symbol : Operator → String
  | assign => "="
  | add => "+"
  | subtract => "-"
  | increment => "++"
  | decrement => "--"
  | reference => "*"

/-- Whether an operator moves a number downwards. -/
def isNegative : Operator → Bool
  | subtract | decrement => true
  | _ => false

end Operator

/-- A variable block. -/
structure Block where
  /-- Name of the variable, its words joined by underscores. -/
  name : String
  /-- What is done. -/
  operator : Operator
  /-- Operand; the number one for a step. -/
  value : Datum
  /-- Operand as it was written. -/
  raw : String
  /-- Kind of data that the block works on. -/
  kind : Kind
  /-- Value that replaces a failure. -/
  fallback : Option Datum
  /-- Result, once there is one. -/
  output : Option Datum
  deriving DecidableEq

namespace Block

/-- The operand text that makes an assignment delete its variable. -/
def deletion : String := "null"

/-- The name of a variable: the words of a text, joined by underscores. -/
def normalizeName (raw : String) : String :=
  String.ofList (['_'].intercalate (words raw.toList))

/-- Give a block another operand. -/
def setValue (block : Block) (raw : String) : Block :=
  let raw := String.ofList (trim raw.toList)
  let value := Literal.datum raw
  { block with raw, value, kind := value.kind }

/-- Give a block another name. -/
def setName (block : Block) (name : String) : Block :=
  { block with name := normalizeName name }

/-- Whether a block removes its variable. -/
def isDeletion (block : Block) : Bool :=
  block.operator = .assign && block.raw = deletion

/-- The value that stands in for a failure. -/
def fallbackOrZero (block : Block) : Datum :=
  block.fallback.getD block.kind.zero

/-- Whether an operator starts at a character. -/
def isOperatorStart (character : Char) : Bool :=
  character = '=' || character = '+' || character = '-'

/-- The operator at the start of a text and the operand after it. -/
def operatorOf (text : List Char) : Operator × List Char :=
  if trimEnd text = ['+', '+'] then (.increment, [])
  else if trimEnd text = ['-', '-'] then (.decrement, [])
  else
    match text with
    | [] => (.reference, [])
    | '=' :: operand => (.assign, operand)
    | '+' :: operand => (.add, operand)
    | _ :: operand => (.subtract, operand)

/-- Read the text between two braces. -/
def parse? (inner : String) : Option Block :=
  let (body, fallback) := match splitOnce? '|' inner.toList with
    | some (body, fallback) => (body, some (Literal.datum (String.ofList fallback)))
    | none => (inner.toList, none)
  let name := normalizeName (String.ofList (body.takeWhile (!isOperatorStart ·)))
  let (operator, operand) := operatorOf (body.dropWhile (!isOperatorStart ·))
  if name = "" then
    none
  else
    let block : Block :=
      { name, operator, value := .number 1.0, raw := "1", kind := .number, fallback,
        output := none }
    match operator with
    | .increment | .decrement => some block
    | _ => some (block.setValue (String.ofList operand))

end Block
end ChatMacro
