import ChatMacro.Script.Function
import ChatMacro.Script.Parser

/-!
# Running scripts

A script runs in a scope of its own, which binds names to values.  Only declarations bind names;
assignments change values.  An error stops the run and leaves the scope as it is at that point.

Chance comes from outside: a list of outcomes without end, of which each call uses up one.
-/

namespace ChatMacro
namespace Script

/-- The outcomes of chance, by number. -/
abbrev Outcomes := Nat → Nat

/-- What a script can change while it runs. -/
structure Scope where
  /-- The names with their values. -/
  bindings : List (String × Value)
  /-- The number of outcomes that are used up. -/
  draws : Nat
  deriving DecidableEq

namespace Scope

/-- A scope without names. -/
def empty : Scope := ⟨[], 0⟩

/-- The value of a name. -/
def find? (scope : Scope) (name : String) : Option Value :=
  scope.bindings.lookup name

/-- Give a name a value in a list of names. -/
def bindIn (name : String) (value : Value) : List (String × Value) → List (String × Value)
  | [] => [(name, value)]
  | (other, former) :: tail =>
      if name = other then (name, value) :: tail else (other, former) :: bindIn name value tail

/-- Give a name a value. -/
def bind (scope : Scope) (name : String) (value : Value) : Scope :=
  { scope with bindings := bindIn name value scope.bindings }

end Scope

/-- A step of a run: it ends with a result or an error, and leaves a scope either way. -/
def Run (Result : Type) := Scope → Except Error Result × Scope

namespace Run

/-- A step with a result and no effect. -/
def done {Result : Type} (result : Result) : Run Result := fun scope => (.ok result, scope)

/-- A step that ends the run. -/
def fail {Result : Type} (error : Error) : Run Result := fun scope => (.error error, scope)

/-- A step that ends as a computation without effect does. -/
def ofExcept {Result : Type} (result : Except Error Result) : Run Result := fun scope =>
  (result, scope)

/-- One step after the other, unless the first ends the run. -/
def andThen {First Second : Type} (first : Run First) (next : First → Run Second) : Run Second :=
  fun scope =>
    match first scope with
    | (.ok result, scope) => next result scope
    | (.error error, scope) => (.error error, scope)

instance : Monad Run where
  pure := done
  bind := andThen

/-- The value of a name. -/
def read (name : String) : Run Value := fun scope =>
  match scope.find? name with
  | some value => (.ok value, scope)
  | none => (.error (.running (.undefinedName name)), scope)

/-- Give a name a value. -/
def write (name : String) (value : Value) : Run Unit := fun scope =>
  (.ok (), scope.bind name value)

/-- Call a function, with the next outcome of chance. -/
def call (outcomes : Outcomes) (name : String) (arguments : List Value) : Run Value := fun scope =>
  let scope' := { scope with draws := scope.draws + 1 }
  match Function.ofName? name with
  | none => (.error (.running (.notAFunction name)), scope')
  | some function => (function.apply arguments (outcomes scope.draws), scope')

end Run

/-- The value of an operator with one operand. -/
def UnaryOp.apply (op : UnaryOp) (operand : Value) : Value :=
  match op with
  | neg => operand.neg
  | plus => .number operand.toNumber
  | not => .boolean !operand.truthy

/-- The value of an operator with two operands.  The two connectives pass on one of them. -/
def BinaryOp.apply (op : BinaryOp) (left right : Value) : Except Error Value :=
  match op with
  | add => left.add right
  | sub => .ok (left.sub right)
  | mul => .ok (left.mul right)
  | div => .ok (left.div right)
  | rem => .ok (left.rem right)
  | eq => .ok (.boolean (left.looseEq right))
  | ne => .ok (.boolean !left.looseEq right)
  | strictEq => .ok (.boolean (left.strictEq right))
  | strictNe => .ok (.boolean !left.strictEq right)
  | lt => .ok (.boolean (left.compare? right = some .lt))
  | le => .ok (.boolean ((left.compare? right).any (· ≠ .gt)))
  | gt => .ok (.boolean (left.compare? right = some .gt))
  | ge => .ok (.boolean ((left.compare? right).any (· ≠ .lt)))
  | and => .ok (if left.truthy then right else left)
  | or => .ok (if left.truthy then left else right)

/-- Whether the left operand alone decides the value of an operator. -/
def BinaryOp.decidedBy (op : BinaryOp) (left : Value) : Bool :=
  match op with
  | and => !left.truthy
  | or => left.truthy
  | _ => false

/-- A text with another text behind it, within the length limit of template literals. -/
def extendTemplate (text addition : String) : Except Error String :=
  if maxLength < (text ++ addition).length then .error (.running (.tooLong "template literal"))
  else .ok (text ++ addition)

mutual

/-- The value of an expression. -/
def Expr.run (outcomes : Outcomes) : Expr → Run Value
  | .literal value => Run.done value
  | .name name => Run.read name
  | .template parts => do
      let text ← runParts outcomes "" parts
      return .text text
  | .unary op operand => do
      let value ← operand.run outcomes
      return op.apply value
  | .binary op left right => do
      let left ← left.run outcomes
      if op.decidedBy left then
        return left
      else
        let right ← right.run outcomes
        Run.ofExcept (op.apply left right)
  | .ternary condition positive negative => do
      let condition ← condition.run outcomes
      if condition.truthy then positive.run outcomes else negative.run outcomes
  | .assign name value => do
      let _ ← Run.read name
      let value ← value.run outcomes
      Run.write name value
      return value
  | .call function arguments => do
      let values ← runArguments outcomes arguments
      Run.call outcomes function values

/-- The text `text`, extended by the parts of a template literal. -/
def runParts (outcomes : Outcomes) (text : String) : List TemplatePart → Run String
  | [] => Run.done text
  | part :: parts => do
      let addition ← part.run outcomes
      let text ← Run.ofExcept (extendTemplate text addition)
      runParts outcomes text parts

/-- The text of a part of a template literal. -/
def TemplatePart.run (outcomes : Outcomes) : TemplatePart → Run String
  | .text value => Run.done value
  | .expr value => do
      let value ← value.run outcomes
      return value.display

/-- The values of arguments, from left to right. -/
def runArguments (outcomes : Outcomes) : List Expr → Run (List Value)
  | [] => Run.done []
  | argument :: arguments => do
      let value ← argument.run outcomes
      let values ← runArguments outcomes arguments
      return value :: values

end

/-- The value of the last expression among the statements, or else `last`. -/
def runStatements (outcomes : Outcomes) (last : Value) : List Statement → Run Value
  | [] => Run.done last
  | .declare name value :: statements => do
      let value ← value.run outcomes
      Run.write name value
      runStatements outcomes last statements
  | .expr value :: statements => do
      let value ← value.run outcomes
      runStatements outcomes value statements

/-- The value of a script in a scope of its own. -/
def evaluate (outcomes : Outcomes) (code : String) : Except Error Value := do
  let statements ← Parser.program code
  (runStatements outcomes .undefined statements Scope.empty).1

end Script
end ChatMacro
