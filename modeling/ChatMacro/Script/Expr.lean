import ChatMacro.Script.Value

/-!
# Script expressions

The expressions and statements of a script.  Binary operators fall into six levels of precedence and
group to the left.
-/

namespace ChatMacro
namespace Script

/-- Operators with two operands. -/
inductive BinaryOp where
  | add
  | sub
  | mul
  | div
  | rem
  | eq
  | ne
  | strictEq
  | strictNe
  | lt
  | le
  | gt
  | ge
  | and
  | or
  deriving DecidableEq, Repr

/-- Operators with one operand. -/
inductive UnaryOp where
  | neg
  | plus
  | not
  deriving DecidableEq, Repr

mutual

/-- An expression. -/
inductive Expr where
  | literal (value : Value)
  | name (name : String)
  | template (parts : List TemplatePart)
  | unary (op : UnaryOp) (operand : Expr)
  | binary (op : BinaryOp) (left right : Expr)
  | ternary (condition positive negative : Expr)
  | assign (name : String) (value : Expr)
  | call (function : String) (arguments : List Expr)

/-- A part of a template literal. -/
inductive TemplatePart where
  | text (value : String)
  | expr (value : Expr)

end

/-- A statement. -/
inductive Statement where
  /-- Bind a name to a value. -/
  | declare (name : String) (value : Expr)
  /-- Compute a value, which may become the result. -/
  | expr (value : Expr)

namespace BinaryOp

/-- The level of an operator; operators of a higher level bind more tightly. -/
def precedence : BinaryOp → Nat
  | or => 0
  | and => 1
  | eq | ne | strictEq | strictNe => 2
  | lt | le | gt | ge => 3
  | add | sub => 4
  | mul | div | rem => 5

/-- The number of levels. -/
def precedences : Nat := 6

/-- The operator that a symbol stands for between two operands. -/
def ofSymbol? : Symbol → Option BinaryOp
  | .plus => some add
  | .minus => some sub
  | .star => some mul
  | .slash => some div
  | .percent => some rem
  | .eq => some eq
  | .ne => some ne
  | .strictEq => some strictEq
  | .strictNe => some strictNe
  | .lt => some lt
  | .le => some le
  | .gt => some gt
  | .ge => some ge
  | .and => some and
  | .or => some or
  | _ => none

/-- The operator of a level that a token stands for. -/
def ofToken? (level : Nat) : Token → Option BinaryOp
  | .symbol symbol => (ofSymbol? symbol).filter (·.precedence = level)
  | _ => none

end BinaryOp

/-- The operator that a token stands for in front of an operand. -/
def UnaryOp.ofToken? : Token → Option UnaryOp
  | .symbol .minus => some neg
  | .symbol .plus => some plus
  | .symbol .bang => some not
  | _ => none

end Script
end ChatMacro
