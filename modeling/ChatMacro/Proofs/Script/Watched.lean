import ChatMacro.Script.Parser

/-!
# Watching a parser

The rules of the grammar once more, with a record of what they do to the counter of levels and of
how far their calls are nested.  Every change of the counter is recorded when it is made, also in a
run that ends with an error, and the interpolations of a template literal, which have cursors of
their own, are recorded with the rest.
-/

namespace ChatMacro
namespace Script

/-- A change of the counter of levels. -/
inductive Move where
  /-- A level is taken. -/
  | take
  /-- Levels are given back. -/
  | give (levels : Nat)
  deriving DecidableEq, Repr

/-- What is seen of a run. -/
structure Watched (Result : Type) where
  /-- The changes of the counter, in their order. -/
  moves : List Move
  /-- The greatest number of rules that are under way at the same time. -/
  nesting : Nat
  /-- How the run ends. -/
  outcome : Except Error Result

namespace Watched

variable {Result First Second : Type}

/-- A step that leaves the counter alone and calls no rule. -/
def still (outcome : Except Error Result) : Watched Result :=
  ⟨[], 0, outcome⟩

/-- One step after the other, unless the first ends the run. -/
def andThen (first : Watched First) (next : First → Watched Second) : Watched Second :=
  match first.outcome with
  | .ok result =>
      ⟨first.moves ++ (next result).moves, max first.nesting (next result).nesting,
        (next result).outcome⟩
  | .error error => ⟨first.moves, first.nesting, .error error⟩

instance : Monad Watched where
  pure result := still (.ok result)
  bind := andThen

/-- Take a level. -/
def descend (cursor : Cursor) : Watched Cursor :=
  match cursor.descend with
  | .ok below => ⟨[.take], 0, .ok below⟩
  | .error error => still (.error error)

/-- Give levels back, and answer. -/
def finish (levels : Nat) (result : Result) (cursor : Cursor) : Watched (Result × Cursor) :=
  ⟨[.give levels], 0, .ok (result, cursor.ascend levels)⟩

/-- A rule is under way during a run. -/
def rule (run : Watched Result) : Watched Result :=
  { run with nesting := run.nesting + 1 }

end Watched

/-- A parser that is watched. -/
abbrev Watcher (Result : Type) := Cursor → Watched (Result × Cursor)

namespace Watcher

open Watched (still descend finish rule)

/-- The rest of a chain of operators, which has taken `taken` levels. -/
def chainAfter (operand : Watcher Expr) (level : Nat) : Nat → Nat → Expr → Watcher Expr
  | 0, taken, left, cursor => finish taken left cursor
  | limit + 1, taken, left, cursor =>
      match cursor.next?.bind (BinaryOp.ofToken? level) with
      | none => finish taken left cursor
      | some op => do
          let cursor ← descend cursor.advance
          let (right, cursor) ← operand cursor
          chainAfter operand level limit (taken + 1) (.binary op left right) cursor

/-- Operands between operators of one level. -/
def chain (operand : Watcher Expr) (level : Nat) : Watcher Expr := fun cursor => rule do
  let (left, cursor) ← operand cursor
  chainAfter operand level cursor.tokens.length 0 left cursor

/-- Operands between operators of several levels. -/
def binary (operand : Watcher Expr) : (levels level : Nat) → Watcher Expr
  | 0, _ => operand
  | levels + 1, level => chain (binary operand levels (level + 1)) level

/-- An operand behind unary operators. -/
def unary (operand : Watcher Expr) : Nat → Watcher Expr
  | 0, cursor => rule (operand cursor)
  | limit + 1, cursor => rule <|
      match cursor.next?.bind UnaryOp.ofToken? with
      | none => operand cursor
      | some op => do
          let cursor ← descend cursor.advance
          let (value, cursor) ← unary operand limit cursor
          finish 1 (.unary op value) cursor

/-- The arguments of a call after the first. -/
def argumentsAfter (inner : Watcher Expr) : Nat → Watcher (List Expr)
  | 0, cursor => still (.ok ([], cursor))
  | limit + 1, cursor =>
      if cursor.meets .comma then do
        let (value, cursor) ← inner cursor.advance
        let (values, cursor) ← argumentsAfter inner limit cursor
        return (value :: values, cursor)
      else
        return ([], cursor)

/-- The arguments of a call. -/
def arguments (inner : Watcher Expr) : Watcher (List Expr) := fun cursor =>
  if cursor.meets .rightParen then
    return ([], cursor)
  else do
    let (value, cursor) ← inner cursor
    let (values, cursor) ← argumentsAfter inner cursor.tokens.length cursor
    return (value :: values, cursor)

/-- An interpolation, whose cursor starts at the depth of the template literal. -/
def interpolation (inner : Watcher Expr) (depth : Nat) (code : String) : Watched Expr := do
  let tokens ← still ((Lexer.tokens code.toList).mapError .parsing)
  let (value, cursor) ← inner { tokens, depth }
  match cursor.next? with
  | none => return value
  | some token => still (.error (.parsing (.unexpectedInInterpolation token)))

/-- The parts of a template literal. -/
def templateParts (inner : Watcher Expr) (depth : Nat) :
    List TemplatePiece → Watched (List TemplatePart)
  | [] => still (.ok [])
  | .text value :: pieces => do
      let parts ← templateParts inner depth pieces
      return .text value :: parts
  | .source code :: pieces => do
      let value ← interpolation inner depth code
      let parts ← templateParts inner depth pieces
      return .expr value :: parts

/-- A template literal. -/
def template (inner : Watcher Expr) (pieces : List TemplatePiece) : Watcher Expr := fun cursor =>
  rule do
    let cursor ← descend cursor
    let parts ← templateParts inner cursor.depth pieces
    finish 1 (.template parts) cursor

/-- An expression in parentheses. -/
def parenthesized (inner : Watcher Expr) : Watcher Expr := fun cursor => do
  let cursor ← descend cursor
  let (value, cursor) ← inner cursor
  let cursor ← still (Parser.expect .rightParen .expectedParenthesis cursor)
  finish 1 value cursor

/-- A call of a function. -/
def call (inner : Watcher Expr) (function : String) : Watcher Expr := fun cursor => do
  let cursor ← descend cursor
  let (values, cursor) ← arguments inner cursor
  let cursor ← still (Parser.expect .rightParen (.expectedArgumentsEnd function) cursor)
  finish 1 (.call function values) cursor

/-- What a word at the start of an operand stands for. -/
def word (inner : Watcher Expr) (name : String) : Watcher Expr := fun cursor =>
  if name = "true" then still (.ok (.literal (.boolean true), cursor))
  else if name = "false" then still (.ok (.literal (.boolean false), cursor))
  else if name = "null" then still (.ok (.literal .null, cursor))
  else if name = "undefined" then still (.ok (.literal .undefined, cursor))
  else if Parser.declarators.contains name then still (.error (.parsing (.unexpectedKeyword name)))
  else if cursor.meets .leftParen then call inner name cursor.advance
  else still (.ok (.name name, cursor))

/-- A literal, a name, a call, or an expression in parentheses. -/
def primary (inner : Watcher Expr) : Watcher Expr := fun cursor => rule <|
  match cursor.next? with
  | some (.number value) => still (.ok (.literal (.number value), cursor.advance))
  | some (.string value) => still (.ok (.literal (.text value), cursor.advance))
  | some (.template pieces) => template inner pieces cursor.advance
  | some (.name name) => word inner name cursor.advance
  | some (.symbol .leftParen) => parenthesized inner cursor.advance
  | found => still (.error (.parsing (.unexpectedToken found)))

/-- A primary expression behind unary operators. -/
def operand (inner : Watcher Expr) : Watcher Expr := fun cursor =>
  unary (primary inner) cursor.tokens.length cursor

/-- An expression of binary operators, and perhaps a choice that it decides. -/
def ternary (inner : Watcher Expr) : Watcher Expr := fun cursor => rule do
  let (condition, cursor) ← binary (operand inner) BinaryOp.precedences 0 cursor
  if cursor.meets .question then
    let cursor ← descend cursor.advance
    let (positive, cursor) ← inner cursor
    let cursor ← still (Parser.expect .colon .expectedColon cursor)
    let (negative, cursor) ← inner cursor
    finish 1 (.ternary condition positive negative) cursor
  else
    return (condition, cursor)

/-- An assignment, or an expression that is none. -/
def assignment (inner : Watcher Expr) : Watcher Expr := fun cursor => rule <|
  match Parser.assigned? cursor with
  | none => ternary inner cursor
  | some name => do
      let cursor ← descend cursor.advance.advance
      let (value, cursor) ← inner cursor
      finish 1 (.assign name value) cursor

/-- An expression in which recursion passes at most the given number of times through a level. -/
def expression : Nat → Watcher Expr
  | 0 => fun _ => still (.error .tooDeep)
  | levels + 1 => assignment (expression levels)

end Watcher

/-! ## Rules -/

/-- A rule of the grammar of expressions. -/
inductive Rule where
  | assignment
  | ternary
  /-- Operands between operators of a level. -/
  | chain (level : Fin BinaryOp.precedences)
  | unary
  | primary
  /-- A template literal, whose token lies behind the cursor. -/
  | template (pieces : List TemplatePiece)

namespace Rule

/-- The parser of a rule, if `inner` reads the expressions inside. -/
def parser (inner : Parser Expr) : Rule → Parser Expr
  | assignment => Parser.assignment inner
  | ternary => Parser.ternary inner
  | chain level => Parser.binary (Parser.operand inner) (BinaryOp.precedences - level) level
  | unary => Parser.operand inner
  | primary => Parser.primary inner
  | template pieces => Parser.template inner pieces

/-- The same parser, watched. -/
def watcher (inner : Watcher Expr) : Rule → Watcher Expr
  | assignment => Watcher.assignment inner
  | ternary => Watcher.ternary inner
  | chain level => Watcher.binary (Watcher.operand inner) (BinaryOp.precedences - level) level
  | unary => Watcher.operand inner
  | primary => Watcher.primary inner
  | template pieces => Watcher.template inner pieces

/-- How many rules there are: assignment, choice, one for each level of operators, unary operators,
primary expressions and template literals. -/
def number : Nat :=
  BinaryOp.precedences + 5

/-- Every rule goes on from the position where it starts, but a template literal, whose token has
been passed over, stays there. -/
def Moves (position further : Nat) : Rule → Prop
  | template _ => further = position
  | _ => position < further

end Rule

end Script
end ChatMacro
