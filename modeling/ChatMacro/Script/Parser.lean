import ChatMacro.Script.Expr
import ChatMacro.Script.Lexer

/-!
# Parsing scripts

The grammar, from loose to tight: assignment, choice, the six levels of binary operators, unary
operators, and at last literals, names, calls, parentheses and template literals.

A cursor holds the tokens that are left and counts the levels of nesting.  Every operator, call,
choice, assignment, template literal and pair of parentheses takes a level, and it is given back
when its expression is complete; a chain of operators gives all of its levels back at its end.
Since all recursion of the grammar passes through a level, it is bounded by the number of levels.
-/

namespace ChatMacro
namespace Script

/-- A place in a script. -/
structure Cursor where
  /-- The tokens that are left. -/
  tokens : List Token
  /-- The levels that are taken. -/
  depth : Nat

/-- A parser answers with its result and the place after it, or refuses the script. -/
abbrev Parser (Result : Type) := Cursor → Except Error (Result × Cursor)

namespace Cursor

/-- Take a level. -/
def descend (cursor : Cursor) : Except Error Cursor :=
  if maxDepth < cursor.depth + 1 then .error .tooDeep
  else .ok { cursor with depth := cursor.depth + 1 }

/-- Give levels back. -/
def ascend (levels : Nat) (cursor : Cursor) : Cursor :=
  { cursor with depth := cursor.depth - levels }

/-- The next token. -/
def next? (cursor : Cursor) : Option Token :=
  cursor.tokens.head?

/-- The place after the next token. -/
def advance (cursor : Cursor) : Cursor :=
  { cursor with tokens := cursor.tokens.tail }

/-- Whether the next token is a symbol. -/
def meets (symbol : Symbol) (cursor : Cursor) : Bool :=
  cursor.next? = some (.symbol symbol)

end Cursor

namespace Parser

/-- The words that are no names. -/
def keywords : List String :=
  ["var", "let", "const", "true", "false", "null", "undefined"]

/-- The words that start a declaration. -/
def declarators : List String :=
  ["var", "let", "const"]

/-- Pass over a symbol that has to come next. -/
def expect (symbol : Symbol) (refusal : Option Token → SyntaxError) (cursor : Cursor) :
    Except Error Cursor :=
  if cursor.meets symbol then .ok cursor.advance else .error (.parsing (refusal cursor.next?))

/-- The rest of a chain of operators of one level after the operand `left`, with at most `limit`
further operands.  The chain has taken `taken` levels, which it gives back at its end. -/
def chainAfter (operand : Parser Expr) (level : Nat) : Nat → Nat → Expr → Parser Expr
  | 0, taken, left, cursor => .ok (left, cursor.ascend taken)
  | limit + 1, taken, left, cursor =>
      match cursor.next?.bind (BinaryOp.ofToken? level) with
      | none => .ok (left, cursor.ascend taken)
      | some op => do
          let cursor ← cursor.advance.descend
          let (right, cursor) ← operand cursor
          chainAfter operand level limit (taken + 1) (.binary op left right) cursor

/-- Operands between operators of one level. -/
def chain (operand : Parser Expr) (level : Nat) : Parser Expr := fun cursor => do
  let (left, cursor) ← operand cursor
  chainAfter operand level cursor.tokens.length 0 left cursor

/-- Operands between operators of the levels from `level` on, of which there are `levels`. -/
def binary (operand : Parser Expr) : (levels level : Nat) → Parser Expr
  | 0, _ => operand
  | levels + 1, level => chain (binary operand levels (level + 1)) level

/-- An operand behind at most `limit` unary operators. -/
def unary (operand : Parser Expr) : Nat → Parser Expr
  | 0, cursor => operand cursor
  | limit + 1, cursor =>
      match cursor.next?.bind UnaryOp.ofToken? with
      | none => operand cursor
      | some op => do
          let cursor ← cursor.advance.descend
          let (value, cursor) ← unary operand limit cursor
          return (.unary op value, cursor.ascend 1)

/-- The arguments of a call after the first, at most `limit` of them. -/
def argumentsAfter (inner : Parser Expr) : Nat → Parser (List Expr)
  | 0, cursor => .ok ([], cursor)
  | limit + 1, cursor =>
      if cursor.meets .comma then do
        let (value, cursor) ← inner cursor.advance
        let (values, cursor) ← argumentsAfter inner limit cursor
        return (value :: values, cursor)
      else
        return ([], cursor)

/-- The arguments of a call up to the closing parenthesis. -/
def arguments (inner : Parser Expr) : Parser (List Expr) := fun cursor =>
  if cursor.meets .rightParen then
    return ([], cursor)
  else do
    let (value, cursor) ← inner cursor
    let (values, cursor) ← argumentsAfter inner cursor.tokens.length cursor
    return (value :: values, cursor)

/-- The interpolation that a source stands for, all of which has to be one expression. -/
def interpolation (inner : Parser Expr) (depth : Nat) (code : String) : Except Error Expr := do
  let tokens ← (Lexer.tokens code.toList).mapError .parsing
  let (value, cursor) ← inner { tokens, depth }
  match cursor.next? with
  | none => return value
  | some token => .error (.parsing (.unexpectedInInterpolation token))

/-- The parts of a template literal. -/
def templateParts (inner : Parser Expr) (depth : Nat) :
    List TemplatePiece → Except Error (List TemplatePart)
  | [] => .ok []
  | .text value :: pieces => do
      let parts ← templateParts inner depth pieces
      return .text value :: parts
  | .source code :: pieces => do
      let value ← interpolation inner depth code
      let parts ← templateParts inner depth pieces
      return .expr value :: parts

/-- A template literal, whose token lies behind the cursor. -/
def template (inner : Parser Expr) (pieces : List TemplatePiece) : Parser Expr := fun cursor => do
  let cursor ← cursor.descend
  let parts ← templateParts inner cursor.depth pieces
  return (.template parts, cursor.ascend 1)

/-- An expression in parentheses, the first of which lies behind the cursor. -/
def parenthesized (inner : Parser Expr) : Parser Expr := fun cursor => do
  let cursor ← cursor.descend
  let (value, cursor) ← inner cursor
  let cursor ← expect .rightParen .expectedParenthesis cursor
  return (value, cursor.ascend 1)

/-- A call, whose first parenthesis lies behind the cursor. -/
def call (inner : Parser Expr) (function : String) : Parser Expr := fun cursor => do
  let cursor ← cursor.descend
  let (values, cursor) ← arguments inner cursor
  let cursor ← expect .rightParen (.expectedArgumentsEnd function) cursor
  return (.call function values, cursor.ascend 1)

/-- What a word at the start of an operand stands for; the word lies behind the cursor. -/
def word (inner : Parser Expr) (name : String) : Parser Expr := fun cursor =>
  if name = "true" then .ok (.literal (.boolean true), cursor)
  else if name = "false" then .ok (.literal (.boolean false), cursor)
  else if name = "null" then .ok (.literal .null, cursor)
  else if name = "undefined" then .ok (.literal .undefined, cursor)
  else if declarators.contains name then .error (.parsing (.unexpectedKeyword name))
  else if cursor.meets .leftParen then call inner name cursor.advance
  else .ok (.name name, cursor)

/-- A literal, a name, a call, or an expression in parentheses. -/
def primary (inner : Parser Expr) : Parser Expr := fun cursor =>
  match cursor.next? with
  | some (.number value) => .ok (.literal (.number value), cursor.advance)
  | some (.string value) => .ok (.literal (.text value), cursor.advance)
  | some (.template pieces) => template inner pieces cursor.advance
  | some (.name name) => word inner name cursor.advance
  | some (.symbol .leftParen) => parenthesized inner cursor.advance
  | found => .error (.parsing (.unexpectedToken found))

/-- A primary expression behind any number of unary operators. -/
def operand (inner : Parser Expr) : Parser Expr := fun cursor =>
  unary (primary inner) cursor.tokens.length cursor

/-- An expression of binary operators, and perhaps a choice that it decides. -/
def ternary (inner : Parser Expr) : Parser Expr := fun cursor => do
  let (condition, cursor) ← binary (operand inner) BinaryOp.precedences 0 cursor
  if cursor.meets .question then
    let cursor ← cursor.advance.descend
    let (positive, cursor) ← inner cursor
    let cursor ← expect .colon .expectedColon cursor
    let (negative, cursor) ← inner cursor
    return (.ternary condition positive negative, cursor.ascend 1)
  else
    return (condition, cursor)

/-- The name that an assignment at the cursor changes. -/
def assigned? (cursor : Cursor) : Option String :=
  match cursor.tokens with
  | .name name :: .symbol .assign :: _ => if keywords.contains name then none else some name
  | _ => none

/-- An assignment, or an expression that is none. -/
def assignment (inner : Parser Expr) : Parser Expr := fun cursor =>
  match assigned? cursor with
  | none => ternary inner cursor
  | some name => do
      let cursor ← cursor.advance.advance.descend
      let (value, cursor) ← inner cursor
      return (.assign name value, cursor.ascend 1)

/-- An expression in which recursion passes at most the given number of times through a level. -/
def expression : Nat → Parser Expr
  | 0 => fun _ => .error .tooDeep
  | levels + 1 => assignment (expression levels)

/-- Any expression.  One pass more than there are levels is enough. -/
def anyExpression : Parser Expr :=
  expression (maxDepth + 1)

/-- The rest of a declaration after its first word: a name, and perhaps its value. -/
def declaration : Parser Statement := fun cursor =>
  match cursor.next? with
  | some (.name name) =>
      if keywords.contains name then
        .error (.parsing (.expectedName (some (.name name))))
      else if cursor.advance.meets .assign then do
        let (value, cursor) ← anyExpression cursor.advance.advance
        return (.declare name value, cursor)
      else
        return (.declare name (.literal .undefined), cursor.advance)
  | found => .error (.parsing (.expectedName found))

/-- Whether a declaration starts at the cursor. -/
def startsDeclaration (cursor : Cursor) : Bool :=
  match cursor.next? with
  | some (.name name) => declarators.contains name
  | _ => false

/-- A statement. -/
def statement : Parser Statement := fun cursor =>
  if startsDeclaration cursor then
    declaration cursor.advance
  else do
    let (value, cursor) ← anyExpression cursor
    return (.expr value, cursor)

/-- Drop semicolons. -/
def skipSemicolons (cursor : Cursor) : Cursor :=
  { cursor with tokens := cursor.tokens.dropWhile (· = .symbol .semi) }

/-- The statements up to the end, at most `limit` of them, with semicolons between them. -/
def statements : Nat → Cursor → Except Error (List Statement)
  | 0, _ => .ok []
  | limit + 1, cursor =>
      let cursor := skipSemicolons cursor
      if cursor.tokens.isEmpty then
        .ok []
      else do
        let (first, cursor) ← statement cursor
        if cursor.meets .semi || cursor.tokens.isEmpty then
          let others ← statements limit cursor
          return first :: others
        else
          .error (.parsing (.expectedSemicolon cursor.next?))

/-- The statements of a script. -/
def program (code : String) : Except Error (List Statement) := do
  let tokens ← (Lexer.tokens code.toList).mapError .parsing
  statements tokens.length { tokens, depth := 0 }

end Parser
end Script
end ChatMacro
