import ChatMacro.Script.Parser

/-!
# Phrases

A phrase is the tokens that an expression is written with.  Where an operand binds more loosely than
its place allows it stands in parentheses.  What follows a phrase must not extend it, and its first
tokens tell it apart from an assignment and from an operand behind an operator.
-/

namespace ChatMacro
namespace Script

/-! ## Operators and their symbols -/

namespace BinaryOp

/-- The symbol of an operator. -/
def symbol : BinaryOp → Symbol
  | add => .plus
  | sub => .minus
  | mul => .star
  | div => .slash
  | rem => .percent
  | eq => .eq
  | ne => .ne
  | strictEq => .strictEq
  | strictNe => .strictNe
  | lt => .lt
  | le => .le
  | gt => .gt
  | ge => .ge
  | and => .and
  | or => .or

theorem ofToken?_symbol (level : Nat) (op : BinaryOp) :
    ofToken? level (.symbol op.symbol) = if op.precedence = level then some op else none := by
  have ofSymbol?_symbol : ofSymbol? op.symbol = some op := by cases op <;> rfl
  rw [ofToken?, ofSymbol?_symbol, Option.filter]
  simp

theorem precedence_lt (op : BinaryOp) : op.precedence < precedences := by
  cases op <;> decide

end BinaryOp

/-- The symbol of an operator. -/
def UnaryOp.symbol : UnaryOp → Symbol
  | neg => .minus
  | plus => .plus
  | not => .bang

theorem UnaryOp.ofToken?_symbol (op : UnaryOp) : ofToken? (.symbol op.symbol) = some op := by
  cases op <;> rfl

/-! ## Phrases -/

/-- How tightly an expression binds: assignments and choices come first, then the binary operators
by their precedence, unary operators, and everything that is written without operators. -/
def Expr.level : Expr → Nat
  | assign _ _ => 0
  | ternary _ _ _ => 1
  | binary op _ _ => op.precedence + 2
  | unary _ _ => 8
  | _ => 9

/-- Where parentheses are written: around whatever binds more loosely than its place requires, and
perhaps elsewhere. -/
structure Grouping where
  /-- Whether an expression stands in parentheses at a place that requires a level. -/
  encloses : Nat → Expr → Bool
  /-- Loose expressions do. -/
  encloses_of_lt : ∀ {floor : Nat} {value : Expr}, value.level < floor → encloses floor value = true

/-- Parentheses where they are required and nowhere else. -/
def Grouping.sparing : Grouping where
  encloses floor value := decide (value.level < floor)
  encloses_of_lt := decide_eq_true

/-- The token of a value. -/
def Value.token : Value → Token
  | undefined => .name "undefined"
  | null => .name "null"
  | boolean true => .name "true"
  | boolean false => .name "false"
  | number value => .number value
  | text value => .string value

/-- Tokens, in parentheses or without. -/
def parenthesize (enclosed : Bool) (tokens : List Token) : List Token :=
  if enclosed then .symbol .leftParen :: (tokens ++ [.symbol .rightParen]) else tokens

namespace Grouping

variable (grouping : Grouping)

mutual

/-- The tokens of an expression.  Template literals have none. -/
def phrase : Expr → List Token
  | .literal value => [value.token]
  | .name name => [.name name]
  | .template _ => []
  | .unary op operand =>
      .symbol op.symbol :: parenthesize (grouping.encloses 8 operand) (phrase operand)
  | .binary op left right =>
      parenthesize (grouping.encloses (op.precedence + 2) left) (phrase left) ++
        .symbol op.symbol ::
          parenthesize (grouping.encloses (op.precedence + 3) right) (phrase right)
  | .ternary condition positive negative =>
      parenthesize (grouping.encloses 2 condition) (phrase condition) ++ .symbol .question ::
        (parenthesize (grouping.encloses 0 positive) (phrase positive) ++ .symbol .colon ::
          parenthesize (grouping.encloses 0 negative) (phrase negative))
  | .assign name value =>
      .name name :: .symbol .assign :: parenthesize (grouping.encloses 0 value) (phrase value)
  | .call function [] => [.name function, .symbol .leftParen, .symbol .rightParen]
  | .call function (first :: others) =>
      .name function :: .symbol .leftParen ::
        (parenthesize (grouping.encloses 0 first) (phrase first) ++ phrasesAfter others ++
          [.symbol .rightParen])

/-- The tokens of the arguments after the first. -/
def phrasesAfter : List Expr → List Token
  | [] => []
  | value :: values =>
      .symbol .comma ::
        (parenthesize (grouping.encloses 0 value) (phrase value) ++ phrasesAfter values)

end

/-- The tokens of an expression at a place that requires a level. -/
def phraseAt (floor : Nat) (value : Expr) : List Token :=
  parenthesize (grouping.encloses floor value) (grouping.phrase value)

end Grouping

/-- A word, which may be a keyword. -/
def IsWord (name : String) : Prop :=
  ∃ first tail, name.toList = first :: tail ∧ Lexer.isNameStart first = true ∧
    ∀ character ∈ tail, Lexer.isNamePart character = true

/-- A word that scripts may use as a name. -/
def IsName (name : String) : Prop :=
  IsWord name ∧ Parser.keywords.contains name = false

/-- An expression without template literals whose names are names and whose numbers are legible. -/
inductive Writable (legible : Float → Prop) : Expr → Prop where
  | number {value : Float} (reads : legible value) : Writable legible (.literal (.number value))
  | literal {value : Value} (noNumber : ∀ number, value ≠ .number number) :
      Writable legible (.literal value)
  | name {name : String} (named : IsName name) : Writable legible (.name name)
  | unary (op : UnaryOp) {operand : Expr} (writable : Writable legible operand) :
      Writable legible (.unary op operand)
  | binary (op : BinaryOp) {left right : Expr} (leftWritable : Writable legible left)
      (rightWritable : Writable legible right) : Writable legible (.binary op left right)
  | ternary {condition positive negative : Expr} (conditionWritable : Writable legible condition)
      (positiveWritable : Writable legible positive)
      (negativeWritable : Writable legible negative) :
      Writable legible (.ternary condition positive negative)
  | assign {name : String} {value : Expr} (named : IsName name)
      (writable : Writable legible value) : Writable legible (.assign name value)
  | call {function : String} {arguments : List Expr} (named : IsName function)
      (writable : ∀ argument ∈ arguments, Writable legible argument) :
      Writable legible (.call function arguments)

namespace Parser

open BinaryOp (ofToken?)

/-! ## What may follow a phrase -/

/-- Tokens that do not extend an expression of at least a given level. -/
structure Ends (floor : Nat) (rest : List Token) : Prop where
  noCall : rest.head? ≠ some (.symbol .leftParen)
  noAssignment : rest.head? ≠ some (.symbol .assign)
  noChoice : floor ≤ 1 → rest.head? ≠ some (.symbol .question)
  noOperator : ∀ level, floor ≤ level + 2 → rest.head?.bind (ofToken? level) = none

theorem Ends.mono {low high : Nat} {rest : List Token} (ends : Ends low rest) (le : low ≤ high) :
    Ends high rest where
  noCall := ends.noCall
  noAssignment := ends.noAssignment
  noChoice narrow := ends.noChoice (Nat.le_trans le narrow)
  noOperator level above := ends.noOperator level (Nat.le_trans le above)

/-- What ends a choice ends an assignment. -/
theorem Ends.of_choice {rest : List Token} (ends : Ends 1 rest) : Ends 0 rest where
  noCall := ends.noCall
  noAssignment := ends.noAssignment
  noChoice _ := ends.noChoice (Nat.le_refl 1)
  noOperator level _ := ends.noOperator level (Nat.le_add_left 1 (level + 1))

theorem ends_nil (floor : Nat) : Ends floor [] where
  noCall := by simp
  noAssignment := by simp
  noChoice := by simp
  noOperator _ _ := rfl

/-- Closing parentheses, commas and colons end every expression. -/
theorem ends_stop {stop : Symbol} (stops : stop = .rightParen ∨ stop = .comma ∨ stop = .colon)
    (floor : Nat) (rest : List Token) : Ends floor (.symbol stop :: rest) := by
  rcases stops with rfl | rfl | rfl <;>
    exact { noCall := by simp, noAssignment := by simp, noChoice := by simp,
            noOperator := fun _ _ => rfl }

theorem ends_question (rest : List Token) : Ends 2 (.symbol .question :: rest) where
  noCall := by simp
  noAssignment := by simp
  noChoice narrow := absurd narrow (by decide)
  noOperator _ _ := rfl

/-- An operator ends whatever binds more tightly. -/
theorem ends_operator (op : BinaryOp) (rest : List Token) :
    Ends (op.precedence + 3) (.symbol op.symbol :: rest) where
  noCall := by cases op <;> simp [BinaryOp.symbol]
  noAssignment := by cases op <;> simp [BinaryOp.symbol]
  noChoice narrow := absurd narrow (by omega)
  noOperator level above := (BinaryOp.ofToken?_symbol level op).trans (if_neg (by omega))

/-! ## How phrases start -/

/-- A token that may stand at the start of a phrase. -/
def Starts : Token → Prop
  | .number _ => True
  | .string _ => True
  | .name name => declarators.contains name = false
  | .symbol symbol => symbol = .leftParen ∨ ∃ op : UnaryOp, symbol = op.symbol
  | .template _ => False

theorem ne_symbol_of_starts {token : Token} (starts : Starts token) {symbol : Symbol}
    (stop : symbol = .rightParen ∨ symbol = .semi) : token ≠ .symbol symbol := by
  rintro rfl
  rcases starts with rfl | ⟨op, rfl⟩
  · simp at stop
  · cases op <;> simp [UnaryOp.symbol] at stop

theorem starts_token (value : Value) : Starts value.token := by
  cases value with
  | undefined => exact (by decide : declarators.contains "undefined" = false)
  | null => exact (by decide : declarators.contains "null" = false)
  | boolean value =>
      cases value with
      | false => exact (by decide : declarators.contains "false" = false)
      | true => exact (by decide : declarators.contains "true" = false)
  | number | text => trivial

theorem not_declarator {name : String} (named : IsName name) :
    declarators.contains name = false := by
  have noKeyword := named.2
  simp only [keywords, declarators, List.contains_eq_mem, List.mem_cons, List.not_mem_nil,
    decide_eq_false_iff_not, not_or, or_false] at noKeyword ⊢
  exact ⟨noKeyword.1, noKeyword.2.1, noKeyword.2.2.1⟩

theorem exists_starts_parenthesize {tokens : List Token} (enclosed : Bool)
    (starts : ∃ token tail, tokens = token :: tail ∧ Starts token) :
    ∃ token tail, parenthesize enclosed tokens = token :: tail ∧ Starts token := by
  cases enclosed with
  | false => exact starts
  | true => exact ⟨_, _, rfl, .inl rfl⟩

variable {legible : Float → Prop} (grouping : Grouping)

theorem exists_starts_phrase {value : Expr} (writable : Writable legible value) :
    ∃ token tail, grouping.phrase value = token :: tail ∧ Starts token := by
  induction writable with
  | number => exact ⟨_, _, rfl, trivial⟩
  | literal => exact ⟨_, _, rfl, starts_token _⟩
  | name named => exact ⟨_, _, rfl, not_declarator named⟩
  | unary op => exact ⟨_, _, rfl, .inr ⟨op, rfl⟩⟩
  | binary op leftWritable rightWritable leftStarts =>
      obtain ⟨token, tail, phrase_eq, starts⟩ := exists_starts_parenthesize
        (grouping.encloses (op.precedence + 2) _) leftStarts
      exact ⟨token, _, by rw [Grouping.phrase, phrase_eq]; rfl, starts⟩
  | ternary conditionWritable positiveWritable negativeWritable conditionStarts =>
      obtain ⟨token, tail, phrase_eq, starts⟩ := exists_starts_parenthesize
        (grouping.encloses 2 _) conditionStarts
      exact ⟨token, _, by rw [Grouping.phrase, phrase_eq]; rfl, starts⟩
  | assign named => exact ⟨_, _, rfl, not_declarator named⟩
  | @call function arguments named =>
      cases arguments <;> exact ⟨_, _, rfl, not_declarator named⟩

theorem assigned?_cons {rest : List Token} (noAssignment : rest.head? ≠ some (.symbol .assign))
    (token : Token) (depth : Nat) : assigned? ⟨token :: rest, depth⟩ = none := by
  unfold assigned?
  split
  next name tail tokens_eq =>
    cases tokens_eq
    exact absurd rfl noAssignment
  next => rfl

/-- An operand that is no loose assignment does not start like one. -/
theorem assigned?_parenthesize {value : Expr} {floor : Nat} (tight : floor ≠ 0)
    (unassigned : value.level ≠ 0 → ∀ {rest : List Token},
      rest.head? ≠ some (.symbol .assign) → ∀ depth,
        assigned? ⟨grouping.phrase value ++ rest, depth⟩ = none)
    {rest : List Token} (noAssignment : rest.head? ≠ some (.symbol .assign)) (depth : Nat) :
    assigned? ⟨parenthesize (grouping.encloses floor value) (grouping.phrase value) ++ rest,
      depth⟩ = none := by
  cases enclosed : grouping.encloses floor value with
  | true => rfl
  | false =>
      have level_ne : value.level ≠ 0 := by
        intro loose
        have required : grouping.encloses floor value = true :=
          grouping.encloses_of_lt (by omega)
        rw [enclosed] at required
        cases required
      exact unassigned level_ne noAssignment depth

/-- Only an assignment has its symbol behind a first word. -/
theorem assigned?_phrase {value : Expr} (writable : Writable legible value)
    (tight : value.level ≠ 0) {rest : List Token}
    (noAssignment : rest.head? ≠ some (.symbol .assign)) (depth : Nat) :
    assigned? ⟨grouping.phrase value ++ rest, depth⟩ = none := by
  induction writable generalizing rest depth with
  | number | literal | name => exact assigned?_cons noAssignment _ depth
  | unary op => rfl
  | binary op leftWritable rightWritable leftUnassigned =>
      rw [Grouping.phrase, List.append_assoc]
      exact assigned?_parenthesize grouping (Nat.succ_ne_zero _) leftUnassigned
        (ends_operator op _).noAssignment depth
  | ternary conditionWritable positiveWritable negativeWritable conditionUnassigned =>
      rw [Grouping.phrase, List.append_assoc]
      exact assigned?_parenthesize grouping (by decide) conditionUnassigned
        (ends_question _).noAssignment depth
  | assign => exact absurd rfl tight
  | @call function arguments => cases arguments <;> rfl

/-- What binds tightest does not start with an operator. -/
theorem unsigned_phrase {value : Expr} (writable : Writable legible value)
    (tightest : value.level = 9) (rest : List Token) (depth : Nat) :
    (Cursor.next? ⟨grouping.phrase value ++ rest, depth⟩).bind UnaryOp.ofToken? = none := by
  cases writable with
  | number | name => rfl
  | @literal value =>
      cases value with
      | boolean value => cases value <;> rfl
      | _ => rfl
  | unary | ternary | assign => cases tightest
  | binary op =>
      have bounded := op.precedence_lt
      have levels : BinaryOp.precedences = 6 := rfl
      have level_eq : op.precedence + 2 = 9 := tightest
      omega
  | @call function arguments => cases arguments <;> rfl

theorem level_le (value : Expr) : value.level ≤ 9 := by
  cases value with
  | binary op => cases op <;> simp [Expr.level, BinaryOp.precedence]
  | _ => simp [Expr.level]

end Parser

end Script
end ChatMacro
