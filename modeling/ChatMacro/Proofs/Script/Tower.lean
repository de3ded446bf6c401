import ChatMacro.Proofs.Script.Height
import ChatMacro.Proofs.Script.Lookahead

/-!
# The highest expressions

The bound on the heights of expressions is reached.  A script that reaches it is a tower: a choice
whose condition is a chain for each level of precedence, and at the bottom of these a call whose
argument is a tower with one level less.
-/

namespace ChatMacro
namespace Script

namespace Lexer

/-! ## Writing tokens -/

/-- The characters of a symbol. -/
def spellSymbol : Symbol → List Char
  | .plus => ['+']
  | .minus => ['-']
  | .star => ['*']
  | .slash => ['/']
  | .percent => ['%']
  | .bang => ['!']
  | .eq => ['=', '=']
  | .ne => ['!', '=']
  | .strictEq => ['=', '=', '=']
  | .strictNe => ['!', '=', '=']
  | .lt => ['<']
  | .le => ['<', '=']
  | .gt => ['>']
  | .ge => ['>', '=']
  | .and => ['&', '&']
  | .or => ['|', '|']
  | .assign => ['=']
  | .question => ['?']
  | .colon => [':']
  | .comma => [',']
  | .semi => [';']
  | .leftParen => ['(']
  | .rightParen => [')']

/-- The characters of a name or a symbol. -/
def spell : Token → List Char
  | .name name => name.toList
  | .symbol symbol => spellSymbol symbol
  | _ => []

/-- Some tokens with a blank behind each. -/
def spellAll (tokens : List Token) : List Char :=
  tokens.flatMap fun token => spell token ++ [' ']

/-- A token is read back from its characters with a blank behind them. -/
def ReadsBack (token : Token) : Prop :=
  ∃ character tail, spell token = character :: tail ∧ Text.isBlank character = false ∧
    ∀ rest, readToken character (tail ++ ' ' :: rest) = .ok (token, ' ' :: rest)

theorem readsBack_symbol (symbol : Symbol) : ReadsBack (.symbol symbol) := by
  cases symbol <;> exact ⟨_, _, rfl, by decide, fun _ => rfl⟩

theorem readsBack_letter : ReadsBack (.name "a") :=
  ⟨'a', [], rfl, by decide, fun _ => rfl⟩

theorem tokensUpTo_blank (limit : Nat) (text : List Char) :
    tokensUpTo limit (' ' :: text) = tokensUpTo limit text := by
  cases limit <;> rfl

theorem tokensUpTo_spellAll {tokens : List Token} (readBack : ∀ token ∈ tokens, ReadsBack token)
    {limit : Nat} (enough : tokens.length ≤ limit) :
    tokensUpTo limit (spellAll tokens) = .ok tokens := by
  induction tokens generalizing limit with
  | nil => cases limit <;> rfl
  | cons token tokens ih =>
      obtain ⟨⟨character, tail, spelled, solid, read⟩, others⟩ := List.forall_mem_cons.mp readBack
      obtain ⟨limit, rfl⟩ : ∃ fewer, limit = fewer + 1 := ⟨limit - 1, by simp at enough; omega⟩
      have spellAll_eq : spellAll (token :: tokens) =
          character :: (tail ++ ' ' :: spellAll tokens) := by
        simp [spellAll, spelled]
      rw [spellAll_eq, tokensUpTo, List.dropWhile_cons_of_neg (by simp [solid])]
      dsimp only
      rw [read]
      dsimp only [bind, Except.bind]
      rw [tokensUpTo_blank, ih others (Nat.le_of_succ_le_succ enough)]
      rfl

theorem length_le_spellAll (tokens : List Token) :
    tokens.length ≤ (spellAll tokens).length := by
  induction tokens with
  | nil => exact le_rfl
  | cons token tokens ih =>
      simp only [spellAll, List.flatMap_cons, List.length_append, List.length_cons] at ih ⊢
      omega

/-- Tokens that are written with blanks behind them are read back. -/
theorem tokens_spellAll {tokens : List Token} (readBack : ∀ token ∈ tokens, ReadsBack token) :
    Lexer.tokens (spellAll tokens) = .ok tokens :=
  tokensUpTo_spellAll readBack (length_le_spellAll tokens)

end Lexer

namespace Parser

/-! ## Chains -/

/-- An operator of a level of precedence. -/
def chainOperator : Nat → BinaryOp
  | 0 => .or
  | 1 => .and
  | 2 => .eq
  | 3 => .lt
  | 4 => .add
  | _ => .mul

/-- Its symbol. -/
def chainSymbol : Nat → Symbol
  | 0 => .or
  | 1 => .and
  | 2 => .eq
  | 3 => .lt
  | 4 => .plus
  | _ => .star

/-- The rest of a chain after its first operand. -/
def links (symbol : Symbol) : Nat → List Token
  | 0 => []
  | count + 1 => .symbol symbol :: .name "a" :: links symbol count

theorem le_length_links (symbol : Symbol) (count : Nat) : count ≤ (links symbol count).length := by
  induction count with
  | zero => exact le_rfl
  | succ count ih => exact Nat.succ_le_succ (Nat.le_succ_of_le ih)

/-- Chains of some levels of precedence, each of which starts with the one before. -/
def climb (count : Nat) : (precedences level : Nat) → List Token
  | 0, _ => []
  | precedences + 1, level =>
      climb count precedences (level + 1) ++ links (chainSymbol level) count

/-- An operand of operators from a level on ends before some tokens. -/
def EndsOperand (level : Nat) (tokens : List Token) : Prop :=
  tokens.head? ≠ some (.symbol .leftParen) ∧
    ∀ higher, level ≤ higher → tokens.head?.bind (BinaryOp.ofToken? higher) = none

theorem ofSymbol?_chainSymbol :
    ∀ level, BinaryOp.ofSymbol? (chainSymbol level) = some (chainOperator level)
  | 0 | 1 | 2 | 3 | 4 | _ + 5 => rfl

theorem precedence_chainOperator :
    ∀ {level}, level < BinaryOp.precedences → (chainOperator level).precedence = level
  | 0, _ | 1, _ | 2, _ | 3, _ | 4, _ | 5, _ => rfl
  | _ + 6, below => absurd below (by rw [BinaryOp.precedences]; omega)

theorem ofToken?_chainSymbol {level : Nat} (below : level < BinaryOp.precedences) (sought : Nat) :
    BinaryOp.ofToken? sought (.symbol (chainSymbol level)) =
      if level = sought then some (chainOperator level) else none := by
  rw [BinaryOp.ofToken?, ofSymbol?_chainSymbol, Option.filter, precedence_chainOperator below]
  simp

theorem chainSymbol_ne_leftParen : ∀ level, chainSymbol level ≠ .leftParen
  | 0 | 1 | 2 | 3 | 4 | _ + 5 => by simp [chainSymbol]

/-- A chain ends the operands of tighter chains. -/
theorem endsOperand_links {level : Nat} (below : level < BinaryOp.precedences) (count : Nat)
    {rest : List Token} (ends : EndsOperand level rest) :
    EndsOperand (level + 1) (links (chainSymbol level) count ++ rest) := by
  cases count with
  | zero => exact ⟨ends.1, fun higher above => ends.2 higher (Nat.le_of_succ_le above)⟩
  | succ count =>
      refine ⟨fun same => ?_, fun higher above => ?_⟩
      · exact chainSymbol_ne_leftParen level (Token.symbol.inj (Option.some.inj same))
      · exact (ofToken?_chainSymbol below higher).trans (if_neg (by omega))

theorem descend_of_lt (tokens : List Token) {depth : Nat} (room : depth < maxDepth) :
    Cursor.descend ⟨tokens, depth⟩ = .ok ⟨tokens, depth + 1⟩ :=
  if_neg (by dsimp only; omega)

section

variable {operand : Parser Expr} {level : Nat}

theorem chainAfter_of_some {cursor below after : Cursor} {op : BinaryOp} {right : Expr}
    (found : cursor.next?.bind (BinaryOp.ofToken? level) = some op)
    (descended : cursor.advance.descend = .ok below) (read : operand below = .ok (right, after))
    (limit taken : Nat) (left : Expr) :
    chainAfter operand level (limit + 1) taken left cursor =
      chainAfter operand level limit (taken + 1) (.binary op left right) after := by
  rw [chainAfter, found]
  dsimp only [bind, Except.bind]
  rw [descended]
  dsimp only
  rw [read]

end

/-- An operand in front of tokens that end it is not extended by operators. -/
theorem binary_of_ends {operand : Parser Expr} {cursor after : Cursor} {value : Expr}
    (read : operand cursor = .ok (value, after)) (precedences : Nat) {level : Nat}
    (ends : EndsOperand level after.tokens) :
    binary operand precedences level cursor = .ok (value, after) := by
  induction precedences generalizing level with
  | zero => exact read
  | succ precedences ih =>
      have inner := ih ⟨ends.1, fun higher above => ends.2 higher (Nat.le_of_succ_le above)⟩
      have noOperator : after.next?.bind (BinaryOp.ofToken? level) = none := ends.2 level le_rfl
      rw [binary, chain, inner]
      exact chainAfter_of_none noOperator _ 0 value

/-- A letter that no parenthesis follows is an operand of its own. -/
theorem operand_letter (inner : Parser Expr) {tokens : List Token} (depth : Nat)
    (noCall : tokens.head? ≠ some (.symbol .leftParen)) :
    operand inner ⟨.name "a" :: tokens, depth⟩ = .ok (.name "a", ⟨tokens, depth⟩) := by
  have primary_eq : operand inner ⟨.name "a" :: tokens, depth⟩ =
      word inner "a" ⟨tokens, depth⟩ := rfl
  have notMet : Cursor.meets .leftParen ⟨tokens, depth⟩ = false := decide_eq_false noCall
  rw [primary_eq, word, notMet]
  rfl

section

variable {operand : Parser Expr} {rest : List Token} {level : Nat}

/-- A chain is higher than its first operand by the tolls of its further operands. -/
theorem chainAfter_links (toll : Nat) (below : level < BinaryOp.precedences)
    (operandReads : ∀ count depth,
      operand ⟨.name "a" :: (links (chainSymbol level) count ++ rest), depth⟩ =
        .ok (.name "a", ⟨links (chainSymbol level) count ++ rest, depth⟩))
    (ends : EndsOperand level rest) (count limit taken depth : Nat) (enough : count ≤ limit)
    (room : depth + count ≤ maxDepth) (left : Expr) (high : 0 < left.heightWith toll) :
    ∃ result, chainAfter operand level limit taken left
        ⟨links (chainSymbol level) count ++ rest, depth⟩ = .ok (result, ⟨rest, depth - taken⟩) ∧
      result.heightWith toll = left.heightWith toll + toll * count := by
  induction count generalizing limit taken depth left with
  | zero =>
      have noOperator : (Cursor.next? ⟨rest, depth⟩).bind (BinaryOp.ofToken? level) = none :=
        ends.2 level le_rfl
      exact ⟨left, chainAfter_of_none noOperator limit taken left, rfl⟩
  | succ count ih =>
      obtain ⟨limit, rfl⟩ : ∃ fewer, limit = fewer + 1 := ⟨limit - 1, by omega⟩
      have higher : (Expr.binary (chainOperator level) left (.name "a")).heightWith toll =
          left.heightWith toll + toll := by
        simp only [Expr.heightWith]
        omega
      obtain ⟨result, read, height_eq⟩ := ih limit (taken + 1) (depth + 1) (by omega) (by omega)
        (.binary (chainOperator level) left (.name "a")) (by omega)
      have found : (Cursor.next? ⟨links (chainSymbol level) (count + 1) ++ rest, depth⟩).bind
          (BinaryOp.ofToken? level) = some (chainOperator level) :=
        (ofToken?_chainSymbol below level).trans (if_pos rfl)
      have descended := descend_of_lt (.name "a" :: (links (chainSymbol level) count ++ rest))
        (show depth < maxDepth by omega)
      refine ⟨result, ?_, ?_⟩
      · rw [Nat.add_sub_add_right] at read
        exact (chainAfter_of_some found descended (operandReads count (depth + 1)) _ _ _).trans read
      · rw [height_eq, higher, Nat.mul_succ]
        omega

end

/-- Chains are put on top of each other, up to their levels of precedence. -/
theorem binary_climb {toll : Nat} {inner : Parser Expr} {cursor : Cursor} {first : Expr}
    {count depth : Nat} (high : 0 < first.heightWith toll) (room : depth + count ≤ maxDepth)
    (precedences : Nat) {level : Nat}
    (levels : level + precedences = BinaryOp.precedences) {rest : List Token}
    (ends : EndsOperand level rest)
    (read : operand inner cursor = .ok (first, ⟨climb count precedences level ++ rest, depth⟩)) :
    ∃ result, binary (operand inner) precedences level cursor = .ok (result, ⟨rest, depth⟩) ∧
      result.heightWith toll = first.heightWith toll + precedences * (toll * count) := by
  induction precedences generalizing level rest with
  | zero => exact ⟨first, read, by rw [Nat.zero_mul, Nat.add_zero]⟩
  | succ precedences ih =>
      have below : level < BinaryOp.precedences := by omega
      rw [climb, List.append_assoc] at read
      obtain ⟨left, leftRead, left_eq⟩ :=
        ih (by omega) (endsOperand_links below count ends) read
      have operandReads (count depth : Nat) : binary (operand inner) precedences (level + 1)
          ⟨.name "a" :: (links (chainSymbol level) count ++ rest), depth⟩ =
            .ok (.name "a", ⟨links (chainSymbol level) count ++ rest, depth⟩) := by
        have linksEnd := endsOperand_links below count ends
        exact binary_of_ends (operand_letter inner depth linksEnd.1) precedences linksEnd
      have enough : count ≤ (links (chainSymbol level) count ++ rest).length := by
        rw [List.length_append]
        exact Nat.le_add_right_of_le (le_length_links _ count)
      obtain ⟨result, chained, result_eq⟩ :=
        chainAfter_links toll below operandReads ends count _ 0 depth enough room left (by omega)
      refine ⟨result, ?_, ?_⟩
      · rw [binary, chain, leftRead]
        exact chained
      · rw [result_eq, left_eq, Nat.succ_mul, Nat.add_assoc]

/-! ## Towers -/

/-- The alternatives of a choice, in front of further tokens. -/
def alternatives (rest : List Token) : List Token :=
  .symbol .question :: .name "a" :: .symbol .colon :: .name "a" :: rest

/-- The tokens of a tower. -/
def tower : Nat → List Token
  | 0 => [.name "a"]
  | levels + 1 =>
      .name "a" :: .symbol .leftParen :: (tower levels ++
        .symbol .rightParen :: (climb (levels + 1) BinaryOp.precedences 0 ++ alternatives []))

/-- What ends an expression: a closing parenthesis, a colon or the end of the script. -/
def EndsExpression (tokens : List Token) : Prop :=
  tokens = [] ∨ ∃ tail, tokens = .symbol .rightParen :: tail ∨ tokens = .symbol .colon :: tail

/-- A letter is an expression of its own. -/
theorem expression_letter (passes depth : Nat) {rest : List Token} (ends : EndsExpression rest) :
    expression (passes + 1) ⟨.name "a" :: rest, depth⟩ = .ok (.name "a", ⟨rest, depth⟩) := by
  rcases ends with rfl | ⟨tail, rfl | rfl⟩ <;> rfl

theorem tower_starts (levels : Nat) : ∃ tail, tower levels = .name "a" :: tail := by
  cases levels <;> exact ⟨_, rfl⟩

/-- The call at the bottom of a tower. -/
theorem operand_call {inner : Parser Expr} {tokens rest : List Token} {depth : Nat} {value : Expr}
    (room : depth < maxDepth) (starts : ∃ tail, tokens = .name "a" :: tail)
    (read : inner ⟨tokens ++ .symbol .rightParen :: rest, depth + 1⟩ =
      .ok (value, ⟨.symbol .rightParen :: rest, depth + 1⟩)) :
    operand inner
        ⟨.name "a" :: .symbol .leftParen :: (tokens ++ .symbol .rightParen :: rest), depth⟩ =
      .ok (.call "a" [value], ⟨rest, depth⟩) := by
  have call_eq : operand inner
      ⟨.name "a" :: .symbol .leftParen :: (tokens ++ .symbol .rightParen :: rest), depth⟩ =
      call inner "a" ⟨tokens ++ .symbol .rightParen :: rest, depth⟩ := rfl
  obtain ⟨tail, rfl⟩ := starts
  rw [call_eq, call, descend_of_lt _ room]
  dsimp only [bind, Except.bind]
  have arguments_eq :
      arguments inner ⟨.name "a" :: tail ++ .symbol .rightParen :: rest, depth + 1⟩ =
        .ok ([value], ⟨.symbol .rightParen :: rest, depth + 1⟩) := by
    have notEmpty : Cursor.meets .rightParen
        ⟨.name "a" :: tail ++ .symbol .rightParen :: rest, depth + 1⟩ = false := rfl
    rw [arguments, notEmpty, if_neg Bool.false_ne_true, read]
    rfl
  rw [arguments_eq]
  rfl

/-- The choice at the top of a tower. -/
theorem ternary_choice {inner : Parser Expr} {cursor : Cursor} {condition : Expr} {depth : Nat}
    {rest : List Token} (room : depth < maxDepth) (ends : EndsExpression rest)
    (letter : ∀ {tail}, EndsExpression tail →
      inner ⟨.name "a" :: tail, depth + 1⟩ = .ok (.name "a", ⟨tail, depth + 1⟩))
    (read : binary (operand inner) BinaryOp.precedences 0 cursor =
      .ok (condition, ⟨alternatives rest, depth⟩)) :
    ternary inner cursor =
      .ok (.ternary condition (.name "a") (.name "a"), ⟨rest, depth⟩) := by
  have chosen : Cursor.meets .question ⟨alternatives rest, depth⟩ = true := rfl
  have descended := descend_of_lt (.name "a" :: .symbol .colon :: .name "a" :: rest) room
  have positive := letter (.inr ⟨.name "a" :: rest, .inr rfl⟩)
  have colon : expect .colon .expectedColon
      ⟨.symbol .colon :: .name "a" :: rest, depth + 1⟩ = .ok ⟨.name "a" :: rest, depth + 1⟩ := rfl
  have negative := letter ends
  rw [ternary, read]
  dsimp only [bind, Except.bind]
  rw [chosen, if_pos rfl]
  dsimp only [Cursor.advance, alternatives, List.tail_cons]
  rw [descended]
  dsimp only
  rw [positive]
  dsimp only
  rw [colon]
  dsimp only
  rw [negative]
  rfl

/-- A tower is read with as many levels as it has, and is as high as they allow. -/
theorem expression_tower (toll levels passes depth : Nat) (enough : levels < passes)
    (room : depth + levels ≤ maxDepth) {rest : List Token} (ends : EndsExpression rest) :
    ∃ result, expression passes ⟨tower levels ++ rest, depth⟩ = .ok (result, ⟨rest, depth⟩) ∧
      result.heightWith toll = tallest toll levels := by
  induction levels generalizing passes depth rest with
  | zero =>
      obtain ⟨passes, rfl⟩ : ∃ fewer, passes = fewer + 1 := ⟨passes - 1, by omega⟩
      exact ⟨.name "a", expression_letter passes depth ends, rfl⟩
  | succ levels ih =>
      obtain ⟨passes, rfl⟩ : ∃ fewer, passes = fewer + 2 := ⟨passes - 2, by omega⟩
      obtain ⟨value, read, value_eq⟩ :=
        ih (passes + 1) (depth + 1) (by omega) (by omega) (.inr ⟨_, .inl rfl⟩)
      have called := operand_call (by omega) (tower_starts levels) read
      have endsChain : EndsOperand 0 (alternatives rest) :=
        ⟨by simp [alternatives], fun _ _ => rfl⟩
      have call_eq : (Expr.call "a" [value]).heightWith toll = tallest toll levels + 1 := by
        simp only [Expr.heightWith, argumentsHeight, value_eq, Nat.max_zero]
      obtain ⟨condition, conditionRead, condition_eq⟩ := binary_climb
        (by rw [call_eq]; omega) room BinaryOp.precedences (Nat.zero_add _) endsChain called
      refine ⟨.ternary condition (.name "a") (.name "a"), ?_, ?_⟩
      · have tokens_eq : tower (levels + 1) ++ rest =
            .name "a" :: .symbol .leftParen :: (tower levels ++ .symbol .rightParen ::
              (climb (levels + 1) BinaryOp.precedences 0 ++ alternatives rest)) := by
          simp [tower, alternatives]
        have noAssignment : expression (passes + 2) ⟨tower (levels + 1) ++ rest, depth⟩ =
            ternary (expression (passes + 1)) ⟨tower (levels + 1) ++ rest, depth⟩ := by
          rw [tokens_eq]
          rfl
        rw [noAssignment, tokens_eq]
        exact ternary_choice (by omega) ends (expression_letter passes (depth + 1)) conditionRead
      · simp only [Expr.heightWith, tallest]
        omega

/-! ## Scripts -/

theorem readsBack_links (symbol : Symbol) (count : Nat) :
    ∀ token ∈ links symbol count, Lexer.ReadsBack token := by
  induction count with
  | zero => simp [links]
  | succ count ih =>
      exact List.forall_mem_cons.mpr ⟨Lexer.readsBack_symbol symbol,
        List.forall_mem_cons.mpr ⟨Lexer.readsBack_letter, ih⟩⟩

theorem readsBack_climb (count precedences level : Nat) :
    ∀ token ∈ climb count precedences level, Lexer.ReadsBack token := by
  induction precedences generalizing level with
  | zero => simp [climb]
  | succ precedences ih =>
      exact List.forall_mem_append.mpr ⟨ih (level + 1), readsBack_links _ count⟩

theorem readsBack_tower (levels : Nat) : ∀ token ∈ tower levels, Lexer.ReadsBack token := by
  have letter := Lexer.readsBack_letter
  have symbol := Lexer.readsBack_symbol
  induction levels with
  | zero => simpa [tower] using letter
  | succ levels ih =>
      have chains := readsBack_climb (levels + 1) BinaryOp.precedences 0
      simp only [tower, alternatives, List.forall_mem_cons, List.forall_mem_append]
      exact ⟨letter, symbol _, ih, symbol _, chains, symbol _, letter, symbol _, letter, by simp⟩

/-- A script may be a single expression. -/
theorem statements_expression {tail : List Token} {result : Expr}
    (read : anyExpression ⟨.name "a" :: tail, 0⟩ = .ok (result, ⟨[], 0⟩)) :
    statements (tail.length + 1) ⟨.name "a" :: tail, 0⟩ = .ok [.expr result] := by
  have noSemicolon : skipSemicolons ⟨.name "a" :: tail, 0⟩ = ⟨.name "a" :: tail, 0⟩ := rfl
  have noDeclaration : startsDeclaration ⟨.name "a" :: tail, 0⟩ = false := rfl
  have first : statement ⟨.name "a" :: tail, 0⟩ = .ok (.expr result, ⟨[], 0⟩) := by
    rw [statement, noDeclaration, if_neg Bool.false_ne_true, read]
    rfl
  have others : statements tail.length ⟨[], 0⟩ = .ok [] := by
    cases tail.length <;> rfl
  simp only [statements, noSemicolon, first, others, bind, Except.bind]
  rfl

/-- The script that holds a tower. -/
def towerScript (levels : Nat) : String :=
  String.ofList (Lexer.spellAll (tower levels))

theorem program_towerScript (toll : Nat) :
    ∃ result, program (towerScript maxDepth) = .ok [.expr result] ∧
      result.heightWith toll = tallest toll maxDepth := by
  obtain ⟨result, read, height_eq⟩ := expression_tower toll maxDepth (maxDepth + 1) 0
    (Nat.lt_succ_self _) (Nat.zero_add _).le (.inl rfl)
  refine ⟨result, ?_, height_eq⟩
  have lexed : Lexer.tokens (towerScript maxDepth).toList = .ok (tower maxDepth) := by
    rw [towerScript, String.toList_ofList]
    exact Lexer.tokens_spellAll (readsBack_tower maxDepth)
  obtain ⟨tail, tower_eq⟩ := tower_starts maxDepth
  rw [List.append_nil, tower_eq] at read
  rw [program, lexed, tower_eq]
  exact statements_expression read

/-- The highest expressions of scripts are those at the tops of towers. -/
theorem isGreatest_tallest (toll : Nat) :
    IsGreatest {height | ∃ code statements, program code = .ok statements ∧
      ∃ statement ∈ statements, statement.heightWith toll = height} (tallest toll maxDepth) := by
  constructor
  · obtain ⟨result, read, height_eq⟩ := program_towerScript toll
    exact ⟨_, _, read, _, List.mem_singleton_self _, height_eq⟩
  · rintro height ⟨code, statements, read, statement, member, rfl⟩
    exact program_height_le toll read statement member

/-- The greatest height of all expressions in scripts.  If steps to left operands and to conditions
count as much as others it is 12608, because levels that are given back are taken again on top of
the same expression.  The number of levels bounds all heights only if these steps do not count. -/
theorem heights_of_scripts (toll : Nat) :
    IsGreatest {height | ∃ code statements, program code = .ok statements ∧
      ∃ statement ∈ statements, statement.heightWith toll = height} (maxDepth + 12544 * toll) ∧
    ((∀ code statements, program code = .ok statements →
      ∀ statement ∈ statements, statement.heightWith toll ≤ maxDepth) ↔ toll = 0) := by
  have tallest_maxDepth : tallest toll maxDepth = maxDepth + 12544 * toll :=
    tallest_eq toll maxDepth
  have greatest := isGreatest_tallest toll
  rw [tallest_maxDepth] at greatest
  refine ⟨greatest, fun within => ?_, ?_⟩
  · obtain ⟨code, statements, read, statement, member, height_eq⟩ := greatest.1
    have low := within code statements read statement member
    omega
  · rintro rfl code statements read statement member
    exact greatest.2 ⟨code, statements, read, statement, member, rfl⟩

/-- A chain on top of as many unary operators as there are levels. -/
theorem height_beyond_maxDepth :
    ∃ statements,
      program (String.ofList (List.replicate 64 '-' ++ ['1', '+', '1'])) = .ok statements ∧
        ∃ statement ∈ statements, maxDepth < statement.height := by
  have heights : (program (String.ofList (List.replicate 64 '-' ++ ['1', '+', '1']))).toOption.map
      (List.map Statement.height) = some [maxDepth + 1] := by
    decide +kernel
  generalize program (String.ofList (List.replicate 64 '-' ++ ['1', '+', '1'])) = outcome
    at heights ⊢
  cases outcome with
  | error error => cases heights
  | ok statements =>
      obtain ⟨statement, rfl, height_eq⟩ := List.map_eq_singleton_iff.mp (Option.some.inj heights)
      exact ⟨_, rfl, statement, List.mem_singleton_self _, height_eq ▸ Nat.lt_succ_self _⟩

end Parser
end Script
end ChatMacro
