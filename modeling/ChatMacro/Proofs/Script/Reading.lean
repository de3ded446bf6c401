import ChatMacro.Proofs.Script.Depth
import ChatMacro.Proofs.Script.Phrase
import ChatMacro.Proofs.Script.Tower

/-!
# Reading phrases

Reading a phrase gives its expression back, whatever tokens follow that cannot extend it, unless the
nesting is too deep.  A level of the grammar reads what the next level reads, and the expressions of
its own: so every expression is read at its own level first, and from there at every looser one.
The left operand of an operator may be a chain of operators of the same level, and then the chain
goes on from it.
-/

namespace ChatMacro
namespace Script
namespace Parser

open BinaryOp (ofToken?)

/-! ## Levels of the grammar -/

/-- The parser of the expressions of at least a given level. -/
def parserAt (inner : Parser Expr) : Nat → Parser Expr
  | 0 => assignment inner
  | 1 => ternary inner
  | level + 2 =>
      if level ≤ BinaryOp.precedences then
        binary (operand inner) (BinaryOp.precedences - level) level
      else
        primary inner

section

variable {inner : Parser Expr} {cursor after : Cursor} {value : Expr}

theorem parserAt_binary {level : Nat} (below : level < BinaryOp.precedences) :
    parserAt inner (level + 2) = chain (parserAt inner (level + 3)) level := by
  obtain ⟨fewer, more⟩ : ∃ fewer, BinaryOp.precedences - level = fewer + 1 :=
    ⟨BinaryOp.precedences - level - 1, by omega⟩
  have fewer_eq : BinaryOp.precedences - (level + 1) = fewer := by omega
  rw [parserAt, if_pos below.le, more, parserAt, if_pos (Nat.succ_le_of_lt below), fewer_eq]
  rfl

theorem yields_chain {operand : Parser Expr} {level : Nat}
    (yields : Yields (operand cursor) (value, after))
    (noOperator : after.next?.bind (ofToken? level) = none) :
    Yields (chain operand level cursor) (value, after) :=
  yields.bind (.inl (chainAfter_of_none noOperator _ 0 value))

theorem yields_ternary
    (yields : Yields (binary (operand inner) BinaryOp.precedences 0 cursor) (value, after))
    (noChoice : after.tokens.head? ≠ some (.symbol .question)) :
    Yields (ternary inner cursor) (value, after) := by
  have notMet : after.meets .question = false := decide_eq_false noChoice
  refine yields.bind (.inl ?_)
  dsimp only
  rw [notMet]
  rfl

theorem yields_operand (yields : Yields (primary inner cursor) (value, after))
    (unsigned : cursor.next?.bind UnaryOp.ofToken? = none) :
    Yields (operand inner cursor) (value, after) := by
  rw [operand]
  cases cursor.tokens.length with
  | zero => exact yields
  | succ limit =>
      rw [unary, unsigned]
      exact yields

/-- What is read at a level is read at the level before, if nothing there extends it. -/
theorem yields_parserAt_of_succ {level : Nat} (below : level < 9)
    (yields : Yields (parserAt inner (level + 1) cursor) (value, after))
    (unsigned : level = 8 → cursor.next?.bind UnaryOp.ofToken? = none)
    (ends : Ends level after.tokens) (unassigned : level = 0 → assigned? cursor = none) :
    Yields (parserAt inner level cursor) (value, after) := by
  match level with
  | 0 =>
      rw [parserAt, assignment, unassigned rfl]
      exact yields
  | 1 => exact yields_ternary yields (ends.noChoice le_rfl)
  | level + 2 =>
      have levels : BinaryOp.precedences = 6 := rfl
      by_cases tightest : level = 6
      · subst tightest
        exact yields_operand yields (unsigned rfl)
      · rw [parserAt_binary (by omega)]
        exact yields_chain yields (ends.noOperator level le_rfl)

/-- What is read at a level is read at every looser one, if nothing extends it. -/
theorem yields_parserAt_of_le {floor level : Nat} (le : floor ≤ level) (bounded : level ≤ 9)
    (yields : Yields (parserAt inner level cursor) (value, after))
    (unsigned : level = 9 → cursor.next?.bind UnaryOp.ofToken? = none)
    (ends : Ends floor after.tokens) (unassigned : level ≠ 0 → assigned? cursor = none) :
    Yields (parserAt inner floor cursor) (value, after) := by
  obtain ⟨steps, rfl⟩ := Nat.exists_eq_add_of_le le
  induction steps generalizing floor with
  | zero => exact yields
  | succ steps ih =>
      have shifted : floor + (steps + 1) = floor + 1 + steps := by omega
      rw [shifted] at yields bounded unsigned unassigned
      have tighter := ih (ends.mono (Nat.le_succ floor)) (Nat.le_add_right _ _) bounded yields
        unsigned unassigned
      exact yields_parserAt_of_succ (by omega) tighter (fun last => unsigned (by omega)) ends
        fun _ => unassigned (by omega)

end

/-! ## Left operands -/

/-- A chain of operators has come as far as `left` and goes on at `after`, or it got too deep. -/
def Leads (operand : Parser Expr) (level : Nat) (cursor : Cursor) (left : Expr)
    (after : Cursor) : Prop :=
  ∃ limit taken, after.tokens.length ≤ limit ∧
    (chain operand level cursor =
        chainAfter operand level limit taken left ⟨after.tokens, after.depth + taken⟩ ∨
      chain operand level cursor = .error .tooDeep)

section

variable {operand : Parser Expr} {level : Nat} {cursor after : Cursor} {left : Expr}

/-- A chain starts with an operand. -/
theorem Leads.of_yields (yields : Yields (operand cursor) (left, after)) :
    Leads operand level cursor left after :=
  ⟨after.tokens.length, 0, le_rfl, yields.bind_eq_or _⟩

/-- A chain goes on with an operator of its level and another operand. -/
theorem Leads.next {tokens rest : List Token} {depth : Nat} {op : BinaryOp} {right : Expr}
    (leads : Leads operand op.precedence cursor left ⟨.symbol op.symbol :: tokens, depth⟩)
    (reads : ∀ depth, Yields (operand ⟨tokens, depth⟩) (right, ⟨rest, depth⟩))
    (shorter : rest.length ≤ tokens.length) :
    Leads operand op.precedence cursor (.binary op left right) ⟨rest, depth⟩ := by
  obtain ⟨limit, taken, enough, led⟩ := leads
  obtain ⟨limit, rfl⟩ := Nat.exists_eq_add_one.mpr (Nat.zero_lt_of_lt enough)
  refine ⟨limit, taken + 1, shorter.trans (Nat.le_of_succ_le_succ enough), ?_⟩
  rcases led with led | failed
  · have found : (Cursor.next? ⟨.symbol op.symbol :: tokens, depth + taken⟩).bind
        (ofToken? op.precedence) = some op :=
      (BinaryOp.ofToken?_symbol _ op).trans (if_pos rfl)
    rw [led, chainAfter, found]
    refine ((Cursor.yields_descend tokens (depth + taken)).bind_eq_or _).elim
      (fun descended => ?_) .inr
    exact ((reads (depth + taken + 1)).bind_eq_or _).imp descended.trans descended.trans
  · exact .inr failed

/-- A chain ends where no operator of its level follows. -/
theorem Leads.yields (leads : Leads operand level cursor left after)
    (noOperator : after.next?.bind (ofToken? level) = none) :
    Yields (chain operand level cursor) (left, after) := by
  obtain ⟨limit, taken, -, led | failed⟩ := leads
  · have noOperator : (Cursor.next? ⟨after.tokens, after.depth + taken⟩).bind (ofToken? level) =
        none := noOperator
    refine .inl (led.trans ?_)
    rw [chainAfter_of_none noOperator, Cursor.ascend, Nat.add_sub_cancel]
  · exact .inr failed

end

variable {legible : Float → Prop} (grouping : Grouping)

/-! ## Reading phrases -/

/-- A phrase is read at its own level, and a chain of operators goes on from it. -/
structure Reads (grouping : Grouping) (value : Expr) : Prop where
  own : ∀ (passes depth : Nat) {rest : List Token}, Ends value.level rest →
    Yields (parserAt (expression passes) value.level ⟨grouping.phrase value ++ rest, depth⟩)
      (value, ⟨rest, depth⟩)
  leads : ∀ {level : Nat}, value.level = level + 2 → level < BinaryOp.precedences →
    ∀ (passes depth : Nat) {rest : List Token}, Ends (level + 3) rest →
      Leads (parserAt (expression passes) (level + 3)) level
        ⟨grouping.phrase value ++ rest, depth⟩ value ⟨rest, depth⟩

section

variable {grouping} {value : Expr} (writable : Writable legible value)
  (reads : Reads grouping value)

include writable reads

theorem yields_phrase {floor : Nat} (le : floor ≤ value.level) (passes depth : Nat)
    {rest : List Token} (ends : Ends floor rest) :
    Yields (parserAt (expression passes) floor ⟨grouping.phrase value ++ rest, depth⟩)
      (value, ⟨rest, depth⟩) :=
  yields_parserAt_of_le le (level_le value) (reads.own passes depth (ends.mono le))
    (fun tightest => unsigned_phrase grouping writable tightest rest depth) ends
    fun tight => assigned?_phrase grouping writable tight ends.noAssignment depth

/-- Any expression is read from its phrase. -/
theorem yields_expression (passes depth : Nat) {rest : List Token} (ends : Ends 0 rest) :
    Yields (expression passes ⟨grouping.phrase value ++ rest, depth⟩) (value, ⟨rest, depth⟩) := by
  cases passes with
  | zero => exact .inr rfl
  | succ passes => exact yields_phrase writable reads (Nat.zero_le _) passes depth ends

/-- An expression in parentheses is read at every place. -/
theorem yields_enclosed {floor : Nat} (bounded : floor ≤ 9) (passes depth : Nat)
    {rest : List Token} (ends : Ends floor rest) :
    Yields (parserAt (expression passes) floor
      ⟨parenthesize true (grouping.phrase value) ++ rest, depth⟩) (value, ⟨rest, depth⟩) := by
  have inside := yields_expression writable reads passes (depth + 1)
    (ends_stop (.inl rfl) 0 rest)
  have basic : Yields (parserAt (expression passes) 9
      ⟨parenthesize true (grouping.phrase value) ++ rest, depth⟩) (value, ⟨rest, depth⟩) := by
    have primary_eq : parserAt (expression passes) 9
        ⟨parenthesize true (grouping.phrase value) ++ rest, depth⟩ =
        parenthesized (expression passes)
          ⟨grouping.phrase value ++ .symbol .rightParen :: rest, depth⟩ := by
      simp only [parenthesize, if_true, List.cons_append, List.append_assoc, List.nil_append]
      rfl
    rw [primary_eq]
    exact (Cursor.yields_descend _ depth).bind (inside.bind (yields_ok _))
  exact yields_parserAt_of_le bounded le_rfl basic (fun _ => rfl) ends fun _ => rfl

/-- An expression is read at every place from its phrase there. -/
theorem yields_phraseAt {floor : Nat} (bounded : floor ≤ 9) (passes depth : Nat)
    {rest : List Token} (ends : Ends floor rest) :
    Yields (parserAt (expression passes) floor ⟨grouping.phraseAt floor value ++ rest, depth⟩)
      (value, ⟨rest, depth⟩) := by
  rw [Grouping.phraseAt]
  cases enclosed : grouping.encloses floor value with
  | true => exact yields_enclosed writable reads bounded passes depth ends
  | false =>
      have le : floor ≤ value.level := by
        by_contra loose
        rw [grouping.encloses_of_lt (Nat.not_le.mp loose)] at enclosed
        cases enclosed
      exact yields_phrase writable reads le passes depth ends

/-- Any expression is read from its phrase at a place that requires nothing. -/
theorem yields_anywhere (passes depth : Nat) {rest : List Token} (ends : Ends 0 rest) :
    Yields (expression passes ⟨grouping.phraseAt 0 value ++ rest, depth⟩)
      (value, ⟨rest, depth⟩) := by
  cases passes with
  | zero => exact .inr rfl
  | succ passes => exact yields_phraseAt writable reads (Nat.zero_le _) passes depth ends

/-- A left operand of operators of a level, which may be a chain of such operators itself. -/
theorem leads_phraseAt {level : Nat} (below : level < BinaryOp.precedences) (passes depth : Nat)
    {rest : List Token} (ends : Ends (level + 3) rest) :
    Leads (parserAt (expression passes) (level + 3)) level
      ⟨grouping.phraseAt (level + 2) value ++ rest, depth⟩ value ⟨rest, depth⟩ := by
  have levels : BinaryOp.precedences = 6 := rfl
  rw [Grouping.phraseAt]
  cases enclosed : grouping.encloses (level + 2) value with
  | true => exact .of_yields (yields_enclosed writable reads (by omega) passes depth ends)
  | false =>
      have le : level + 2 ≤ value.level := by
        by_contra loose
        rw [grouping.encloses_of_lt (Nat.not_le.mp loose)] at enclosed
        cases enclosed
      by_cases same : value.level = level + 2
      · exact reads.leads same below passes depth ends
      · exact .of_yields (yields_phrase writable reads (by omega) passes depth ends)

end

/-- Only binary operators make chains. -/
theorem Reads.of_own {value : Expr} (noChain : value.level < 2 ∨ 8 ≤ value.level)
    (own : ∀ (passes depth : Nat) {rest : List Token}, Ends value.level rest →
      Yields (parserAt (expression passes) value.level ⟨grouping.phrase value ++ rest, depth⟩)
        (value, ⟨rest, depth⟩)) : Reads grouping value where
  own := own
  leads same below := by
    have levels : BinaryOp.precedences = 6 := rfl
    omega

theorem reads_literal (value : Value) : Reads grouping (.literal value) := by
  refine Reads.of_own grouping (.inr (Nat.le_succ 8)) fun passes depth rest _ => .inl ?_
  cases value with
  | boolean value => cases value <;> rfl
  | _ => rfl

theorem word_of_isName {inner : Parser Expr} {name : String} (named : IsName name)
    (cursor : Cursor) :
    word inner name cursor =
      if cursor.meets .leftParen then call inner name cursor.advance
      else .ok (.name name, cursor) := by
  have noKeyword := named.2
  simp only [keywords, List.contains_eq_mem, List.mem_cons, List.not_mem_nil,
    decide_eq_false_iff_not, not_or, or_false] at noKeyword
  obtain ⟨-, -, -, true_ne, false_ne, null_ne, undefined_ne⟩ := noKeyword
  simp only [word, true_ne, false_ne, null_ne, undefined_ne, if_false, not_declarator named,
    Bool.false_eq_true]

theorem reads_name {name : String} (named : IsName name) : Reads grouping (.name name) := by
  refine Reads.of_own grouping (.inr (Nat.le_succ 8)) fun passes depth rest ends => .inl ?_
  have word_eq : parserAt (expression passes) 9 ⟨.name name :: rest, depth⟩ =
      word (expression passes) name ⟨rest, depth⟩ := rfl
  have notMet : Cursor.meets .leftParen ⟨rest, depth⟩ = false := decide_eq_false ends.noCall
  change parserAt (expression passes) 9 ⟨.name name :: rest, depth⟩ = _
  rw [word_eq, word_of_isName named, notMet]
  rfl

section

variable {grouping}

theorem reads_unary (op : UnaryOp) {operand : Expr} (writable : Writable legible operand)
    (reads : Reads grouping operand) : Reads grouping (.unary op operand) := by
  refine Reads.of_own grouping (.inr le_rfl) fun passes depth rest ends => ?_
  have inside := yields_phraseAt writable reads (Nat.le_succ 8) passes (depth + 1) ends
  change Yields (unary (primary (expression passes))
    (grouping.phraseAt 8 operand ++ rest).length.succ
    ⟨.symbol op.symbol :: (grouping.phraseAt 8 operand ++ rest), depth⟩) _
  have found : (Cursor.next? ⟨.symbol op.symbol :: (grouping.phraseAt 8 operand ++ rest),
      depth⟩).bind UnaryOp.ofToken? = some op := op.ofToken?_symbol
  rw [unary, found]
  exact (Cursor.yields_descend _ depth).bind (inside.bind (yields_ok _))

theorem reads_binary (op : BinaryOp) {left right : Expr} (leftWritable : Writable legible left)
    (rightWritable : Writable legible right) (leftReads : Reads grouping left)
    (rightReads : Reads grouping right) : Reads grouping (.binary op left right) := by
  have leads (passes depth : Nat) {rest : List Token} (ends : Ends (op.precedence + 3) rest) :
      Leads (parserAt (expression passes) (op.precedence + 3)) op.precedence
        ⟨grouping.phrase (.binary op left right) ++ rest, depth⟩ (.binary op left right)
        ⟨rest, depth⟩ := by
    have bounded := op.precedence_lt
    have levels : BinaryOp.precedences = 6 := rfl
    have first := leads_phraseAt leftWritable leftReads bounded passes depth
      (ends_operator op (grouping.phraseAt (op.precedence + 3) right ++ rest))
    have second (depth : Nat) :=
      yields_phraseAt rightWritable rightReads (by omega) passes depth ends
    have tokens_eq : grouping.phrase (.binary op left right) ++ rest =
        grouping.phraseAt (op.precedence + 2) left ++ .symbol op.symbol ::
          (grouping.phraseAt (op.precedence + 3) right ++ rest) := by
      simp [Grouping.phrase, Grouping.phraseAt]
    rw [tokens_eq]
    exact first.next second (by simp)
  refine ⟨fun passes depth rest ends => ?_, fun {level} same below passes depth rest ends => ?_⟩
  · have led := leads passes depth (ends.mono (Nat.le_succ _))
    change Yields (parserAt (expression passes) (op.precedence + 2) _) _
    rw [parserAt_binary op.precedence_lt]
    exact led.yields (ends.noOperator op.precedence le_rfl)
  · obtain rfl : op.precedence = level := Nat.add_right_cancel same
    exact leads passes depth ends

theorem reads_ternary {condition positive negative : Expr}
    (conditionWritable : Writable legible condition)
    (positiveWritable : Writable legible positive) (negativeWritable : Writable legible negative)
    (conditionReads : Reads grouping condition) (positiveReads : Reads grouping positive)
    (negativeReads : Reads grouping negative) :
    Reads grouping (.ternary condition positive negative) := by
  refine Reads.of_own grouping (.inl (by decide : 1 < 2)) fun passes depth rest ends => ?_
  have tokens_eq : grouping.phrase (.ternary condition positive negative) ++ rest =
      grouping.phraseAt 2 condition ++ .symbol .question ::
        (grouping.phraseAt 0 positive ++ .symbol .colon ::
          (grouping.phraseAt 0 negative ++ rest)) := by
    simp [Grouping.phrase, Grouping.phraseAt]
  have first := yields_phraseAt conditionWritable conditionReads (by decide) passes depth
    (ends_question (grouping.phraseAt 0 positive ++ .symbol .colon ::
      (grouping.phraseAt 0 negative ++ rest)))
  have second := yields_anywhere positiveWritable positiveReads passes (depth + 1)
    (ends_stop (.inr (.inr rfl)) 0 (grouping.phraseAt 0 negative ++ rest))
  have third := yields_anywhere negativeWritable negativeReads passes (depth + 1) ends.of_choice
  rw [tokens_eq]
  refine first.bind ?_
  have met (tokens : List Token) : Cursor.meets .question ⟨.symbol .question :: tokens, depth⟩ :=
    rfl
  dsimp only
  rw [if_pos (met _)]
  exact (Cursor.yields_descend _ depth).bind
    (second.bind ((yields_ok _).bind (third.bind (yields_ok _))))

theorem reads_assign {name : String} {value : Expr} (named : IsName name)
    (writable : Writable legible value) (reads : Reads grouping value) :
    Reads grouping (.assign name value) := by
  refine Reads.of_own grouping (.inl (by decide : 0 < 2)) fun passes depth rest ends => ?_
  have inside := yields_anywhere writable reads passes (depth + 1) ends
  change Yields (assignment (expression passes)
    ⟨.name name :: .symbol .assign :: (grouping.phraseAt 0 value ++ rest), depth⟩) _
  have found : assigned? ⟨.name name :: .symbol .assign :: (grouping.phraseAt 0 value ++ rest),
      depth⟩ = some name := by
    simp only [assigned?, named.2, Bool.false_eq_true, if_false]
  rw [assignment, found]
  exact (Cursor.yields_descend _ depth).bind (inside.bind (yields_ok _))

/-! ## Calls -/

variable {arguments : List Expr} (writable : ∀ argument ∈ arguments, Writable legible argument)
  (reads : ∀ argument ∈ arguments, Reads grouping argument)

theorem le_length_phrasesAfter (values : List Expr) :
    values.length ≤ (grouping.phrasesAfter values).length := by
  induction values with
  | nil => exact Nat.zero_le _
  | cons value values ih =>
      rw [Grouping.phrasesAfter]
      simp only [List.length_cons, List.length_append]
      omega

/-- A closing parenthesis or a comma follows an argument. -/
theorem ends_phrasesAfter (grouping : Grouping) (values : List Expr) (rest : List Token) :
    Ends 0 (grouping.phrasesAfter values ++ .symbol .rightParen :: rest) := by
  cases values with
  | nil => exact ends_stop (.inl rfl) 0 rest
  | cons value values =>
      rw [Grouping.phrasesAfter]
      exact ends_stop (.inr (.inl rfl)) 0 _

include writable reads

theorem yields_argumentsAfter (passes depth : Nat) (rest : List Token) {limit : Nat}
    (enough : arguments.length ≤ limit) :
    Yields (argumentsAfter (expression passes) limit
        ⟨grouping.phrasesAfter arguments ++ .symbol .rightParen :: rest, depth⟩)
      (arguments, ⟨.symbol .rightParen :: rest, depth⟩) := by
  induction arguments generalizing limit with
  | nil => cases limit <;> exact yields_ok _
  | cons value values ih =>
      obtain ⟨limit, rfl⟩ := Nat.exists_eq_add_one.mpr (Nat.zero_lt_of_lt enough)
      obtain ⟨valueWritable, othersWritable⟩ := List.forall_mem_cons.mp writable
      obtain ⟨valueReads, othersRead⟩ := List.forall_mem_cons.mp reads
      have first := yields_anywhere valueWritable valueReads passes depth
        (ends_phrasesAfter grouping values rest)
      have others := ih othersWritable othersRead (Nat.le_of_succ_le_succ enough)
      have tokens_eq : grouping.phrasesAfter (value :: values) ++ .symbol .rightParen :: rest =
          .symbol .comma :: (grouping.phraseAt 0 value ++
            (grouping.phrasesAfter values ++ .symbol .rightParen :: rest)) := by
        simp [Grouping.phrasesAfter, Grouping.phraseAt]
      have met (tokens : List Token) : Cursor.meets .comma ⟨.symbol .comma :: tokens, depth⟩ := rfl
      rw [tokens_eq, argumentsAfter, if_pos (met _)]
      exact first.bind (others.bind (yields_ok _))

/-- Arguments are read up to the closing parenthesis. -/
theorem yields_arguments {first : Expr} (firstWritable : Writable legible first)
    (firstReads : Reads grouping first) (passes depth : Nat) (rest : List Token) :
    Yields (Parser.arguments (expression passes) ⟨grouping.phraseAt 0 first ++
        (grouping.phrasesAfter arguments ++ .symbol .rightParen :: rest), depth⟩)
      (first :: arguments, ⟨.symbol .rightParen :: rest, depth⟩) := by
  obtain ⟨token, tail, phrase_eq, starts⟩ := exists_starts_parenthesize
    (grouping.encloses 0 first) (exists_starts_phrase grouping firstWritable)
  have notMet : ¬ Cursor.meets .rightParen ⟨grouping.phraseAt 0 first ++
      (grouping.phrasesAfter arguments ++ .symbol .rightParen :: rest), depth⟩ = true := by
    rw [Grouping.phraseAt, phrase_eq]
    exact fun met =>
      ne_symbol_of_starts starts (.inl rfl) (Option.some.inj (of_decide_eq_true met))
  have firstRead := yields_anywhere firstWritable firstReads passes depth
    (ends_phrasesAfter grouping arguments rest)
  have enough : arguments.length ≤
      (grouping.phrasesAfter arguments ++ .symbol .rightParen :: rest).length := by
    rw [List.length_append]
    exact Nat.le_add_right_of_le (le_length_phrasesAfter arguments)
  have others := yields_argumentsAfter writable reads passes depth rest enough
  rw [Parser.arguments, if_neg notMet]
  exact firstRead.bind (others.bind (yields_ok _))

theorem reads_call {function : String} (named : IsName function) :
    Reads grouping (.call function arguments) := by
  refine Reads.of_own grouping (.inr (Nat.le_succ 8)) fun passes depth rest _ => ?_
  have called (tokens : List Token) :
      parserAt (expression passes) 9
        ⟨.name function :: .symbol .leftParen :: tokens, depth⟩ =
          call (expression passes) function ⟨tokens, depth⟩ := by
    have word_eq : parserAt (expression passes) 9
        ⟨.name function :: .symbol .leftParen :: tokens, depth⟩ =
          word (expression passes) function ⟨.symbol .leftParen :: tokens, depth⟩ := rfl
    rw [word_eq, word_of_isName named]
    rfl
  cases arguments with
  | nil =>
      change Yields (parserAt (expression passes) 9
        ⟨.name function :: .symbol .leftParen :: .symbol .rightParen :: rest, depth⟩) _
      rw [called]
      exact (Cursor.yields_descend _ depth).bind (yields_ok _)
  | cons first others =>
      obtain ⟨firstWritable, othersWritable⟩ := List.forall_mem_cons.mp writable
      obtain ⟨firstReads, othersRead⟩ := List.forall_mem_cons.mp reads
      have given := yields_arguments othersWritable othersRead firstWritable firstReads passes
        (depth + 1) rest
      have tokens_eq : grouping.phrase (.call function (first :: others)) ++ rest =
          .name function :: .symbol .leftParen :: (grouping.phraseAt 0 first ++
            (grouping.phrasesAfter others ++ .symbol .rightParen :: rest)) := by
        simp [Grouping.phrase, Grouping.phraseAt]
      change Yields (parserAt (expression passes) 9 _) _
      rw [tokens_eq, called]
      exact (Cursor.yields_descend _ depth).bind (given.bind (yields_ok _))

end

/-! ## Scripts -/

/-- Every writable expression is read from its phrase. -/
theorem reads_of_writable {value : Expr} (writable : Writable legible value) :
    Reads grouping value := by
  induction writable with
  | number => exact reads_literal grouping _
  | literal => exact reads_literal grouping _
  | name named => exact reads_name grouping named
  | unary op operandWritable operandReads => exact reads_unary op operandWritable operandReads
  | binary op leftWritable rightWritable leftReads rightReads =>
      exact reads_binary op leftWritable rightWritable leftReads rightReads
  | ternary conditionWritable positiveWritable negativeWritable conditionReads positiveReads
      negativeReads =>
      exact reads_ternary conditionWritable positiveWritable negativeWritable conditionReads
        positiveReads negativeReads
  | assign named valueWritable valueReads => exact reads_assign named valueWritable valueReads
  | call named argumentsWritable argumentsRead =>
      exact reads_call argumentsWritable argumentsRead named

/-- A script may be a single expression. -/
theorem yields_statements {token : Token} {tail : List Token} {value : Expr} {depth : Nat}
    (noSemicolon : token ≠ .symbol .semi)
    (noDeclaration : startsDeclaration ⟨token :: tail, 0⟩ = false)
    (yields : Yields (anyExpression ⟨token :: tail, 0⟩) (value, ⟨[], depth⟩)) :
    Yields (statements (token :: tail).length ⟨token :: tail, 0⟩) [.expr value] := by
  have unskipped : skipSemicolons ⟨token :: tail, 0⟩ = ⟨token :: tail, 0⟩ := by
    simp [skipSemicolons, noSemicolon]
  have others : statements tail.length ⟨[], depth⟩ = .ok [] := by
    cases tail.length <;> rfl
  have first : Yields (statement ⟨token :: tail, 0⟩) (.expr value, ⟨[], depth⟩) := by
    rw [statement, noDeclaration, if_neg Bool.false_ne_true]
    exact yields.bind (yields_ok _)
  rw [List.length_cons, statements]
  dsimp only
  rw [unskipped, if_neg (by simp)]
  refine first.bind ?_
  dsimp only
  rw [others]
  exact yields_ok _

/-- The script whose tokens are the phrase of an expression holds this expression. -/
theorem yields_program {code : String} {value : Expr} (writable : Writable legible value)
    (lexed : Lexer.tokens code.toList = .ok (grouping.phraseAt 0 value)) :
    Yields (program code) [.expr value] := by
  obtain ⟨token, tail, phrase_eq, starts⟩ := exists_starts_parenthesize
    (grouping.encloses 0 value) (exists_starts_phrase grouping writable)
  have noDeclaration : startsDeclaration ⟨token :: tail, 0⟩ = false := by
    cases token with
    | name name => exact starts
    | _ => rfl
  have read := yields_anywhere writable (reads_of_writable grouping writable) (maxDepth + 1) 0
    (ends_nil 0)
  rw [Grouping.phraseAt, phrase_eq] at lexed
  rw [List.append_nil, Grouping.phraseAt, phrase_eq] at read
  rw [program, lexed]
  exact (yields_ok _).bind
    (yields_statements (ne_symbol_of_starts starts (.inr rfl)) noDeclaration read)

end Parser

end Script
end ChatMacro
