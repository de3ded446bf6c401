import ChatMacro.Proofs.Script.Binding

/-!
# Names that are not bound

A script fails for want of a name exactly where it comes to an expression that reads or assigns a
name which is not bound.  An expression comes to its parts in the order in which they are run, as
far as the parts before them have values and the conditions choose them.
-/

namespace ChatMacro
namespace Script

/-! ## Errors of functions and operators -/

/-- An outcome that is not the error for a name which is not bound. -/
def Named {Result : Type} (outcome : Except Error Result) : Prop :=
  ∀ name, outcome ≠ .error (.running (.undefinedName name))

theorem named_ok {Result : Type} (result : Result) : Named (.ok result : Except Error Result) :=
  fun _ same => nomatch same

theorem Named.bind {First Second : Type} {outcome : Except Error First}
    {next : First → Except Error Second} (named : Named outcome)
    (nextNamed : ∀ result, Named (next result)) : Named (outcome >>= next) := by
  intro name failed
  cases outcome with
  | ok result => exact nextNamed result name failed
  | error error =>
      have same : error = .running (.undefinedName name) := Except.error.inj failed
      exact named name (congrArg _ same)

theorem named_bounded (producer text : String) : Named (Value.bounded producer text) := by
  intro name failed
  rw [Value.bounded] at failed
  split at failed <;> cases failed

theorem named_extendTemplate (text addition : String) : Named (extendTemplate text addition) := by
  intro name failed
  rw [extendTemplate] at failed
  split at failed <;> cases failed

theorem named_binaryApply (op : BinaryOp) (left right : Value) : Named (op.apply left right) := by
  cases op with
  | add =>
      rw [BinaryOp.apply, Value.add]
      split
      · exact named_bounded _ _
      · exact named_ok _
  | sub | mul | div | rem | eq | ne | strictEq | strictNe | lt | le | gt | ge | and | or =>
      exact named_ok _

namespace Function

variable (function : Function) (arguments : List Value) (index : Nat)

theorem named_textArgument : Named (function.textArgument arguments index) := by
  intro name failed
  rw [textArgument, argument] at failed
  split at failed <;> cases failed

theorem named_numberArgument : Named (function.numberArgument arguments index) := by
  intro name failed
  rw [numberArgument, argument] at failed
  split at failed <;> cases failed

theorem named_repeatText (text : List Char) (count : Float) : Named (repeatText text count) := by
  intro name failed
  rw [repeatText] at failed
  split at failed
  · cases failed
  · split at failed
    · cases failed
    · split at failed <;> cases failed

theorem named_between (low high : Float) (outcome : Nat) : Named (between low high outcome) := by
  intro name failed
  rw [between] at failed
  split at failed <;> cases failed

theorem named_pickFrom (outcome : Nat) : Named (pickFrom arguments outcome) := by
  intro name failed
  rw [pickFrom] at failed
  split at failed <;> cases failed

theorem named_apply (outcome : Nat) : Named (function.apply arguments outcome) := by
  have text := named_textArgument function arguments
  have number := named_numberArgument function arguments
  cases function with
  | len | trim => exact (text 0).bind fun _ => named_ok _
  | upper | lower => exact (text 0).bind fun _ => named_bounded _ _
  | substr => exact (text 0).bind fun _ => (number 1).bind fun _ => named_ok _
  | replace =>
      refine (text 0).bind fun _ => (text 1).bind fun _ => (text 2).bind fun _ => ?_
      split
      · exact named_ok _
      · exact named_bounded _ _
  | repeated => exact (text 0).bind fun _ => (number 1).bind fun _ => named_repeatText _ _
  | abs | floor | ceil | round => exact (number 0).bind fun _ => named_ok _
  | randint => exact (number 0).bind fun _ => (number 1).bind fun _ => named_between _ _ _
  | pick => exact named_pickFrom arguments outcome
  | string | number | min | max | random => exact named_ok _

end Function

theorem Run.named_call (outcomes : Outcomes) (name : String) (arguments : List Value)
    (scope : Scope) : Named (call outcomes name arguments scope).1 := by
  rw [call]
  split
  · intro error same
    cases same
  · exact Function.named_apply _ _ _

/-! ## Parts that are run -/

section

variable (outcomes : Outcomes)

theorem runParts_append (text : String) (front back : List TemplatePart) :
    runParts outcomes text (front ++ back) =
      runParts outcomes text front >>= fun text => runParts outcomes text back := by
  induction front generalizing text with
  | nil =>
      rw [List.nil_append, runParts]
      rfl
  | cons part front ih =>
      rw [List.cons_append, runParts, runParts]
      simp only [ih, Run.bind_assoc]

theorem runArguments_append (front back : List Expr) :
    runArguments outcomes (front ++ back) = (do
      let values ← runArguments outcomes front
      let others ← runArguments outcomes back
      return values ++ others) := by
  induction front with
  | nil =>
      rw [List.nil_append, runArguments]
      exact (Run.bind_pure _).symm
  | cons argument front ih =>
      rw [List.cons_append, runArguments, runArguments]
      simp only [ih, Run.bind_assoc]
      rfl

/-- To run the first expression in the first scope is to run the second one, which is a part of it,
in the second scope next. -/
inductive Visits : Expr × Scope → Expr × Scope → Prop where
  | operand {op : UnaryOp} {operand : Expr} {scope : Scope} :
      Visits (.unary op operand, scope) (operand, scope)
  | left {op : BinaryOp} {left right : Expr} {scope : Scope} :
      Visits (.binary op left right, scope) (left, scope)
  | right {op : BinaryOp} {left right : Expr} {scope after : Scope} {value : Value}
      (ran : left.run outcomes scope = (.ok value, after))
      (undecided : op.decidedBy value = false) :
      Visits (.binary op left right, scope) (right, after)
  | condition {condition positive negative : Expr} {scope : Scope} :
      Visits (.ternary condition positive negative, scope) (condition, scope)
  | positive {condition positive negative : Expr} {scope after : Scope} {value : Value}
      (ran : condition.run outcomes scope = (.ok value, after)) (truthy : value.truthy = true) :
      Visits (.ternary condition positive negative, scope) (positive, after)
  | negative {condition positive negative : Expr} {scope after : Scope} {value : Value}
      (ran : condition.run outcomes scope = (.ok value, after)) (falsy : value.truthy = false) :
      Visits (.ternary condition positive negative, scope) (negative, after)
  | assigned {name : String} {value : Expr} {scope : Scope} (bound : name ∈ scope.names) :
      Visits (.assign name value, scope) (value, scope)
  | part {front back : List TemplatePart} {value : Expr} {scope after : Scope} {text : String}
      (ran : runParts outcomes "" front scope = (.ok text, after)) :
      Visits (.template (front ++ .expr value :: back), scope) (value, after)
  | argument {function : String} {front back : List Expr} {argument : Expr} {scope after : Scope}
      {values : List Value} (ran : runArguments outcomes front scope = (.ok values, after)) :
      Visits (.call function (front ++ argument :: back), scope) (argument, after)

/-- To run the first expression in the first scope comes to running the second in the second. -/
def Reaches : Expr × Scope → Expr × Scope → Prop :=
  Relation.ReflTransGen (Visits outcomes)

variable {outcomes} {outer inner : Expr} {scope middle after : Scope} {error : Error}

theorem Visits.names_eq (visits : Visits outcomes (outer, scope) (inner, middle)) :
    middle.names = scope.names := by
  cases visits with
  | operand | left | condition | assigned => rfl
  | right ran | positive ran | negative ran =>
      exact (Expr.run_bindsNothing outcomes _).names_eq ran
  | part ran => exact (runParts_bindsNothing outcomes "" _).names_eq ran
  | argument ran => exact (runArguments_bindsNothing outcomes _).names_eq ran

/-- An expression fails with the part that is run next. -/
theorem Visits.run_of_error (visits : Visits outcomes (outer, scope) (inner, middle))
    (failed : inner.run outcomes middle = (.error error, after)) :
    outer.run outcomes scope = (.error error, after) := by
  cases visits with
  | operand | left | condition =>
      rw [Expr.run]
      exact Run.bind_of_error failed
  | right ran undecided =>
      rw [Expr.run, Run.bind_of_ok ran, if_neg (Bool.not_eq_true _ ▸ undecided)]
      exact Run.bind_of_error failed
  | positive ran truthy =>
      rw [Expr.run, Run.bind_of_ok ran, if_pos truthy]
      exact failed
  | negative ran falsy =>
      rw [Expr.run, Run.bind_of_ok ran, if_neg (Bool.not_eq_true _ ▸ falsy)]
      exact failed
  | assigned bound =>
      rw [Expr.run_assign_of_mem outcomes bound]
      exact Run.bind_of_error failed
  | part ran =>
      rw [Expr.run, runParts_append, Run.bind_assoc, Run.bind_of_ok ran, runParts, Run.bind_assoc,
        TemplatePart.run, Run.bind_assoc]
      exact Run.bind_of_error failed
  | argument ran =>
      rw [Expr.run, runArguments_append, Run.bind_assoc, Run.bind_of_ok ran, runArguments,
        Run.bind_assoc, Run.bind_assoc]
      exact Run.bind_of_error failed

/-- An expression that reads or assigns a name. -/
inductive Expr.Uses (name : String) : Expr → Prop where
  | read : Uses name (.name name)
  | assign (value : Expr) : Uses name (.assign name value)

theorem Expr.Uses.run_eq {use : Expr} {name : String} (uses : use.Uses name)
    (unbound : name ∉ scope.names) :
    use.run outcomes scope = (.error (.running (.undefinedName name)), scope) := by
  cases uses with
  | read =>
      rw [Expr.run]
      exact Run.read_of_notMem unbound
  | assign value => exact run_assign_of_notMem outcomes unbound value

theorem Reaches.names_eq {start final : Expr × Scope} (reaches : Reaches outcomes start final) :
    final.2.names = start.2.names := by
  induction reaches using Relation.ReflTransGen.head_induction_on with
  | refl => rfl
  | head visits _ ih => exact ih.trans visits.names_eq

/-- An expression fails with what it comes to. -/
theorem Reaches.run_of_error {start final : Expr × Scope} (reaches : Reaches outcomes start final)
    (failed : final.1.run outcomes final.2 = (.error error, after)) :
    start.1.run outcomes start.2 = (.error error, after) := by
  induction reaches using Relation.ReflTransGen.head_induction_on with
  | refl => exact failed
  | head visits _ ih => exact visits.run_of_error ih

/-! ## Failures for want of a name -/

variable (outcomes) in
/-- To run an expression comes to a use of a name that is not bound. -/
def Misses (name : String) (expression : Expr) (scope after : Scope) : Prop :=
  ∃ use, Reaches outcomes (expression, scope) (use, after) ∧ use.Uses name ∧ name ∉ after.names

variable {name : String}

theorem Visits.misses (visits : Visits outcomes (outer, scope) (inner, middle))
    (misses : Misses outcomes name inner middle after) :
    Misses outcomes name outer scope after := by
  obtain ⟨use, reaches, uses, unbound⟩ := misses
  exact ⟨use, reaches.head visits, uses, unbound⟩

theorem Expr.Uses.misses {use : Expr} (uses : use.Uses name) (unbound : name ∉ scope.names) :
    Misses outcomes name use scope scope :=
  ⟨use, .refl, uses, unbound⟩

mutual

theorem Expr.misses_of_run : ∀ (expression : Expr) {scope after : Scope},
    expression.run outcomes scope = (.error (.running (.undefinedName name)), after) →
    Misses outcomes name expression scope after
  | .literal value, scope, after, failed => by
      rw [Expr.run] at failed
      cases failed
  | .name other, scope, after, failed => by
      rw [Expr.run] at failed
      by_cases bound : other ∈ scope.names
      · obtain ⟨value, found⟩ := Run.exists_read_of_mem bound
        rw [found] at failed
        cases failed
      · rw [Run.read_of_notMem bound] at failed
        cases failed
        exact Expr.Uses.read.misses bound
  | .template parts, scope, after, failed => by
      rw [Expr.run] at failed
      rcases Run.bind_eq_error failed with inParts | ⟨text, middle, -, ended⟩
      · obtain ⟨front, value, back, text, middle, rfl, ran, misses⟩ :=
          exists_part_of_run "" parts inParts
        exact (Visits.part ran).misses misses
      · cases ended
  | .unary op operand, scope, after, failed => by
      rw [Expr.run] at failed
      rcases Run.bind_eq_error failed with inOperand | ⟨value, middle, -, ended⟩
      · exact Visits.operand.misses (operand.misses_of_run inOperand)
      · cases ended
  | .binary op left right, scope, after, failed => by
      rw [Expr.run] at failed
      rcases Run.bind_eq_error failed with inLeft | ⟨value, middle, ran, next⟩
      · exact Visits.left.misses (left.misses_of_run inLeft)
      · cases undecided : op.decidedBy value with
        | true =>
            rw [if_pos undecided] at next
            cases next
        | false =>
            rw [if_neg (Bool.not_eq_true _ ▸ undecided)] at next
            rcases Run.bind_eq_error next with inRight | ⟨other, last, -, ended⟩
            · exact (Visits.right ran undecided).misses (right.misses_of_run inRight)
            · exact absurd (congrArg Prod.fst ended) (named_binaryApply op value other name)
  | .ternary condition positive negative, scope, after, failed => by
      rw [Expr.run] at failed
      rcases Run.bind_eq_error failed with inCondition | ⟨value, middle, ran, next⟩
      · exact Visits.condition.misses (condition.misses_of_run inCondition)
      · cases chosen : value.truthy with
        | true =>
            rw [if_pos chosen] at next
            exact (Visits.positive ran chosen).misses (positive.misses_of_run next)
        | false =>
            rw [if_neg (Bool.not_eq_true _ ▸ chosen)] at next
            exact (Visits.negative ran chosen).misses (negative.misses_of_run next)
  | .assign other value, scope, after, failed => by
      by_cases bound : other ∈ scope.names
      · rw [Expr.run_assign_of_mem outcomes bound] at failed
        rcases Run.bind_eq_error failed with inValue | ⟨result, middle, -, ended⟩
        · exact (Visits.assigned bound).misses (value.misses_of_run inValue)
        · cases ended
      · rw [Expr.run_assign_of_notMem outcomes bound] at failed
        cases failed
        exact (Expr.Uses.assign value).misses bound
  | .call function arguments, scope, after, failed => by
      rw [Expr.run] at failed
      rcases Run.bind_eq_error failed with inArguments | ⟨values, middle, -, ended⟩
      · obtain ⟨front, argument, back, values, middle, rfl, ran, misses⟩ :=
          exists_argument_of_run arguments inArguments
        exact (Visits.argument ran).misses misses
      · exact absurd (congrArg Prod.fst ended) (Run.named_call outcomes function values middle name)

theorem exists_part_of_run (text : String) : ∀ (parts : List TemplatePart) {scope after : Scope},
    runParts outcomes text parts scope = (.error (.running (.undefinedName name)), after) →
    ∃ front value back longer middle, parts = front ++ .expr value :: back ∧
      runParts outcomes text front scope = (.ok longer, middle) ∧
      Misses outcomes name value middle after
  | [], scope, after, failed => by
      rw [runParts] at failed
      cases failed
  | part :: parts, scope, after, failed => by
      rw [runParts] at failed
      rcases Run.bind_eq_error failed with inPart | ⟨addition, middle, ran, next⟩
      · cases part with
        | text value =>
            rw [TemplatePart.run] at inPart
            cases inPart
        | expr value =>
            rw [TemplatePart.run] at inPart
            rcases Run.bind_eq_error inPart with inValue | ⟨result, middle, -, ended⟩
            · exact ⟨[], value, parts, text, scope, rfl, by rw [runParts]; rfl,
                value.misses_of_run inValue⟩
            · cases ended
      · rcases Run.bind_eq_error next with tooLong | ⟨longer, last, extended, later⟩
        · exact absurd (congrArg Prod.fst tooLong) (named_extendTemplate text addition name)
        · obtain ⟨front, value, back, longest, before, rfl, frontRan, misses⟩ :=
            exists_part_of_run longer parts later
          refine ⟨part :: front, value, back, longest, before, rfl, ?_, misses⟩
          rw [runParts, Run.bind_of_ok ran, Run.bind_of_ok extended, frontRan]

theorem exists_argument_of_run : ∀ (arguments : List Expr) {scope after : Scope},
    runArguments outcomes arguments scope = (.error (.running (.undefinedName name)), after) →
    ∃ front argument back values middle, arguments = front ++ argument :: back ∧
      runArguments outcomes front scope = (.ok values, middle) ∧
      Misses outcomes name argument middle after
  | [], scope, after, failed => by
      rw [runArguments] at failed
      cases failed
  | argument :: arguments, scope, after, failed => by
      rw [runArguments] at failed
      rcases Run.bind_eq_error failed with inFirst | ⟨value, middle, ran, next⟩
      · exact ⟨[], argument, arguments, [], scope, rfl, by rw [runArguments]; rfl,
          argument.misses_of_run inFirst⟩
      · rcases Run.bind_eq_error next with inOthers | ⟨values, last, -, ended⟩
        · obtain ⟨front, other, back, values, before, rfl, frontRan, misses⟩ :=
            exists_argument_of_run arguments inOthers
          refine ⟨argument :: front, other, back, value :: values, before, rfl, ?_, misses⟩
          rw [runArguments, Run.bind_of_ok ran, Run.bind_of_ok frontRan]
          rfl
        · cases ended

end

variable {statements : List Statement}

variable (outcomes) in
/-- A script comes to an expression: the statements in front of one of its statements have a result,
and the expression of that statement comes to it. -/
def ComesTo (statements : List Statement) (scope : Scope) (front : List Statement) (inner : Expr)
    (after : Scope) : Prop :=
  ∃ statement back value before, statements = front ++ statement :: back ∧
    runStatements outcomes .undefined front scope = (.ok value, before) ∧
    Reaches outcomes (statement.value, before) (inner, after)

/-- A script fails with the expression of one of its statements. -/
theorem exists_statement_of_error {last : Value}
    (failed : runStatements outcomes last statements scope = (.error error, after)) :
    ∃ front statement back value before, statements = front ++ statement :: back ∧
      runStatements outcomes last front scope = (.ok value, before) ∧
      statement.value.run outcomes before = (.error error, after) := by
  induction statements generalizing last scope with
  | nil =>
      rw [runStatements] at failed
      cases failed
  | cons statement statements ih =>
      rw [runStatements_cons] at failed
      rcases Run.bind_eq_error failed with here | ⟨operand, middle, evaluated, next⟩
      · exact ⟨[], statement, statements, last, scope, rfl, by rw [runStatements]; rfl, here⟩
      · obtain ⟨result, finishedScope, finished, -⟩ := statement.exists_finish last operand middle
        rw [Run.bind_of_ok finished] at next
        obtain ⟨front, other, back, value, before, rfl, ran, there⟩ := ih next
        refine ⟨statement :: front, other, back, value, before, rfl, ?_, there⟩
        rw [runStatements_cons, Run.bind_of_ok evaluated, Run.bind_of_ok finished, ran]

/-- A script fails with what it comes to. -/
theorem ComesTo.run_of_error {front : List Statement}
    (comesTo : ComesTo outcomes statements scope front inner middle)
    (failed : inner.run outcomes middle = (.error error, after)) :
    runStatements outcomes .undefined statements scope = (.error error, after) := by
  obtain ⟨statement, back, value, before, rfl, ran, reaches⟩ := comesTo
  rw [runStatements_append, Run.bind_of_ok ran, runStatements_cons]
  exact Run.bind_of_error (reaches.run_of_error failed)

/-- Where a script comes to an expression, the names are those of the scope that it started in and
the ones that are declared by the statements in front. -/
theorem ComesTo.mem_names {front : List Statement}
    (comesTo : ComesTo outcomes statements scope front inner middle) :
    name ∈ middle.names ↔ name ∈ scope.names ∨ name ∈ declared front := by
  obtain ⟨statement, back, value, before, -, ran, reaches⟩ := comesTo
  rw [reaches.names_eq]
  exact mem_names_runStatements ran

/-- Only declarations bind names.  An expression leaves the names of its scope as they are, whether
it has a value or fails.  After a script that has a result the names are those from before and the
ones that it declares.  And a script fails because a name is not bound exactly if it comes to an
expression that reads or assigns a name which was bound neither at the start nor by a declaration in
an earlier statement; it fails there, in the scope in which it comes to the expression. -/
theorem declarations_bind (outcomes : Outcomes) (scope : Scope) :
    (∀ expression : Expr, (expression.run outcomes scope).2.names = scope.names) ∧
    (∀ statements value after,
      runStatements outcomes .undefined statements scope = (.ok value, after) →
      ∀ name, name ∈ after.names ↔ name ∈ scope.names ∨ name ∈ declared statements) ∧
    ∀ statements name after,
      runStatements outcomes .undefined statements scope =
          (.error (.running (.undefinedName name)), after) ↔
        ∃ front use, ComesTo outcomes statements scope front use after ∧ use.Uses name ∧
          name ∉ scope.names ∧ name ∉ declared front := by
  refine ⟨fun expression => expression.run_bindsNothing outcomes scope,
    fun statements value after ran name => mem_names_runStatements ran, ?_⟩
  intro statements name after
  constructor
  · intro failed
    obtain ⟨front, statement, back, value, before, split, ran, inside⟩ :=
      exists_statement_of_error failed
    obtain ⟨use, reaches, uses, unbound⟩ := statement.value.misses_of_run inside
    have comesTo : ComesTo outcomes statements scope front use after :=
      ⟨statement, back, value, before, split, ran, reaches⟩
    rw [comesTo.mem_names, not_or] at unbound
    exact ⟨front, use, comesTo, uses, unbound⟩
  · rintro ⟨front, use, comesTo, uses, unbound⟩
    rw [← not_or, ← comesTo.mem_names] at unbound
    exact comesTo.run_of_error (uses.run_eq unbound)

end

/-- An assignment inside an interpolation inside an argument behind a connective. -/
theorem declarations_bind_interpolated :
    let outcomes : Outcomes := fun _ => 0
    let front : List Statement := [.declare "a" (.literal (.text "x"))]
    let use : Expr := .assign "b" (.literal .null)
    let statement : Statement :=
      .expr (.binary .and (.name "a") (.call "upper" [.template [.text "-", .expr use]]))
    let middle := (runStatements outcomes .undefined front Scope.empty).2
    (∀ name, name ∈ middle.names ↔ name ∈ Scope.empty.names ∨ name ∈ declared front) ∧
      runStatements outcomes .undefined (front ++ [statement]) Scope.empty =
        (.error (.running (.undefinedName "b")), middle) := by
  intro outcomes front use statement middle
  have declares : runStatements outcomes .undefined front Scope.empty = (.ok .undefined, middle) :=
    rfl
  have left : (Expr.name "a").run outcomes middle = (.ok (.text "x"), middle) := rfl
  have chosen : Visits outcomes (statement.value, middle)
      (.call "upper" [.template [.text "-", .expr use]], middle) := .right left rfl
  have noArguments : runArguments outcomes [] middle = (.ok [], middle) := rfl
  have argument : Visits outcomes (.call "upper" [.template [.text "-", .expr use]], middle)
      (.template [.text "-", .expr use], middle) := .argument noArguments
  have dash : runParts outcomes "" [.text "-"] middle = (.ok "-", middle) := rfl
  have part : Visits outcomes (.template [.text "-", .expr use], middle) (use, middle) := .part dash
  have reaches : Reaches outcomes (statement.value, middle) (use, middle) :=
    .head chosen (.head argument (.single part))
  obtain ⟨-, names, fails⟩ := declarations_bind outcomes Scope.empty
  refine ⟨names front .undefined middle declares, (fails _ "b" middle).mpr ⟨front, use, ?_, ?_⟩⟩
  · exact ⟨statement, [], .undefined, middle, rfl, declares, reaches⟩
  · exact ⟨.assign _, by decide, by decide⟩

end Script
end ChatMacro
