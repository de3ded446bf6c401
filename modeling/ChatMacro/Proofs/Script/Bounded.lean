import ChatMacro.Proofs.Number.Length
import ChatMacro.Proofs.Outcome
import ChatMacro.Script.Run

/-!
# Bounded texts

Scripts cannot build long texts.  Every operator and function that could is checked, and the others
give parts or copies of what they get.  So if the literals of a script and the scope that it starts
in are short, every text that it ever binds or ends with is short too.
-/

namespace ChatMacro
namespace Script

open Outcome (exists_of_bind_eq_ok)

namespace Value

/-- Whether a value is no text that is longer than scripts may build. -/
def fits : Value → Bool
  | text value => value.length ≤ maxLength
  | _ => true

theorem fits_text_iff {text : String} : (Value.text text).fits = true ↔ text.length ≤ maxLength :=
  decide_eq_true_iff

theorem length_display_le {value : Value} (short : value.fits = true) :
    value.display.length ≤ maxLength := by
  cases value with
  | undefined | null => decide
  | boolean value => cases value <;> decide
  | number value => exact (Numeral.length_display_le value).trans (by decide)
  | text value => exact fits_text_iff.mp short

theorem fits_of_bounded {producer text : String} {value : Value}
    (built : bounded producer text = .ok value) : value.fits = true := by
  rw [bounded] at built
  split at built
  · cases built
  next short =>
    cases built
    exact fits_text_iff.mpr (Nat.not_lt.mp short)

theorem fits_of_add {left right value : Value} (added : left.add right = .ok value) :
    value.fits = true := by
  rw [add] at added
  split at added
  · exact fits_of_bounded added
  · cases added
    rfl

end Value

namespace Function

variable {function : Function} {arguments : List Value} {index : Nat}

theorem fits_ofChars_iff {text : List Char} :
    (ofChars text).fits = true ↔ text.length ≤ maxLength := by
  rw [ofChars, Value.fits_text_iff, String.length_ofList]

theorem length_of_textArgument {text : List Char}
    (short : ∀ argument ∈ arguments, argument.fits = true)
    (found : function.textArgument arguments index = .ok text) : text.length ≤ maxLength := by
  rw [textArgument, argument] at found
  split at found
  next value at_index =>
    cases found
    rw [String.length_toList]
    exact Value.length_display_le (short value (List.mem_of_getElem? at_index))
  next => cases found

theorem length_trim_le (text : List Char) : (Text.trim text).length ≤ text.length := by
  rw [Text.trim, Text.trimEnd, List.length_reverse]
  calc ((Text.trimStart text).reverse.dropWhile Text.isBlank).length
      ≤ (Text.trimStart text).reverse.length := List.length_dropWhile_le _ _
    _ = (text.dropWhile Text.isBlank).length := List.length_reverse
    _ ≤ text.length := List.length_dropWhile_le _ _

theorem length_slice_le (text : List Char) (start : Float) (count : Option Float) :
    (slice text start count).length ≤ text.length := by
  cases count <;> simp only [slice, List.length_take, List.length_drop] <;> omega

theorem fits_of_repeatText {text : List Char} {count : Float} {value : Value}
    (repeated : repeatText text count = .ok value) : value.fits = true := by
  rw [repeatText] at repeated
  split_ifs at repeated with invalid tooLong empty
  · cases repeated
    exact fits_ofChars_iff.mpr (Nat.zero_le _)
  · cases repeated
    rw [fits_ofChars_iff, List.length_flatten, List.map_replicate, List.sum_replicate,
      smul_eq_mul, Nat.mul_comm]
    exact Nat.not_lt.mp tooLong

/-- A function that gets short texts gives a short text, if any. -/
theorem fits_of_apply {outcome : Nat} {value : Value}
    (short : ∀ argument ∈ arguments, argument.fits = true)
    (applied : function.apply arguments outcome = .ok value) : value.fits = true := by
  cases function with
  | upper | lower =>
      obtain ⟨whole, -, built⟩ := exists_of_bind_eq_ok applied
      exact Value.fits_of_bounded built
  | trim =>
      obtain ⟨whole, whole_eq, built⟩ := exists_of_bind_eq_ok applied
      cases built
      exact fits_ofChars_iff.mpr <|
        (length_trim_le whole).trans (length_of_textArgument short whole_eq)
  | substr =>
      obtain ⟨whole, whole_eq, sliced⟩ := exists_of_bind_eq_ok applied
      obtain ⟨start, -, built⟩ := exists_of_bind_eq_ok sliced
      cases built
      exact fits_ofChars_iff.mpr <|
        (length_slice_le whole start _).trans (length_of_textArgument short whole_eq)
  | replace =>
      obtain ⟨whole, whole_eq, replaced⟩ := exists_of_bind_eq_ok applied
      obtain ⟨sought, -, replaced⟩ := exists_of_bind_eq_ok replaced
      obtain ⟨replacement, -, built⟩ := exists_of_bind_eq_ok replaced
      split at built
      · cases built
        exact fits_ofChars_iff.mpr (length_of_textArgument short whole_eq)
      · exact Value.fits_of_bounded built
  | repeated =>
      obtain ⟨whole, -, counted⟩ := exists_of_bind_eq_ok applied
      obtain ⟨count, -, built⟩ := exists_of_bind_eq_ok counted
      exact fits_of_repeatText built
  | string =>
      cases applied
      rw [Value.fits_text_iff]
      cases arguments with
      | nil => decide
      | cons argument arguments =>
          exact Value.length_display_le (short argument List.mem_cons_self)
  | pick =>
      simp only [apply, pickFrom] at applied
      split at applied
      next picked at_index =>
        cases applied
        exact short value (List.mem_of_getElem? at_index)
      next => cases applied
  | randint =>
      obtain ⟨low, -, applied⟩ := exists_of_bind_eq_ok applied
      obtain ⟨high, -, applied⟩ := exists_of_bind_eq_ok applied
      rw [between] at applied
      split at applied <;> cases applied
      rfl
  | len | abs | floor | ceil | round =>
      obtain ⟨operand, -, computed⟩ := exists_of_bind_eq_ok applied
      cases computed
      rfl
  | number | min | max | random =>
      cases applied
      rfl

end Function

theorem fits_of_unaryApply {op : UnaryOp} {operand : Value} : (op.apply operand).fits = true := by
  cases op <;> rfl

theorem fits_of_binaryApply {op : BinaryOp} {left right value : Value}
    (leftShort : left.fits = true) (rightShort : right.fits = true)
    (applied : op.apply left right = .ok value) : value.fits = true := by
  cases op with
  | add => exact Value.fits_of_add applied
  | and | or =>
      cases applied
      split <;> assumption
  | sub | mul | div | rem | eq | ne | strictEq | strictNe | lt | le | gt | ge =>
      cases applied
      rfl

theorem length_of_extendTemplate {text addition extended : String}
    (built : extendTemplate text addition = .ok extended) : extended.length ≤ maxLength := by
  rw [extendTemplate] at built
  split at built
  · cases built
  next short =>
    cases built
    exact Nat.not_lt.mp short

namespace Scope

/-- Whether no text in a scope is longer than scripts may build. -/
def fits (scope : Scope) : Bool :=
  scope.bindings.all fun binding => binding.2.fits

theorem fits_of_find? {scope : Scope} (short : scope.fits = true) {name : String} {value : Value}
    (found : scope.find? name = some value) : value.fits = true := by
  obtain ⟨front, back, bindings_eq, -⟩ := List.lookup_eq_some_iff.mp found
  refine List.all_eq_true.mp short (name, value) ?_
  rw [bindings_eq]
  exact List.mem_append_right _ List.mem_cons_self

theorem fits_bind {scope : Scope} (short : scope.fits = true) (name : String) {value : Value}
    (valueShort : value.fits = true) : (scope.bind name value).fits = true := by
  obtain ⟨bindings, draws⟩ := scope
  simp only [bind, fits] at short ⊢
  induction bindings with
  | nil => simpa [bindIn] using valueShort
  | cons binding bindings ih =>
      obtain ⟨other, former⟩ := binding
      obtain ⟨formerShort, others⟩ := Bool.and_eq_true_iff.mp short
      rw [bindIn]
      split
      · exact Bool.and_eq_true_iff.mpr ⟨valueShort, others⟩
      · exact Bool.and_eq_true_iff.mpr ⟨formerShort, ih others⟩

end Scope

namespace Run

variable {Result First Second : Type}

/-- From a scope without long texts a run leaves another one, whether it fails or not, and if it has
a result, that is as it should be. -/
def Keeps (wanted : Result → Prop) (run : Run Result) : Prop :=
  ∀ scope, scope.fits = true →
    (run scope).2.fits = true ∧ ∀ result, (run scope).1 = .ok result → wanted result

variable {wanted : Result → Prop}

theorem keeps_ofExcept {outcome : Except Error Result}
    (ends : ∀ result, outcome = .ok result → wanted result) : (ofExcept outcome).Keeps wanted :=
  fun _ short => ⟨short, ends⟩

theorem keeps_done {result : Result} (holds : wanted result) : (done result).Keeps wanted :=
  keeps_ofExcept fun _ same => Except.ok.inj same ▸ holds

theorem keeps_bind {firstWanted : First → Prop} {secondWanted : Second → Prop}
    {first : Run First} {next : First → Run Second} (firstKeeps : first.Keeps firstWanted)
    (nextKeeps : ∀ result, firstWanted result → (next result).Keeps secondWanted) :
    (first >>= next).Keeps secondWanted := by
  intro scope short
  obtain ⟨middleShort, ends⟩ := firstKeeps scope short
  have bind_eq : (first >>= next) scope = andThen first next scope := rfl
  rw [bind_eq, andThen]
  rcases ran : first scope with ⟨error | result, middle⟩
  · rw [ran] at middleShort
    exact ⟨middleShort, fun _ same => nomatch same⟩
  · rw [ran] at middleShort ends
    exact nextKeeps result (ends result rfl) middle middleShort

theorem keeps_read (name : String) : (read name).Keeps fun value => value.fits = true := by
  intro scope short
  rw [read]
  split
  next value found =>
    refine ⟨short, fun result same => ?_⟩
    cases same
    exact Scope.fits_of_find? short found
  next => exact ⟨short, fun _ same => nomatch same⟩

theorem keeps_write (name : String) {value : Value} (valueShort : value.fits = true) :
    (write name value).Keeps fun _ => True :=
  fun _ short => ⟨Scope.fits_bind short name valueShort, fun _ _ => trivial⟩

theorem keeps_call (outcomes : Outcomes) (name : String) {arguments : List Value}
    (short : ∀ argument ∈ arguments, argument.fits = true) :
    (call outcomes name arguments).Keeps fun value => value.fits = true := by
  intro scope scopeShort
  rw [call]
  split
  · exact ⟨scopeShort, fun _ same => nomatch same⟩
  · exact ⟨scopeShort, fun _ applied => Function.fits_of_apply short applied⟩

end Run

mutual

/-- The values that stand in an expression. -/
def Expr.literals : Expr → List Value
  | .literal value => [value]
  | .name _ => []
  | .template parts => partLiterals parts
  | .unary _ operand => operand.literals
  | .binary _ left right => left.literals ++ right.literals
  | .ternary condition positive negative =>
      condition.literals ++ positive.literals ++ negative.literals
  | .assign _ value => value.literals
  | .call _ arguments => argumentLiterals arguments

/-- The values that stand in the interpolations of a template literal. -/
def partLiterals : List TemplatePart → List Value
  | [] => []
  | part :: parts => part.literals ++ partLiterals parts

/-- The values that stand in a part of a template literal. -/
def TemplatePart.literals : TemplatePart → List Value
  | .text _ => []
  | .expr value => value.literals

/-- The values that stand in arguments. -/
def argumentLiterals : List Expr → List Value
  | [] => []
  | argument :: arguments => argument.literals ++ argumentLiterals arguments

end

/-- The values that stand in a statement. -/
def Statement.literals : Statement → List Value
  | .declare _ value => value.literals
  | .expr value => value.literals

section

variable (outcomes : Outcomes)

mutual

/-- An expression with short literals keeps texts short. -/
theorem Expr.run_keeps : ∀ expression : Expr,
    (∀ literal ∈ expression.literals, literal.fits = true) →
    (expression.run outcomes).Keeps fun value => value.fits = true
  | .literal value, short => by
      rw [Expr.run]
      exact Run.keeps_done (short value List.mem_cons_self)
  | .name name, _ => by
      rw [Expr.run]
      exact Run.keeps_read name
  | .template parts, short => by
      rw [Expr.run]
      exact Run.keeps_bind (runParts_keeps "" (Nat.zero_le _) parts short) fun text textShort =>
        Run.keeps_done (Value.fits_text_iff.mpr textShort)
  | .unary op operand, short => by
      rw [Expr.run]
      exact Run.keeps_bind (operand.run_keeps short) fun value _ =>
        Run.keeps_done fits_of_unaryApply
  | .binary op left right, short => by
      obtain ⟨leftLiterals, rightLiterals⟩ := List.forall_mem_append.mp short
      rw [Expr.run]
      refine Run.keeps_bind (left.run_keeps leftLiterals) fun leftValue leftShort => ?_
      split
      · exact Run.keeps_done leftShort
      · exact Run.keeps_bind (right.run_keeps rightLiterals) fun rightValue rightShort =>
          Run.keeps_ofExcept fun _ => fits_of_binaryApply leftShort rightShort
  | .ternary condition positive negative, short => by
      obtain ⟨others, negativeLiterals⟩ := List.forall_mem_append.mp short
      obtain ⟨conditionLiterals, positiveLiterals⟩ := List.forall_mem_append.mp others
      rw [Expr.run]
      refine Run.keeps_bind (condition.run_keeps conditionLiterals) fun decision _ => ?_
      split
      · exact positive.run_keeps positiveLiterals
      · exact negative.run_keeps negativeLiterals
  | .assign name value, short => by
      rw [Expr.run]
      exact Run.keeps_bind (Run.keeps_read name) fun _ _ =>
        Run.keeps_bind (value.run_keeps short) fun _ valueShort =>
          Run.keeps_bind (Run.keeps_write name valueShort) fun _ _ => Run.keeps_done valueShort
  | .call function arguments, short => by
      rw [Expr.run]
      exact Run.keeps_bind (runArguments_keeps arguments short) fun _ valuesShort =>
        Run.keeps_call outcomes function valuesShort

theorem runParts_keeps (text : String) (textShort : text.length ≤ maxLength) :
    ∀ parts : List TemplatePart, (∀ literal ∈ partLiterals parts, literal.fits = true) →
    (runParts outcomes text parts).Keeps fun text => text.length ≤ maxLength
  | [], _ => by
      rw [runParts]
      exact Run.keeps_done textShort
  | part :: parts, short => by
      obtain ⟨first, others⟩ := List.forall_mem_append.mp short
      rw [runParts]
      exact Run.keeps_bind (part.run_keeps first) fun addition _ =>
        Run.keeps_bind (Run.keeps_ofExcept fun _ => length_of_extendTemplate) fun longer short =>
          runParts_keeps longer short parts others

theorem TemplatePart.run_keeps : ∀ part : TemplatePart,
    (∀ literal ∈ part.literals, literal.fits = true) → (part.run outcomes).Keeps fun _ => True
  | .text value, _ => by
      rw [TemplatePart.run]
      exact Run.keeps_done trivial
  | .expr value, short => by
      rw [TemplatePart.run]
      exact Run.keeps_bind (value.run_keeps short) fun _ _ => Run.keeps_done trivial

theorem runArguments_keeps : ∀ arguments : List Expr,
    (∀ literal ∈ argumentLiterals arguments, literal.fits = true) →
    (runArguments outcomes arguments).Keeps fun values => ∀ value ∈ values, value.fits = true
  | [], _ => by
      rw [runArguments]
      exact Run.keeps_done fun _ none => nomatch none
  | argument :: arguments, short => by
      obtain ⟨first, others⟩ := List.forall_mem_append.mp short
      rw [runArguments]
      exact Run.keeps_bind (argument.run_keeps first) fun _ valueShort =>
        Run.keeps_bind (runArguments_keeps arguments others) fun _ valuesShort =>
          Run.keeps_done (List.forall_mem_cons.mpr ⟨valueShort, valuesShort⟩)

end

theorem runStatements_keeps {statements : List Statement}
    (short : ∀ statement ∈ statements, ∀ literal ∈ statement.literals, literal.fits = true)
    {last : Value} (lastShort : last.fits = true) :
    (runStatements outcomes last statements).Keeps fun value => value.fits = true := by
  induction statements generalizing last with
  | nil => exact Run.keeps_done lastShort
  | cons statement statements ih =>
      obtain ⟨first, others⟩ := List.forall_mem_cons.mp short
      cases statement with
      | declare name value =>
          exact Run.keeps_bind (value.run_keeps outcomes first) fun _ valueShort =>
            Run.keeps_bind (Run.keeps_write name valueShort) fun _ _ => ih others lastShort
      | expr value =>
          exact Run.keeps_bind (value.run_keeps outcomes first) fun _ valueShort =>
            ih others valueShort

end

/-- A script cannot build long texts.  Let the literals of a script and the texts in the scope that
it starts in be no longer than the limit.  Then so are, whether the run ends with a value or with an
error, all texts in the scope that it leaves, and its value.  The same holds of expressions. -/
theorem run_fits (outcomes : Outcomes) {scope : Scope} (scopeShort : scope.fits = true) :
    (∀ statements : List Statement,
      (∀ statement ∈ statements, ∀ literal ∈ statement.literals, literal.fits = true) →
      (runStatements outcomes .undefined statements scope).2.fits = true ∧
        ∀ value, (runStatements outcomes .undefined statements scope).1 = .ok value →
          value.fits = true) ∧
    ∀ expression : Expr, (∀ literal ∈ expression.literals, literal.fits = true) →
      (expression.run outcomes scope).2.fits = true ∧
        ∀ value, (expression.run outcomes scope).1 = .ok value → value.fits = true :=
  ⟨fun _ short => runStatements_keeps outcomes short rfl scope scopeShort,
    fun expression short => expression.run_keeps outcomes short scope scopeShort⟩

/-- A script that doubles a text and then fails. -/
theorem run_fits_doubling :
    let statements : List Statement :=
      [.declare "a" (.literal (.text "ab")),
        .expr (.assign "a" (.binary .add (.name "a") (.call "upper" [.name "a"]))),
        .expr (.name "b")]
    let after := (runStatements (fun _ => 0) .undefined statements Scope.empty).2
    after.fits = true ∧ after.find? "a" = some (.text "abAB") := by
  intro statements after
  have scopeShort : Scope.empty.fits = true := rfl
  have short := (run_fits (fun _ => 0) scopeShort).1 statements (by decide)
  exact ⟨short.1, by decide +kernel⟩

end Script
end ChatMacro
