import ChatMacro.Proofs.Script.Sum
import Mathlib.Logic.Relation

/-!
# Bound names

Only declarations bind names.  An expression leaves the names of its scope as they are, whether it
has a value or fails, so at every point of a script the names are those of the scope that it started
in and those that were declared before.  A script fails for want of a name exactly where it comes to
an expression that reads or assigns a name which is not bound.
-/

namespace ChatMacro
namespace Script

namespace Scope

/-- The bound names. -/
def names (scope : Scope) : List String :=
  scope.bindings.map Prod.fst

variable {scope : Scope} {name : String}

theorem find?_eq_none_iff : scope.find? name = none ↔ name ∉ scope.names := by
  rw [find?, names, List.lookup_eq_none_iff, List.mem_map]
  constructor
  · rintro different ⟨binding, member, rfl⟩
    exact bne_iff_ne.mp (different binding member) rfl
  · intro unbound binding member
    exact bne_iff_ne.mpr fun same => unbound ⟨binding, member, same.symm⟩

theorem exists_find?_of_mem (bound : name ∈ scope.names) :
    ∃ value, scope.find? name = some value :=
  Option.ne_none_iff_exists'.mp fun missing => find?_eq_none_iff.mp missing bound

/-- A new value keeps the place of its name, and a new name comes last. -/
theorem map_fst_bindIn (name : String) (value : Value) (bindings : List (String × Value)) :
    (bindIn name value bindings).map Prod.fst =
      if name ∈ bindings.map Prod.fst then bindings.map Prod.fst
      else bindings.map Prod.fst ++ [name] := by
  induction bindings with
  | nil => rfl
  | cons binding bindings ih =>
      obtain ⟨other, former⟩ := binding
      rw [bindIn]
      by_cases same : name = other
      · simp [same]
      · rw [if_neg same, List.map_cons, ih]
        by_cases bound : name ∈ bindings.map Prod.fst <;> simp [bound, same]

theorem names_bind (scope : Scope) (name : String) (value : Value) :
    (scope.bind name value).names =
      if name ∈ scope.names then scope.names else scope.names ++ [name] :=
  map_fst_bindIn name value scope.bindings

theorem mem_names_bind {other : String} {value : Value} :
    other ∈ (scope.bind name value).names ↔ other ∈ scope.names ∨ other = name := by
  rw [names_bind]
  split
  next bound =>
    constructor
    · exact .inl
    · rintro (member | rfl)
      · exact member
      · exact bound
  next => rw [List.mem_append, List.mem_singleton]

end Scope

namespace Run

variable {First Second Third : Type}

theorem bind_assoc (first : Run First) (second : First → Run Second) (third : Second → Run Third) :
    first >>= second >>= third = first >>= fun result => second result >>= third := by
  funext scope
  simp only [bind_apply]
  rcases first scope with ⟨error | result, middle⟩ <;> rfl

theorem bind_pure (run : Run First) : run >>= pure = run := by
  funext scope
  rw [bind_apply]
  rcases run scope with ⟨error | result, middle⟩ <;> rfl

theorem bind_of_ok {first : Run First} {next : First → Run Second} {scope middle : Scope}
    {result : First} (ran : first scope = (.ok result, middle)) :
    (first >>= next) scope = next result middle := by
  rw [bind_apply, ran]

theorem bind_of_error {first : Run First} {next : First → Run Second} {scope middle : Scope}
    {error : Error} (failed : first scope = (.error error, middle)) :
    (first >>= next) scope = (.error error, middle) := by
  rw [bind_apply, failed]

theorem bind_eq_error {first : Run First} {next : First → Run Second} {scope after : Scope}
    {error : Error} (failed : (first >>= next) scope = (.error error, after)) :
    first scope = (.error error, after) ∨
      ∃ result middle, first scope = (.ok result, middle) ∧
        next result middle = (.error error, after) := by
  rw [bind_apply] at failed
  rcases ran : first scope with ⟨error' | result, middle⟩ <;> rw [ran] at failed
  · cases failed
    exact .inl rfl
  · exact .inr ⟨result, middle, rfl, failed⟩

theorem bind_eq_ok {first : Run First} {next : First → Run Second} {scope after : Scope}
    {result : Second} (ran : (first >>= next) scope = (.ok result, after)) :
    ∃ value middle, first scope = (.ok value, middle) ∧
      next value middle = (.ok result, after) := by
  rw [bind_apply] at ran
  rcases started : first scope with ⟨error | value, middle⟩ <;> rw [started] at ran
  · cases ran
  · exact ⟨value, middle, rfl, ran⟩

theorem read_of_notMem {name : String} {scope : Scope} (unbound : name ∉ scope.names) :
    read name scope = (.error (.running (.undefinedName name)), scope) := by
  rw [read, Scope.find?_eq_none_iff.mpr unbound]

theorem exists_read_of_mem {name : String} {scope : Scope} (bound : name ∈ scope.names) :
    ∃ value, read name scope = (.ok value, scope) := by
  obtain ⟨value, found⟩ := Scope.exists_find?_of_mem bound
  exact ⟨value, by rw [read, found]⟩

/-- A step that leaves the names of every scope as they are. -/
def BindsNothing (run : Run First) : Prop :=
  ∀ scope, (run scope).2.names = scope.names

theorem BindsNothing.names_eq {run : Run First} (quiet : run.BindsNothing) {scope after : Scope}
    {outcome : Except Error First} (ran : run scope = (outcome, after)) :
    after.names = scope.names := by
  rw [← quiet scope, ran]

theorem bindsNothing_ofExcept (outcome : Except Error First) : (ofExcept outcome).BindsNothing :=
  fun _ => rfl

theorem bindsNothing_done (result : First) : (done result).BindsNothing :=
  fun _ => rfl

theorem bindsNothing_read (name : String) : (read name).BindsNothing := by
  intro scope
  rw [read]
  split <;> rfl

theorem bindsNothing_call (outcomes : Outcomes) (name : String) (arguments : List Value) :
    (call outcomes name arguments).BindsNothing := by
  intro scope
  rw [call]
  split <;> rfl

theorem BindsNothing.bind {first : Run First} {next : First → Run Second}
    (firstQuiet : first.BindsNothing) (nextQuiet : ∀ result, (next result).BindsNothing) :
    (first >>= next).BindsNothing := by
  intro scope
  rw [bind_apply]
  rcases ran : first scope with ⟨error | result, middle⟩
  · exact firstQuiet.names_eq ran
  · exact (nextQuiet result middle).trans (firstQuiet.names_eq ran)

end Run

section

variable (outcomes : Outcomes)

/-! ## Expressions keep the names -/

theorem Expr.run_assign_of_notMem {name : String} {scope : Scope} (unbound : name ∉ scope.names)
    (value : Expr) :
    (Expr.assign name value).run outcomes scope =
      (.error (.running (.undefinedName name)), scope) := by
  rw [Expr.run]
  exact Run.bind_of_error (Run.read_of_notMem unbound)

theorem Expr.run_assign_of_mem {name : String} {scope : Scope} (bound : name ∈ scope.names)
    (value : Expr) :
    (Expr.assign name value).run outcomes scope =
      (do
        let result ← value.run outcomes
        Run.write name result
        return result : Run Value) scope := by
  obtain ⟨former, readOk⟩ := Run.exists_read_of_mem bound
  rw [Expr.run]
  exact Run.bind_of_ok readOk

/-- The name that is assigned is bound already, and the new value does not end that. -/
theorem Expr.bindsNothing_assign (name : String) {value : Expr}
    (quiet : (value.run outcomes).BindsNothing) :
    ((Expr.assign name value).run outcomes).BindsNothing := by
  intro scope
  by_cases bound : name ∈ scope.names
  · rw [run_assign_of_mem outcomes bound, Run.bind_apply]
    rcases ran : value.run outcomes scope with ⟨error | result, middle⟩
    · exact quiet.names_eq ran
    · have kept := middle.names_bind name result
      rw [quiet.names_eq ran, if_pos bound] at kept
      exact kept
  · rw [run_assign_of_notMem outcomes bound]

mutual

theorem Expr.run_bindsNothing : ∀ expression : Expr, (expression.run outcomes).BindsNothing
  | .literal value => by
      rw [Expr.run]
      exact Run.bindsNothing_done value
  | .name name => by
      rw [Expr.run]
      exact Run.bindsNothing_read name
  | .template parts => by
      rw [Expr.run]
      exact (runParts_bindsNothing "" parts).bind fun _ => Run.bindsNothing_done _
  | .unary op operand => by
      rw [Expr.run]
      exact operand.run_bindsNothing.bind fun _ => Run.bindsNothing_done _
  | .binary op left right => by
      rw [Expr.run]
      refine left.run_bindsNothing.bind fun _ => ?_
      split
      · exact Run.bindsNothing_done _
      · exact right.run_bindsNothing.bind fun _ => Run.bindsNothing_ofExcept _
  | .ternary condition positive negative => by
      rw [Expr.run]
      refine condition.run_bindsNothing.bind fun _ => ?_
      split
      · exact positive.run_bindsNothing
      · exact negative.run_bindsNothing
  | .assign name value => Expr.bindsNothing_assign outcomes name value.run_bindsNothing
  | .call function arguments => by
      rw [Expr.run]
      exact (runArguments_bindsNothing arguments).bind fun _ => Run.bindsNothing_call outcomes _ _

theorem runParts_bindsNothing (text : String) :
    ∀ parts : List TemplatePart, (runParts outcomes text parts).BindsNothing
  | [] => by
      rw [runParts]
      exact Run.bindsNothing_done text
  | part :: parts => by
      rw [runParts]
      exact part.run_bindsNothing.bind fun _ => (Run.bindsNothing_ofExcept _).bind fun longer =>
        runParts_bindsNothing longer parts

theorem TemplatePart.run_bindsNothing : ∀ part : TemplatePart, (part.run outcomes).BindsNothing
  | .text value => by
      rw [TemplatePart.run]
      exact Run.bindsNothing_done value
  | .expr value => by
      rw [TemplatePart.run]
      exact value.run_bindsNothing.bind fun _ => Run.bindsNothing_done _

theorem runArguments_bindsNothing :
    ∀ arguments : List Expr, (runArguments outcomes arguments).BindsNothing
  | [] => by
      rw [runArguments]
      exact Run.bindsNothing_done []
  | argument :: arguments => by
      rw [runArguments]
      exact argument.run_bindsNothing.bind fun _ =>
        (runArguments_bindsNothing arguments).bind fun _ => Run.bindsNothing_done _

end

/-! ## Statements add the names that they declare -/

/-- The expression of a statement. -/
def Statement.value : Statement → Expr
  | .declare _ value => value
  | .expr value => value

/-- The name that a statement declares. -/
def Statement.declared? : Statement → Option String
  | .declare name _ => some name
  | .expr _ => none

/-- The names that statements declare. -/
def declared (statements : List Statement) : List String :=
  statements.filterMap Statement.declared?

/-- What a statement does with the value of its expression: the result so far is kept by a
declaration and replaced by an expression. -/
def Statement.finish (last : Value) : Statement → Value → Run Value
  | .declare name _, value => do
      Run.write name value
      return last
  | .expr _, value => Run.done value

variable {outcomes} {statement : Statement} {statements : List Statement} {scope after : Scope}
  {last : Value} {name : String}

theorem mem_declared_cons :
    name ∈ declared (statement :: statements) ↔
      statement.declared? = some name ∨ name ∈ declared statements := by
  simp [declared, List.mem_filterMap]

theorem runStatements_cons :
    runStatements outcomes last (statement :: statements) = (do
      let value ← statement.value.run outcomes
      let last ← statement.finish last value
      runStatements outcomes last statements) := by
  cases statement with
  | declare name value =>
      rw [runStatements]
      simp only [Statement.finish, Run.bind_assoc]
      rfl
  | expr value =>
      rw [runStatements]
      rfl

theorem runStatements_append (front back : List Statement) :
    runStatements outcomes last (front ++ back) =
      runStatements outcomes last front >>= fun last => runStatements outcomes last back := by
  induction front generalizing last with
  | nil =>
      rw [List.nil_append, runStatements]
      rfl
  | cons statement front ih =>
      rw [List.cons_append, runStatements_cons, runStatements_cons]
      simp only [ih, Run.bind_assoc]

theorem Statement.exists_finish (statement : Statement) (last value : Value) (scope : Scope) :
    ∃ result after, statement.finish last value scope = (.ok result, after) ∧
      ∀ name, name ∈ after.names ↔ name ∈ scope.names ∨ statement.declared? = some name := by
  cases statement with
  | declare name value' =>
      refine ⟨last, scope.bind name value, rfl, fun other => ?_⟩
      simp [Scope.mem_names_bind, declared?, eq_comm]
  | expr value' => exact ⟨value, scope, rfl, fun other => by simp [declared?]⟩

/-- After a run that has a result the names are those from before and the declared ones. -/
theorem mem_names_runStatements {value : Value}
    (ran : runStatements outcomes last statements scope = (.ok value, after)) :
    name ∈ after.names ↔ name ∈ scope.names ∨ name ∈ declared statements := by
  induction statements generalizing last scope with
  | nil =>
      rw [runStatements] at ran
      cases ran
      simp [declared]
  | cons statement statements ih =>
      rw [runStatements_cons] at ran
      obtain ⟨operand, middle, evaluated, next⟩ := Run.bind_eq_ok ran
      obtain ⟨result, before, finished, names_iff⟩ := statement.exists_finish last operand middle
      rw [Run.bind_of_ok finished] at next
      rw [ih next, names_iff, (statement.value.run_bindsNothing outcomes).names_eq evaluated,
        mem_declared_cons, or_assoc]

end

end Script
end ChatMacro
