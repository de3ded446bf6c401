import ChatMacro.Engine.Basic
import ChatMacro.Proofs.Engine.Stages

/-!
# Requests to an engine

An engine is asked to parse a template or for its first output.  It meets a request without the
store, or by one plan, of which it keeps at most the result.  So a store that fails in the middle of
a request leaves nothing behind but the calls before.
-/

namespace ChatMacro

/-- What an engine can be asked for. -/
inductive Request where
  /-- To parse a template, or else its own. -/
  | parse (template : Option String) (input : Option Json)
  /-- The first output of its own template. -/
  | ready

namespace Engine

/-- Do what an engine is asked for. -/
def perform {Store : Type} (engine : Engine) (answer : Answer Store) (chance : Script.Chance) :
    Request → Store → Except EngineError String × Engine × Store
  | .parse template input, store => engine.parse answer chance template input store
  | .ready, store => engine.ready answer chance store

/-- An engine acts without the store, or by one plan, whose result it may keep.  The plan is given
up only for errors of the store, which come in the stage in which the blocks are resolved. -/
def ActsByPlan (engine : Engine)
    (action : (Store : Type) → Answer Store → Store → Except EngineError String × Engine × Store) :
    Prop :=
  (∃ outcome, ∀ {Store : Type} (answer : Answer Store) (store : Store),
    action Store answer store = (outcome, engine, store)) ∨
  ∃ (plan : Plan EngineError String) (kept : String → Engine),
    plan.KeepsTo (.store .blockScanning) Note.IsOfExpansion ∧
    ∀ {Store : Type} (answer : Answer Store) (store : Store), action Store answer store =
      match plan.run answer store with
      | (.ok output, after) => (.ok output, kept output, after)
      | (.error error, after) => (.error error, engine, after)

theorem actsByPlan_parse (engine : Engine) (chance : Script.Chance) (template : Option String)
    (input : Option Json) :
    engine.ActsByPlan fun _ answer store => engine.parse answer chance template input store := by
  have keeps (template : String) :
      (engine.plan chance input template).KeepsTo (.store .blockScanning) Note.IsOfExpansion :=
    Expansion.keepsTo_expand engine.options chance engine.pipeline input template
  cases template with
  | some template =>
      refine .inr ⟨engine.plan chance input template, fun _ => engine, keeps template,
        fun answer store => ?_⟩
      simp only [parse, expand]
      rcases (engine.plan chance input template).run answer store with ⟨_ | output, after⟩ <;> rfl
  | none =>
      cases own : engine.template with
      | none =>
          refine .inl ⟨.error .noTemplate, fun answer store => ?_⟩
          simp only [parse, expandOwn, ownPlan, own, Plan.run, keep]
      | some template =>
          refine .inr ⟨engine.plan chance input template,
            fun output => engine.keep (.ok output), keeps template, fun answer store => ?_⟩
          simp only [parse, expandOwn, ownPlan, own]
          rcases (engine.plan chance input template).run answer store with
            ⟨_ | output, after⟩ <;> rfl

theorem actsByPlan_ready (engine : Engine) (chance : Script.Chance) :
    engine.ActsByPlan fun _ answer store => engine.ready answer chance store := by
  cases first : engine.first with
  | some output =>
      refine .inl ⟨.ok output, fun answer store => ?_⟩
      simp only [ready, first]
  | none =>
      -- Without a first output the template is parsed.
      have same {Store : Type} (answer : Answer Store) (store : Store) :
          engine.ready answer chance store = engine.parse answer chance none none store := by
        simp only [ready, first, parse]
      simpa only [same] using engine.actsByPlan_parse chance none none

/-- Every request is met so. -/
theorem actsByPlan_perform (engine : Engine) (chance : Script.Chance) (request : Request) :
    engine.ActsByPlan fun _ answer store => engine.perform answer chance request store := by
  cases request with
  | parse template input => exact engine.actsByPlan_parse chance template input
  | ready => exact engine.actsByPlan_ready chance

/-- A store that fails fails the request.  Let some calls fail without effect, chosen by their
content and by the calls before.  If an undisturbed request makes none of them, nothing changes.
Otherwise the request makes the same calls up to the first of them, ends with the error of that call
in the stage of the blocks, leaves the store as the calls before have left it, and the engine keeps
its first output. -/
theorem perform_interrupted {Store : Type} (engine : Engine) (answer : Answer Store)
    (failure? : List Call → Call → Option StoreError) (chance : Script.Chance) (request : Request)
    (store : Store) :
    let undisturbed := engine.perform answer.logged chance request ⟨store, []⟩
    engine.perform (answer.interrupted failure?) chance request ⟨store, []⟩ =
      (match Interruption.first? failure? [] undisturbed.2.2.calls with
      | none => undisturbed
      | some interruption =>
          (.error (.store .blockScanning interruption.error), engine,
            { store := answer.replay interruption.before store,
              calls := interruption.before ++ [interruption.call] })) ∧
    ∀ cause, (EngineError.store .blockScanning cause).message =
      "store failure during block scanning: " ++ cause.message := by
  intro undisturbed
  refine ⟨?_, fun cause => rfl⟩
  rcases engine.actsByPlan_perform chance request with ⟨outcome, met⟩ |
    ⟨plan, kept, keeps, performed⟩
  · have calls_eq : undisturbed.2.2.calls = [] := by simp only [undisturbed, met]
    rw [calls_eq]
    simp only [Interruption.first?, undisturbed, met]
  · have calls_eq : undisturbed.2.2.calls = plan.calls answer store := by
      simp only [undisturbed, performed, Plan.run_logged, List.nil_append]
      rcases plan.run answer store with ⟨_ | output, after⟩ <;> rfl
    dsimp only at performed
    rw [calls_eq, performed, keeps.run_interrupted]
    cases Interruption.first? failure? [] (plan.calls answer store) with
    | none => exact (performed answer.logged ⟨store, []⟩).symm
    | some interruption => simp only [List.nil_append]

example :
    (perform { template := some "{n=1} {m=2} {n}" }
      ((Store.answer true).interrupted fun before _ =>
        if before.length = 2 then some (.task "injected") else none)
      (fun _ _ => 0) (.parse none none) ⟨.memory .empty, []⟩).2.2.calls =
        [.get "variables/n", .set "variables/n" (.number 1.0), .get "variables/m"] := by
  decide +kernel

end Engine
end ChatMacro
