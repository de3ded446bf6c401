import ChatMacro.Engine.Expansion

/-!
# Engines

An engine expands templates with fixed options and handlers.  It may have a template of its own, and
it keeps the first output of that template.
-/

namespace ChatMacro

/-- An engine. -/
structure Engine where
  /-- Its own template. -/
  template : Option String
  /-- Options of its expansions. -/
  options : Options := {}
  /-- Handlers of its expansions. -/
  pipeline : Pipeline := {}
  /-- First output of its own template, once there is one. -/
  first : Option String := none

namespace Engine

variable {Store : Type}

/-- The plan to expand a template. -/
def plan (engine : Engine) (chance : Script.Chance) (input : Option Json) (template : String) :
    Plan EngineError String :=
  Expansion.expand engine.options engine.pipeline chance input template

/-- The plan to expand the template of an engine. -/
def ownPlan (engine : Engine) (chance : Script.Chance) (input : Option Json) :
    Plan EngineError String :=
  match engine.template with
  | none => .fail .noTemplate
  | some template => engine.plan chance input template

/-- Expand a template on a store. -/
def expand (engine : Engine) (answer : Answer Store) (chance : Script.Chance)
    (input : Option Json) (template : String) (store : Store) :
    Except EngineError String × Store :=
  (engine.plan chance input template).run answer store

/-- Expand the template of an engine. -/
def expandOwn (engine : Engine) (answer : Answer Store) (chance : Script.Chance)
    (input : Option Json) (store : Store) : Except EngineError String × Store :=
  (engine.ownPlan chance input).run answer store

/-- Keep an output, unless there is an earlier one. -/
def keep (engine : Engine) : Except EngineError String → Engine
  | .ok output => { engine with first := some (engine.first.getD output) }
  | .error _ => engine

/-- Expand a template, or else the template of the engine. -/
def parse (engine : Engine) (answer : Answer Store) (chance : Script.Chance)
    (template : Option String) (input : Option Json) (store : Store) :
    Except EngineError String × Engine × Store :=
  match template with
  | some template =>
      let (output, store) := engine.expand answer chance input template store
      (output, engine, store)
  | none =>
      let (output, store) := engine.expandOwn answer chance input store
      (output, engine.keep output, store)

/-- The first output of the template of an engine, which is expanded without a message if there is
none yet. -/
def ready (engine : Engine) (answer : Answer Store) (chance : Script.Chance) (store : Store) :
    Except EngineError String × Engine × Store :=
  match engine.first with
  | some output => (.ok output, engine, store)
  | none =>
      let (output, store) := engine.expandOwn answer chance none store
      (output, engine.keep output, store)

end Engine
end ChatMacro
