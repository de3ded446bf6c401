import ChatMacro.Engine.Basic

/-!
# Shelves of engines

A shelf holds an engine for each template that it has been asked for, all with the same options and
handlers.  Texts that come only once are expanded by an engine that is not put on the shelf.
-/

namespace ChatMacro

/-- A shelf of engines. -/
structure Shelf where
  /-- Options of its engines. -/
  options : Options := {}
  /-- Handlers of its engines. -/
  pipeline : Pipeline := {}
  /-- Its engines under their templates. -/
  engines : List (String × Engine) := []

namespace Shelf

variable {Store : Type}

/-- A new engine for a template. -/
def build (shelf : Shelf) (template : Option String) : Engine :=
  { template, options := shelf.options, pipeline := shelf.pipeline }

/-- An engine without a template, which stays off the shelf. -/
def uncached (shelf : Shelf) : Engine :=
  shelf.build none

/-- The engine for a template, which is new if there is none on the shelf. -/
def engine (shelf : Shelf) (template : String) : Engine :=
  (shelf.engines.lookup template).getD (shelf.build (some template))

/-- Put an engine in the place of the one for a template. -/
def place (template : String) (engine : Engine) : List (String × Engine) → List (String × Engine)
  | [] => [(template, engine)]
  | (other, former) :: tail =>
      if template = other then (template, engine) :: tail
      else (other, former) :: place template engine tail

/-- Put an engine on the shelf. -/
def put (shelf : Shelf) (template : String) (engine : Engine) : Shelf :=
  { shelf with engines := place template engine shelf.engines }

/-- The note on an engine that is put on the shelf. -/
def cachingNote (template : String) : Note where
  origin := .shelf
  level := .debug
  message := "caching engine"
  fields := [("template", Text.quoted template)]

/-- The notes on asking for the engine of a template, which is put on the shelf if it is new. -/
def engineNotes (shelf : Shelf) (template : String) : List Note :=
  if (shelf.engines.lookup template).isNone then [cachingNote template] else []

/-- Expand a template with its engine. -/
def parse (shelf : Shelf) (answer : Answer Store) (chance : Script.Chance) (template : String)
    (input : Option Json) (store : Store) : Except EngineError String × Shelf × Store :=
  let (output, engine, store) := (shelf.engine template).parse answer chance none input store
  (output, shelf.put template engine, store)

/-- The number of engines on the shelf. -/
def size (shelf : Shelf) : Nat :=
  shelf.engines.length

end Shelf
end ChatMacro
