import ChatMacro.Engine.Shelf
import ChatMacro.Program.Machine
import ChatMacro.Store.File

/-!
# Sessions

A session expands one template after the other on one store and prints what comes out.  The first
failure of the store ends it.  The store is held in memory, and its file is written anew by each
call that changes it.
-/

namespace ChatMacro

/-- A session of the program. -/
structure Session where
  /-- The engines. -/
  shelf : Shelf
  /-- The message that comes with every template. -/
  input : Option Json
  /-- The file of the store, or none for a store in memory. -/
  path : Option String
  /-- What the store holds. -/
  entries : Entries

namespace Session

variable {Action : Type → Type} [Monad Action] {Error Result : Type}

/-- The store of a session, to whose file nothing has been written yet. -/
def store (session : Session) : Store :=
  match session.path with
  | none => .memory session.entries
  | some _ => .file { entries := session.entries, text := none }

/-- Make a call on the store of a session.  If its file cannot be written, the call fails as it does
on a store that says so. -/
def answer (machine : Machine Action) (session : Session) (call : Call) :
    Action (Except StoreError call.Reply × Session) := do
  let (reply, store) := Store.answer true call session.store
  match session.path, store.text? with
  | some path, some text =>
      if ← machine.write path text then
        return (reply, { session with entries := store.entries })
      else
        let (reply, store) := Store.answer false call session.store
        return (reply, { session with entries := store.entries })
  | _, _ => return (reply, { session with entries := store.entries })

/-- Carry out a plan for a template on the store of a session. -/
def perform (machine : Machine Action) (template : String) (session : Session) :
    Plan Error Result → Action (Except Error Result × Session)
  | .done result => return (.ok result, session)
  | .fail error => return (.error error, session)
  | .note note rest => do
      machine.note (note.within template)
      session.perform machine template rest
  | .ask call raise next => do
      match ← session.answer machine call with
      | (.ok reply, session) => session.perform machine template (next reply)
      | (.error cause, session) => return (.error (raise cause), session)

/-- Print an output, or report the error that ends a session. -/
def report (machine : Machine Action) (session : Session) :
    Except EngineError String → Action (Option Session)
  | .ok output => do
      machine.print output
      return some session
  | .error error => do
      machine.complain ("cmdvar: " ++ error.message)
      return none

/-- Expand a template with its engine, which is put on the shelf if it is new. -/
def expandTemplate (machine : Machine Action) (session : Session) (template : String) :
    Action (Option Session) := do
  (session.shelf.engineNotes template).forM machine.note
  let engine := session.shelf.engine template
  let plan := engine.ownPlan (← machine.chance) session.input
  let (output, session) ← session.perform machine template plan
  report machine { session with shelf := session.shelf.put template (engine.keep output) } output

/-- Expand a line of text, which is not put on the shelf. -/
def expandLine (machine : Machine Action) (session : Session) (line : String) :
    Action (Option Session) := do
  let plan := session.shelf.uncached.plan (← machine.chance) session.input line
  let (output, session) ← session.perform machine line plan
  report machine session output

end Session
end ChatMacro
