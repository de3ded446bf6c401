import ChatMacro.Json.Basic
import ChatMacro.Log

/-!
# Handler chains

Handlers change something before it is used: the draft of a template, or a variable block.  The
handlers of a chain run one after the other until one of them stops the chain.  A handler that fails
does not stop it.
-/

namespace ChatMacro

/-- Why a handler fails. -/
structure HandlerError where
  /-- Name of the handler. -/
  handler : String
  /-- What is wrong. -/
  detail : String
  deriving DecidableEq, Repr

namespace HandlerError

/-- The message of an error. -/
def message (error : HandlerError) : String :=
  "middleware " ++ error.handler ++ ": " ++ error.detail

/-- The note on a handler that fails. -/
def note (error : HandlerError) : Note where
  origin := .chain
  level := .warning
  message := "middleware failed; continuing"
  fields := [("error", error.message)]

end HandlerError

/-- How a handler ends. -/
inductive Signal where
  /-- The next handler follows. -/
  | proceed
  /-- No other handler follows. -/
  | stop
  /-- The handler failed; the next one follows. -/
  | failed (error : HandlerError)
  deriving DecidableEq, Repr

/-- A handler of some subject, which also sees the message that comes with a template.  It is a
function of the two: handlers that keep a state of their own are left out. -/
structure Handler (Subject : Type) where
  /-- Name in listings. -/
  name : String
  /-- The subject after the handler, and how the handler ends. -/
  handle : Option Json → Subject → Subject × Signal

/-- The note on a handler that stops its chain. -/
def Handler.stopNote {Subject : Type} (handler : Handler Subject) : Note where
  origin := .chain
  level := .debug
  message := "middleware stopped the chain"
  fields := [("handler", Text.quoted handler.name)]

/-- Handlers in the order in which they run. -/
abbrev Chain (Subject : Type) := List (Handler Subject)

/-- The result of running a chain. -/
structure Dispatch (Subject : Type) where
  /-- The subject after the handlers. -/
  subject : Subject
  /-- The number of handlers that ran. -/
  ran : Nat
  /-- Whether a handler stopped the chain. -/
  stopped : Bool
  /-- What is noted meanwhile. -/
  notes : List Note

namespace Chain

variable {Subject : Type}

/-- Run the handlers of a chain. -/
def dispatch (input : Option Json) : Chain Subject → Subject → Dispatch Subject
  | [], subject => { subject, ran := 0, stopped := false, notes := [] }
  | handler :: handlers, subject =>
      match handler.handle input subject with
      | (subject, .stop) => { subject, ran := 1, stopped := true, notes := [handler.stopNote] }
      | (subject, .proceed) =>
          let later := dispatch input handlers subject
          { later with ran := later.ran + 1 }
      | (subject, .failed error) =>
          let later := dispatch input handlers subject
          { later with ran := later.ran + 1, notes := error.note :: later.notes }

/-- The names of the handlers. -/
def names (chain : Chain Subject) : List String :=
  chain.map Handler.name

end Chain
end ChatMacro
