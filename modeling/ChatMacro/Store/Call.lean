import ChatMacro.Datum
import ChatMacro.Text.Quoted

/-!
# Calls of a store

A store keeps data under paths.  It answers three calls: to look up a path, to put data there, and
to remove what is there.
-/

namespace ChatMacro

/-- Why a value has no place in a store file. -/
inductive Unstorable where
  /-- The document is not an object. -/
  | document
  /-- A number is infinite or NaN. -/
  | notFinite (value : Float)
  /-- A kind of JSON value that stands for no data. -/
  | shape (name : String)
  deriving DecidableEq

namespace Unstorable

/-- The reason in messages. -/
def reason : Unstorable → String
  | document => "store document is not a JSON object"
  | notFinite value => Numeral.write Numeral.plain value ++ " is not a finite number"
  | shape name => name ++ " values are not supported"

end Unstorable

/-- Why a store fails. -/
inductive StoreError where
  /-- The file cannot be read or written. -/
  | io
  /-- The file does not hold JSON. -/
  | json
  /-- No data can be kept under a path. -/
  | invalidPath (path : String)
  /-- Data cannot be kept in a file. -/
  | unsupported (path : String) (cause : Unstorable)
  /-- The store gives up a call. -/
  | task (detail : String)
  deriving DecidableEq

namespace StoreError

/-- The message of an error; what the system says about a file comes after it. -/
def message : StoreError → String
  | io => "store I/O"
  | json => "store encoding"
  | invalidPath path => "invalid store path " ++ Text.quoted path
  | unsupported path cause =>
      "value at " ++ Text.quoted path ++ " cannot be stored: " ++ cause.reason
  | task detail => "store task failed: " ++ detail

end StoreError

/-- A call of a store. -/
inductive Call where
  | get (path : String)
  | set (path : String) (value : Datum)
  | remove (path : String)
  deriving DecidableEq

namespace Call

/-- The path of a call. -/
def path : Call → String
  | get path => path
  | set path _ => path
  | remove path => path

/-- A call in logs. -/
def describe : Call → String
  | get path => "get " ++ path
  | set path _ => "set " ++ path
  | remove path => "remove " ++ path

/-- What a store replies to a call. -/
@[reducible]
def Reply : Call → Type
  | get _ => Option Datum
  | set _ _ => Unit
  | remove _ => Unit

end Call

/-- How a store answers: with a reply or an error, and with the store as it is afterwards. -/
abbrev Answer (Store : Type) :=
  (call : Call) → Store → Except StoreError call.Reply × Store

/-- A store with the calls that it has received. -/
structure Logged (Store : Type) where
  /-- The store. -/
  store : Store
  /-- The calls, in their order. -/
  calls : List Call

namespace Answer

/-- Answer calls and keep a log of them. -/
def logged {Store : Type} (answer : Answer Store) : Answer (Logged Store) := fun call state =>
  let (reply, store) := answer call state.store
  (reply, { store, calls := state.calls ++ [call] })

/-- Let some calls fail before they reach the store. -/
def failing {Store : Type} (failure? : Call → Option StoreError) (answer : Answer Store) :
    Answer Store := fun call store =>
  match failure? call with
  | some error => (.error error, store)
  | none => answer call store

end Answer
end ChatMacro
