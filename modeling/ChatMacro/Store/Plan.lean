import ChatMacro.Log
import ChatMacro.Store.Call

/-!
# Plans of calls

What is to be done with a store, apart from any store: either a result is known, or the plan is
given up, or something is noted in the log, or a call is made and the plan goes on with the reply.
Running a plan makes its calls one after the other and gives it up at the first one that fails.
-/

namespace ChatMacro

/-- A plan of calls that ends with a result, unless it is given up with an error. -/
inductive Plan (Error Result : Type) where
  /-- Nothing is left to do. -/
  | done (result : Result)
  /-- Give up. -/
  | fail (error : Error)
  /-- Note something and go on. -/
  | note (note : Note) (rest : Plan Error Result)
  /-- Make a call, and go on with the reply.  If the call fails, `raise` gives the error of the
  plan. -/
  | ask (call : Call) (raise : StoreError → Error) (next : call.Reply → Plan Error Result)

namespace Plan

variable {Error Other First Second Store : Type}

/-- One plan after the other. -/
def andThen (plan : Plan Error First) (next : First → Plan Error Second) : Plan Error Second :=
  match plan with
  | done result => next result
  | fail error => fail error
  | note entry rest => note entry (rest.andThen next)
  | ask call raise rest => ask call raise fun reply => (rest reply).andThen next

instance : Monad (Plan Error) where
  pure := done
  bind := andThen

/-- The same plan with its errors put in other words. -/
def mapError (convert : Error → Other) : Plan Error First → Plan Other First
  | done result => done result
  | fail error => fail (convert error)
  | note entry rest => note entry (rest.mapError convert)
  | ask call raise next =>
      ask call (fun cause => convert (raise cause)) fun reply => (next reply).mapError convert

/-- Note one thing after the other. -/
def noteAll : List Note → Plan Error Unit
  | [] => done ()
  | entry :: entries => note entry (noteAll entries)

/-- Carry a plan out on a store. -/
def run (answer : Answer Store) : Plan Error First → Store → Except Error First × Store
  | done result, store => (.ok result, store)
  | fail error, store => (.error error, store)
  | note _ rest, store => run answer rest store
  | ask call raise next, store =>
      match answer call store with
      | (.ok reply, store) => run answer (next reply) store
      | (.error cause, store) => (.error (raise cause), store)

end Plan
end ChatMacro
