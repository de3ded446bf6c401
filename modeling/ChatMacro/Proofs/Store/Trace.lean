import ChatMacro.Proofs.Store.Answer

/-!
# Traces of plans

Which calls a plan makes depends on the replies alone, so logging them changes nothing.  A plan one
of whose calls is interrupted has made the same calls up to there, and ends with the error of that
call.
-/

namespace ChatMacro

/-- A call that fails, and the calls that a run has made before it. -/
structure Interruption where
  /-- The calls before. -/
  before : List Call
  /-- The call that fails. -/
  call : Call
  /-- Its error. -/
  error : StoreError
  deriving DecidableEq

namespace Interruption

/-- The first of some calls that fails, after the calls `log` of earlier runs. -/
def first? (failure? : List Call → Call → Option StoreError) (log : List Call) :
    List Call → Option Interruption
  | [] => none
  | call :: calls =>
      match failure? log call with
      | some error => some { before := [], call, error }
      | none =>
          (first? failure? (log ++ [call]) calls).map fun interruption =>
            { interruption with before := call :: interruption.before }

end Interruption

namespace Answer

variable {Store : Type}

/-- Keep a log of calls, and let some of them fail before they reach the store.  Which calls fail
may depend on the calls before, so one of several equal calls can be meant. -/
def interrupted (failure? : List Call → Call → Option StoreError) (answer : Answer Store) :
    Answer (Logged Store) := fun call state =>
  match failure? state.calls call with
  | some error => (.error error, { state with calls := state.calls ++ [call] })
  | none => answer.logged call state

/-- The store that some calls leave. -/
def replay (answer : Answer Store) (calls : List Call) (store : Store) : Store :=
  calls.foldl (fun store call => (answer call store).2) store

/-- Whether no call of a list fails, each on the store that the calls before it leave. -/
def serves (answer : Answer Store) : List Call → Store → Bool
  | [], _ => true
  | call :: calls, store => (answer call store).1.isOk && answer.serves calls (answer call store).2

end Answer

namespace Plan

variable {Error Other Result First Second Store : Type}

/-- The calls that a plan makes on a store, up to the first that fails. -/
def calls (answer : Answer Store) : Plan Error Result → Store → List Call
  | done _, _ => []
  | fail _, _ => []
  | note _ rest, store => rest.calls answer store
  | ask call _ next, store =>
      call ::
        match answer call store with
        | (.ok reply, store) => (next reply).calls answer store
        | (.error _, _) => []

theorem calls_andThen (answer : Answer Store) (plan : Plan Error First)
    (next : First → Plan Error Second) (store : Store) :
    (plan.andThen next).calls answer store =
      plan.calls answer store ++
        match plan.run answer store with
        | (.ok result, after) => (next result).calls answer after
        | (.error _, _) => [] := by
  induction plan generalizing store with
  | done => rfl
  | fail => rfl
  | note entry rest ih => exact ih store
  | ask call raise rest ih =>
      simp only [andThen, calls, run, List.cons_append]
      rcases answer call store with ⟨_ | reply, middle⟩
      · rfl
      · exact congrArg (call :: ·) (ih reply middle)

theorem calls_noteAll (answer : Answer Store) (entries : List Note) (store : Store) :
    (noteAll entries : Plan Error Unit).calls answer store = [] := by
  induction entries with
  | nil => rfl
  | cons entry entries ih => exact ih

theorem calls_mapError (answer : Answer Store) (convert : Error → Other)
    (plan : Plan Error Result) (store : Store) :
    (plan.mapError convert).calls answer store = plan.calls answer store := by
  induction plan generalizing store with
  | done => rfl
  | fail => rfl
  | note entry rest ih => exact ih store
  | ask call raise next ih =>
      simp only [mapError, calls]
      rcases answer call store with ⟨_ | reply, middle⟩
      · rfl
      · exact congrArg (call :: ·) (ih reply middle)

/-- A log holds the calls that a plan makes, and nothing else changes. -/
theorem run_logged (answer : Answer Store) (plan : Plan Error Result) (state : Logged Store) :
    plan.run answer.logged state =
      ((plan.run answer state.store).1,
        { store := (plan.run answer state.store).2,
          calls := state.calls ++ plan.calls answer state.store }) := by
  induction plan generalizing state with
  | done => simp only [run, calls, List.append_nil]
  | fail => simp only [run, calls, List.append_nil]
  | note entry rest ih => exact ih state
  | ask call raise rest ih =>
      simp only [run, calls, Answer.logged]
      rcases answer call state.store with ⟨_ | reply, middle⟩
      · rfl
      · simp only [ih, List.append_assoc, List.singleton_append]

/-- What a plan notes while it is carried out on a store. -/
def notes (answer : Answer Store) : Plan Error Result → Store → List Note
  | done _, _ => []
  | fail _, _ => []
  | note entry rest, store => entry :: rest.notes answer store
  | ask call _ next, store =>
      match answer call store with
      | (.ok reply, store) => (next reply).notes answer store
      | (.error _, _) => []

/-! ## Errors of the store -/

/-- A plan is given up only for calls that fail, `raise` makes its error of theirs, and all that it
notes has a property. -/
def KeepsTo (raise : StoreError → Error) (property : Note → Prop) : Plan Error Result → Prop
  | done _ => True
  | fail _ => False
  | note entry rest => property entry ∧ rest.KeepsTo raise property
  | ask _ raised next => raised = raise ∧ ∀ reply, (next reply).KeepsTo raise property

section

variable {raise : StoreError → Error} {property : Note → Prop} {plan : Plan Error First}

theorem KeepsTo.andThen (keeps : plan.KeepsTo raise property) {next : First → Plan Error Second}
    (later : ∀ result, (next result).KeepsTo raise property) :
    (plan.andThen next).KeepsTo raise property := by
  induction plan with
  | done result => exact later result
  | fail => exact keeps.elim
  | note entry rest ih => exact ⟨keeps.1, ih keeps.2⟩
  | ask call raised rest ih => exact ⟨keeps.1, fun reply => ih reply (keeps.2 reply)⟩

theorem keepsTo_noteAll {entries : List Note} (all : ∀ entry ∈ entries, property entry) :
    (noteAll entries).KeepsTo raise property := by
  induction entries with
  | nil => trivial
  | cons entry entries ih =>
      obtain ⟨first, others⟩ := List.forall_mem_cons.mp all
      exact ⟨first, ih others⟩

theorem KeepsTo.mapError (keeps : plan.KeepsTo raise property) (convert : Error → Other) :
    (plan.mapError convert).KeepsTo (fun cause => convert (raise cause)) property := by
  induction plan with
  | done => trivial
  | fail => exact keeps.elim
  | note entry rest ih => exact ⟨keeps.1, ih keeps.2⟩
  | ask call raised rest ih =>
      obtain ⟨rfl, later⟩ := keeps
      exact ⟨rfl, fun reply => ih reply (later reply)⟩

/-- A plan ends with a result exactly if none of its calls fails. -/
theorem KeepsTo.serves_calls (keeps : plan.KeepsTo raise property) (answer : Answer Store)
    (store : Store) :
    answer.serves (plan.calls answer store) store = (plan.run answer store).1.isOk := by
  induction plan generalizing store with
  | done => rfl
  | fail => exact keeps.elim
  | note entry rest ih => exact ih keeps.2 store
  | ask call raised rest ih =>
      simp only [calls, run, Answer.serves]
      rcases answer call store with ⟨_ | reply, middle⟩
      · rfl
      · exact ih reply (keeps.2 reply) middle

/-- The error of a plan is made of that of a call. -/
theorem KeepsTo.exists_of_run_eq_error (keeps : plan.KeepsTo raise property)
    {answer : Answer Store} {store after : Store} {error : Error}
    (failed : plan.run answer store = (.error error, after)) : ∃ cause, error = raise cause := by
  induction plan generalizing store with
  | done => cases failed
  | fail => exact keeps.elim
  | note entry rest ih => exact ih keeps.2 failed
  | ask call raised rest ih =>
      obtain ⟨rfl, later⟩ := keeps
      simp only [run] at failed
      split at failed
      · exact ih _ (later _) failed
      · next cause _ _ =>
        cases failed
        exact ⟨cause, rfl⟩

theorem KeepsTo.forall_mem_notes (keeps : plan.KeepsTo raise property) (answer : Answer Store)
    (store : Store) : ∀ entry ∈ plan.notes answer store, property entry := by
  induction plan generalizing store with
  | done => exact nofun
  | fail => exact keeps.elim
  | note entry rest ih => exact List.forall_mem_cons.mpr ⟨keeps.1, ih keeps.2 store⟩
  | ask call raised rest ih =>
      simp only [notes]
      rcases answer call store with ⟨_ | reply, middle⟩
      · exact nofun
      · exact ih reply (keeps.2 reply) middle

/-- A plan either meets no interruption, or it ends with the first one: the calls before have had
their effect, the call itself has none, and no other follows. -/
theorem KeepsTo.run_interrupted (keeps : plan.KeepsTo raise property)
    (failure? : List Call → Call → Option StoreError) (answer : Answer Store)
    (state : Logged Store) :
    plan.run (answer.interrupted failure?) state =
      match Interruption.first? failure? state.calls (plan.calls answer state.store) with
      | none => plan.run answer.logged state
      | some interruption =>
          (.error (raise interruption.error),
            { store := answer.replay interruption.before state.store,
              calls := state.calls ++ interruption.before ++ [interruption.call] }) := by
  induction plan generalizing state with
  | done => rfl
  | fail => exact keeps.elim
  | note entry rest ih => exact ih keeps.2 state
  | ask call raised rest ih =>
      obtain ⟨rfl, later⟩ := keeps
      simp only [run, calls, Interruption.first?, Answer.interrupted]
      cases failure? state.calls call with
      | some error => simp [Answer.replay]
      | none =>
          simp only [Answer.logged]
          rcases answered : answer call state.store with ⟨_ | reply, middle⟩
          · rfl
          · simp only [ih reply (later reply)]
            cases Interruption.first? failure? (state.calls ++ [call])
                ((rest reply).calls answer middle) with
            | none => rfl
            | some interruption => simp [Answer.replay, answered]

end

end Plan
end ChatMacro
