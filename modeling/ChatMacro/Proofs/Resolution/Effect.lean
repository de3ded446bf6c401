import ChatMacro.Proofs.Store.Answer
import ChatMacro.Resolution

/-!
# The effect of resolving a block

Resolving a block fails with the store, keeps the store, removes the variable, or writes the value
of the block, if it has one.  Attempts are resolved one after the other, whatever becomes of the
earlier ones.
-/

namespace ChatMacro

/-- Roots and names without NUL make paths that can be used. -/
theorem checkPath_variablePath {root name : String} (rootNoNul : '\x00' ∉ root.toList)
    (named : name ≠ "") (noNul : '\x00' ∉ name.toList) :
    Entries.checkPath (variablePath root name) = .ok () := by
  rw [variablePath]
  split
  · exact Entries.checkPath_of_noNul named noNul
  · apply Entries.checkPath_of_noNul
    · simp
    · simp [rootNoNul, noNul]

namespace Block

/-- The ways in which resolving a block can end on a store. -/
inductive Effect (root : String) (block : Block) (store : Store) :
    Except StoreError Block × Store → Prop where
  /-- The store fails and stays as it is. -/
  | failed (error : StoreError) : Effect root block store (.error error, store)
  /-- The block puts something out and the store stays as it is. -/
  | kept (output : Datum) :
      Effect root block store (.ok { block with output := some output }, store)
  /-- The block removes its variable. -/
  | removed (after : Store) (deletion : block.isDeletion = true)
      (erased : after.entries = store.entries.erase (variablePath root block.name)) :
      Effect root block store (.ok { block with output := some (.text "") }, after)
  /-- The block puts out the value that it writes. -/
  | written (value : Datum) (after : Store) (noReference : block.operator ≠ .reference)
      (valued : block.valueOn (store.entries.find? (variablePath root block.name)) = .ok value)
      (inserted :
        after.entries = store.entries.insert (variablePath root block.name) value.persisted) :
      Effect root block store (.ok { block with output := some value }, after)

/-- What a resolution does with the outcome of applying its block. -/
def settle (block : Block) : Except ValueError Datum → Block
  | .ok value => { block with output := some value }
  | .error _ => { block with output := some block.fallbackOrZero }

/-- What is noted on the outcome of applying a block. -/
def settlingNotes (block : Block) : Except ValueError Datum → List Note
  | .ok value => [block.resolvedNote value]
  | .error error => [block.fellBackNote error, block.resolvedNote block.fallbackOrZero]

theorem resolve_eq (root : String) (block : Block) :
    block.resolve root =
      (block.apply root).andThen fun outcome =>
        (Plan.noteAll (block.settlingNotes outcome)).andThen fun _ =>
          .done (block.settle outcome) := by
  simp only [resolve, Plan.bind_eq_andThen]
  congr 1
  funext outcome
  cases outcome <;> rfl

section

variable {State : Type} (answer : Answer State) (root : String) {block : Block} {state : State}

/-- A resolution does what applying its block does, and replaces a value that is missing. -/
theorem run_resolve (block : Block) (state : State) :
    (block.resolve root).run answer state =
      match (block.apply root).run answer state with
      | (.ok outcome, after) => (.ok (block.settle outcome), after)
      | (.error error, after) => (.error error, after) := by
  rw [resolve_eq, Plan.run_andThen]
  rcases (block.apply root).run answer state with ⟨_ | outcome, after⟩
  · rfl
  · simp only [Plan.run_andThen, Plan.run_noteAll, Plan.run]

theorem run_apply_of_deletion (deletion : block.isDeletion = true) (state : State) :
    (block.apply root).run answer state =
      match answer (.remove (variablePath root block.name)) state with
      | (.ok _, after) => (.ok (.ok (.text "")), after)
      | (.error error, after) => (.error error, after) := by
  simp only [apply, deletion, if_true, Plan.run]
  rcases answer (.remove (variablePath root block.name)) state with ⟨_ | reply, after⟩ <;> rfl

theorem run_apply_of_get_error (noDeletion : block.isDeletion = false) {error : StoreError}
    (got : answer (.get (variablePath root block.name)) state = (.error error, state)) :
    (block.apply root).run answer state = (.error error, state) := by
  simp only [apply, noDeletion, Bool.false_eq_true, if_false, Plan.run, got, id_eq]

/-- A block that is no deletion is applied to what is found under the path of its variable. -/
theorem run_apply (noDeletion : block.isDeletion = false) {stored? : Option Datum}
    (got : answer (.get (variablePath root block.name)) state = (.ok stored?, state)) :
    (block.apply root).run answer state =
      match block.valueOn stored? with
      | .error error => (.ok (.error error), state)
      | .ok value =>
          if block.operator = .reference then
            (.ok (.ok value), state)
          else
            match answer (.set (variablePath root block.name) value) state with
            | (.ok _, after) => (.ok (.ok value), after)
            | (.error error, after) => (.error error, after) := by
  simp only [apply, noDeletion, Bool.false_eq_true, if_false, Plan.run, got]
  cases block.valueOn stored? with
  | error error => rfl
  | ok value =>
      by_cases reference : block.operator = .reference
      · simp only [reference, if_true, Plan.run]
      · simp only [reference, if_false, Plan.run]
        rcases answer (.set (variablePath root block.name) value) state with ⟨_ | reply, after⟩ <;>
          rfl

end

/-- Every resolution has one of the effects, whether or not the file of the store can be written. -/
theorem effect_resolve (root : String) (block : Block) (writable : Bool) (store : Store) :
    block.Effect root store ((block.resolve root).run (Store.answer writable) store) := by
  rw [run_resolve]
  cases deletion : block.isDeletion with
  | true =>
      rw [run_apply_of_deletion _ root deletion]
      rcases store.answer_remove_cases writable (variablePath root block.name) with
        ⟨error, answered⟩ | ⟨after, answered, erased⟩
      · rw [answered]
        exact .failed error
      · rw [answered]
        exact .removed after deletion erased
  | false =>
      have got := store.answer_get writable (variablePath root block.name)
      cases valid : Entries.checkPath (variablePath root block.name) with
      | error error =>
          rw [valid] at got
          rw [run_apply_of_get_error _ root deletion got]
          exact .failed error
      | ok =>
          rw [valid] at got
          rw [run_apply _ root deletion got]
          cases valued : block.valueOn (store.entries.find? (variablePath root block.name)) with
          | error error => exact .kept block.fallbackOrZero
          | ok value =>
              by_cases reference : block.operator = .reference
              · simp only [reference, if_true]
                exact .kept value
              · simp only [reference, if_false]
                rcases store.answer_set_cases writable (variablePath root block.name) value with
                  ⟨error, answered⟩ | ⟨after, answered, inserted⟩
                · rw [answered]
                  exact .failed error
                · rw [answered]
                  exact .written value after reference valued inserted

theorem noDeletion_of_subtract {block : Block} (subtracts : block.operator = .subtract) :
    block.isDeletion = false := by
  rw [isDeletion, subtracts]
  rfl

/-- Resolving a block puts a value out and has its persisted form stored under the path of the
variable.  If the store does not take the value, its error is all that comes of the block. -/
def Rewrites (root : String) (block : Block) (store : Store) (value : Datum) : Prop :=
  ∀ writable,
    match Store.answer writable (.set (variablePath root block.name) value) store with
    | (.ok _, after) =>
        (block.resolve root).run (Store.answer writable) store =
            (.ok { block with output := some value }, after) ∧
          after.entries.find? (variablePath root block.name) = some value.persisted
    | (.error error, _) =>
        (block.resolve root).run (Store.answer writable) store = (.error error, store)

section

variable {root : String} {block : Block} {store : Store} (noDeletion : block.isDeletion = false)
  (valid : Entries.checkPath (variablePath root block.name) = .ok ())

include noDeletion valid

/-- A block that has a value on what is stored writes it. -/
theorem rewrites_of_valueOn (noReference : block.operator ≠ .reference) {value : Datum}
    (valued : block.valueOn (store.entries.find? (variablePath root block.name)) = .ok value) :
    block.Rewrites root store value := by
  intro writable
  have got := store.answer_get writable (variablePath root block.name)
  rw [valid] at got
  rw [run_resolve, run_apply _ root noDeletion got, valued]
  simp only [noReference, if_false]
  rcases store.answer_set_cases writable (variablePath root block.name) value with
    ⟨error, answered⟩ | ⟨after, answered, inserted⟩
  · rw [answered]
  · rw [answered]
    refine ⟨rfl, ?_⟩
    rw [inserted, Entries.find?_insert_self]

/-- A block that has no value on what is stored puts its fallback out and keeps the store. -/
theorem resolve_of_valueOn_error {error : ValueError}
    (valued : block.valueOn (store.entries.find? (variablePath root block.name)) = .error error)
    (writable : Bool) :
    (block.resolve root).run (Store.answer writable) store =
      (.ok { block with output := some block.fallbackOrZero }, store) := by
  have got := store.answer_get writable (variablePath root block.name)
  rw [valid] at got
  rw [run_resolve, run_apply _ root noDeletion got, valued]
  rfl

end

end Block

/-- A block to be resolved, and whether the file of the store can be written meanwhile. -/
structure Attempt where
  /-- The block. -/
  block : Block
  /-- Whether the file can be written. -/
  writable : Bool
  deriving DecidableEq

namespace Attempt

/-- Resolve the block of an attempt. -/
def run (root : String) (attempt : Attempt) (store : Store) : Except StoreError Block × Store :=
  (attempt.block.resolve root).run (Store.answer attempt.writable) store

/-- Resolve the blocks of attempts one after the other, and pair them with what comes of them. -/
def runAll (root : String) :
    List Attempt → Store → List (Attempt × Except StoreError Block) × Store
  | [], store => ([], store)
  | attempt :: attempts, store =>
      let (outcome, store) := attempt.run root store
      let (outcomes, store) := runAll root attempts store
      ((attempt, outcome) :: outcomes, store)

end Attempt
end ChatMacro
