import ChatMacro.Proofs.Store.Lookup
import ChatMacro.Store.File
import ChatMacro.Store.Plan

/-!
# Answers and plans

A call either fails, and then the store stays as it is, or it acts on the entry under its path.
Running one plan after another runs the second on what the first has left.
-/

namespace ChatMacro

namespace FileStore

/-- A write of the file fails and keeps the store, or it replaces entries and text together. -/
theorem commit_cases (writable : Bool) (entries : Entries) (store : FileStore) :
    (∃ error, store.commit writable entries = (.error error, store)) ∨
      ∃ text, writable = true ∧ Document.encode entries = .ok text ∧
        store.commit writable entries = (.ok (), { entries, text := some text }) := by
  simp only [commit]
  cases encoded : Document.encode entries with
  | error error => exact .inl ⟨error, rfl⟩
  | ok text =>
      cases writable with
      | true => exact .inr ⟨text, rfl, rfl, rfl⟩
      | false => exact .inl ⟨.io, rfl⟩

/-- Putting data under a path fails without effect, or the written document holds its persisted
form. -/
theorem answer_set_cases (writable : Bool) (path : String) (value : Datum) (store : FileStore) :
    (∃ error, answer writable (.set path value) store = (.error error, store)) ∨
      ∃ text, Entries.checkPath path = .ok () ∧
        Document.encode (store.entries.insert path value.persisted) = .ok text ∧
        answer writable (.set path value) store =
          (.ok (),
            { entries := store.entries.insert path value.persisted, text := some text }) := by
  simp only [answer]
  cases Entries.checkPath path with
  | error error => exact .inl ⟨error, rfl⟩
  | ok =>
      cases Document.ofDatum path value.persisted with
      | error error => exact .inl ⟨error, rfl⟩
      | ok =>
          rcases store.commit_cases writable (store.entries.insert path value.persisted) with
            ⟨error, failed⟩ | ⟨text, _, encoded, written⟩
          · exact .inl ⟨error, failed⟩
          · exact .inr ⟨text, rfl, encoded, written⟩

/-- Removing a path fails without effect, finds nothing to remove, or the written document does
without its entry. -/
theorem answer_remove_cases (writable : Bool) (path : String) (store : FileStore) :
    (∃ error, answer writable (.remove path) store = (.error error, store)) ∨
      (Entries.checkPath path = .ok () ∧ store.entries.find? path = none ∧
        answer writable (.remove path) store = (.ok (), store)) ∨
      ∃ text, Entries.checkPath path = .ok () ∧
        Document.encode (store.entries.erase path) = .ok text ∧
        answer writable (.remove path) store =
          (.ok (), { entries := store.entries.erase path, text := some text }) := by
  simp only [answer]
  cases Entries.checkPath path with
  | error error => exact .inl ⟨error, rfl⟩
  | ok =>
      cases store.entries.find? path with
      | none => exact .inr (.inl ⟨rfl, rfl, rfl⟩)
      | some former =>
          rcases store.commit_cases writable (store.entries.erase path) with
            ⟨error, failed⟩ | ⟨text, _, encoded, written⟩
          · exact .inl ⟨error, failed⟩
          · exact .inr (.inr ⟨text, rfl, encoded, written⟩)

/-- A call that fails changes neither the entries nor the file. -/
theorem answer_of_error (writable : Bool) (call : Call) (store : FileStore) {error : StoreError}
    (failed : (answer writable call store).1 = .error error) :
    (answer writable call store).2 = store := by
  cases call with
  | get path => rfl
  | set path value =>
      rcases store.answer_set_cases writable path value with
        ⟨_, answered⟩ | ⟨_, _, _, answered⟩
      · rw [answered]
      · rw [answered] at failed
        exact absurd failed (by simp)
  | remove path =>
      rcases store.answer_remove_cases writable path with
        ⟨_, answered⟩ | ⟨_, _, answered⟩ | ⟨_, _, _, answered⟩
      · rw [answered]
      · rw [answered]
      · rw [answered] at failed
        exact absurd failed (by simp)

end FileStore

namespace Store

theorem answer_get (writable : Bool) (path : String) (store : Store) :
    answer writable (.get path) store =
      ((Entries.checkPath path).map fun _ => store.entries.find? path, store) := by
  cases store <;> rfl

/-- Putting data under a path fails without effect or inserts its persisted form. -/
theorem answer_set_cases (writable : Bool) (path : String) (value : Datum) (store : Store) :
    (∃ error, answer writable (.set path value) store = (.error error, store)) ∨
      ∃ after, answer writable (.set path value) store = (.ok (), after) ∧
        after.entries = store.entries.insert path value.persisted := by
  cases store with
  | memory entries =>
      simp only [answer, Entries.answer]
      cases Entries.checkPath path with
      | error error => exact .inl ⟨error, rfl⟩
      | ok => exact .inr ⟨_, rfl, rfl⟩
  | file store =>
      simp only [answer]
      rcases store.answer_set_cases writable path value with
        ⟨error, failed⟩ | ⟨text, _, _, written⟩
      · exact .inl ⟨error, by rw [failed]⟩
      · exact .inr ⟨.file _, by rw [written], rfl⟩

/-- Removing a path fails without effect or erases its entry, if there is one. -/
theorem answer_remove_cases (writable : Bool) (path : String) (store : Store) :
    (∃ error, answer writable (.remove path) store = (.error error, store)) ∨
      ∃ after, answer writable (.remove path) store = (.ok (), after) ∧
        after.entries = store.entries.erase path := by
  cases store with
  | memory entries =>
      simp only [answer, Entries.answer]
      cases Entries.checkPath path with
      | error error => exact .inl ⟨error, rfl⟩
      | ok => exact .inr ⟨_, rfl, rfl⟩
  | file store =>
      simp only [answer]
      rcases store.answer_remove_cases writable path with
        ⟨error, failed⟩ | ⟨_, absent, nothing⟩ | ⟨text, _, _, written⟩
      · exact .inl ⟨error, by rw [failed]⟩
      · exact .inr ⟨.file store, by rw [nothing], (Entries.erase_of_find?_eq_none absent).symm⟩
      · exact .inr ⟨.file _, by rw [written], rfl⟩

end Store

namespace Plan

variable {Error Other First Second Store : Type}

@[simp]
theorem pure_eq_done (result : First) : (pure result : Plan Error First) = done result := rfl

@[simp]
theorem bind_eq_andThen (plan : Plan Error First) (next : First → Plan Error Second) :
    plan >>= next = plan.andThen next := rfl

/-- The second plan runs on the store that the first has left, unless the first has failed. -/
theorem run_andThen (answer : Answer Store) (plan : Plan Error First)
    (next : First → Plan Error Second) (store : Store) :
    (plan.andThen next).run answer store =
      match plan.run answer store with
      | (.ok result, after) => (next result).run answer after
      | (.error error, after) => (.error error, after) := by
  induction plan generalizing store with
  | done => rfl
  | fail => rfl
  | note entry rest ih => exact ih store
  | ask call raise rest ih =>
      simp only [andThen, run]
      split
      · exact ih _ _
      · rfl

theorem run_noteAll (answer : Answer Store) (entries : List Note) (store : Store) :
    (noteAll entries : Plan Error Unit).run answer store = (.ok (), store) := by
  induction entries with
  | nil => rfl
  | cons entry entries ih => exact ih

/-- Errors that are put in other words come of the same run. -/
theorem run_mapError (answer : Answer Store) (convert : Error → Other) (plan : Plan Error First)
    (store : Store) :
    (plan.mapError convert).run answer store =
      ((plan.run answer store).1.mapError convert, (plan.run answer store).2) := by
  induction plan generalizing store with
  | done => rfl
  | fail => rfl
  | note entry rest ih => exact ih store
  | ask call raise next ih =>
      simp only [mapError, run]
      rcases answer call store with ⟨_ | reply, middle⟩
      · rfl
      · exact ih reply middle

end Plan
end ChatMacro
