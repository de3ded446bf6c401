import ChatMacro.Proofs.Datum
import ChatMacro.Proofs.Store.Document

/-!
# Stores of finite data

A document can be written exactly for finite data.  A store in memory takes every number, and a
store in a file refuses those that are not finite and stays as it is.
-/

namespace ChatMacro

namespace Document

theorem ofAtom_isOk (path : String) (atom : Atom) : (ofAtom path atom).isOk = atom.isFinite := by
  cases atom with
  | text value => rfl
  | number value => exact ofNumber_isOk path value

theorem ofDatum_isOk (path : String) (value : Datum) :
    (ofDatum path value).isOk = value.isFinite := by
  have items_isOk (items : List Atom) :
      (items.mapM (ofAtom path)).isOk = items.all Atom.isFinite := by
    rw [Outcome.isOk_mapM]
    exact congrArg items.all (funext (ofAtom_isOk path))
  cases value with
  | text text => rfl
  | number number => exact ofNumber_isOk path number
  | sequence items => exact (Outcome.isOk_bind_ok _ _).trans (items_isOk items)
  | set items => exact (Outcome.isOk_bind_ok _ _).trans (items_isOk items)

end Document

namespace Entries

/-- All data is finite. -/
def Finite (entries : Entries) : Prop :=
  entries.All fun value => value.isFinite = true

theorem Finite.find? {entries : Entries} (finite : entries.Finite) {path : String} {value : Datum}
    (found : entries.find? path = some value) : value.isFinite = true :=
  finite path value found

theorem Finite.insert_iff {entries : Entries} (finite : entries.Finite) (path : String)
    (value : Datum) : (entries.insert path value).Finite ↔ value.isFinite = true := by
  constructor
  · intro inserted
    exact inserted path value (find?_insert_self entries path value)
  · intro valueFinite
    exact All.insert finite path valueFinite

/-- Exactly the entries with finite data alone can be written. -/
theorem encode_isOk_iff (entries : Entries) :
    (Document.encode entries).isOk = true ↔ entries.Finite := by
  have fields : (Document.encode entries).isOk =
      entries.toList.all fun entry => entry.2.isFinite := by
    refine (Outcome.isOk_bind_ok _ _).trans ?_
    rw [Outcome.isOk_mapM]
    refine congrArg entries.toList.all (funext fun entry => ?_)
    exact (Outcome.isOk_bind_ok _ _).trans (Document.ofDatum_isOk entry.1 entry.2)
  rw [fields, List.all_eq_true]
  constructor
  · intro finite path value found
    exact finite (path, value) (Keyed.mem_of_find?_eq_some found)
  · intro finite entry member
    exact All.of_mem finite member

end Entries

namespace FileStore

variable {store : FileStore} {path : String}

theorem commit_of_finite {entries : Entries} (finite : entries.Finite) :
    ∃ text, store.commit true entries = (.ok (), { entries, text := some text }) := by
  rcases store.commit_cases true entries with ⟨error, failed⟩ | ⟨text, _, _, written⟩
  · have encoded := entries.encode_isOk_iff.mpr finite
    cases outcome : Document.encode entries with
    | error other =>
        rw [outcome] at encoded
        cases encoded
    | ok text =>
        rw [commit, outcome] at failed
        cases failed
  · exact ⟨text, written⟩

/-- Finite data is put into a file that can be written. -/
theorem answer_set_of_finite (finite : store.entries.Finite)
    (valid : Entries.checkPath path = .ok ()) {value : Datum}
    (valueFinite : value.isFinite = true) :
    ∃ text, answer true (.set path value) store =
      (.ok (), { entries := store.entries.insert path value.persisted, text := some text }) := by
  have persistedFinite : value.persisted.isFinite = true := by
    rw [value.isFinite_persisted, valueFinite]
  obtain ⟨text, written⟩ :=
    store.commit_of_finite ((finite.insert_iff path value.persisted).mpr persistedFinite)
  have encoded := Document.ofDatum_isOk path value.persisted
  rw [persistedFinite] at encoded
  refine ⟨text, ?_⟩
  cases outcome : Document.ofDatum path value.persisted with
  | error error =>
      rw [outcome] at encoded
      cases encoded
  | ok json => simpa only [answer, valid, outcome] using written

/-- Data that is not finite is refused. -/
theorem answer_set_of_not_finite (writable : Bool) (path : String) {value : Datum}
    (notFinite : value.isFinite = false) :
    ∃ error, answer writable (.set path value) store = (.error error, store) := by
  have refused := Document.ofDatum_isOk path value.persisted
  rw [value.isFinite_persisted, notFinite] at refused
  simp only [answer]
  cases Entries.checkPath path with
  | error error => exact ⟨error, rfl⟩
  | ok =>
      cases outcome : Document.ofDatum path value.persisted with
      | error error => exact ⟨error, rfl⟩
      | ok json =>
          rw [outcome] at refused
          cases refused

theorem answer_remove_of_finite (finite : store.entries.Finite)
    (valid : Entries.checkPath path = .ok ()) :
    ∃ after, answer true (.remove path) store = (.ok (), after) ∧
      after.entries = store.entries.erase path := by
  simp only [answer, valid]
  cases found : store.entries.find? path with
  | none => exact ⟨store, rfl, (Entries.erase_of_find?_eq_none found).symm⟩
  | some value =>
      obtain ⟨text, written⟩ := store.commit_of_finite (Entries.All.erase finite path)
      exact ⟨_, written, rfl⟩

end FileStore
end ChatMacro
