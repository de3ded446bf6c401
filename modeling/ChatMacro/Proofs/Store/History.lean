import ChatMacro.Proofs.Datum
import ChatMacro.Proofs.Store.Document

/-!
# Histories of a store in a file

Whatever calls arrive, whichever writes of the file fail, and however often the store is opened
again, it answers like a store in memory that has received the accepted changes only.  Its entries
and its file agree all the time.
-/

namespace ChatMacro

theorem Datum.numbers_persisted {value : Datum} {number : Float}
    (member : number ∈ value.persisted.numbers) : number ∈ value.numbers := by
  cases value with
  | set items =>
      obtain ⟨atom, atomMember, numberMember⟩ := List.mem_flatMap.mp member
      exact List.mem_flatMap.mpr ⟨atom, Atom.mem_of_mem_distinct atomMember, numberMember⟩
  | _ => exact member

theorem Datum.Legible.persisted {value : Datum} (legible : value.Legible) :
    value.persisted.Legible :=
  fun number member => legible number (Datum.numbers_persisted member)

namespace Call

/-- Whether a call may change a store. -/
def isChange : Call → Bool
  | get _ => false
  | set _ _ | remove _ => true

end Call

namespace Entries

/-- The entries in memory after some calls. -/
def replay (calls : List Call) : Entries :=
  calls.foldl (fun entries call => (answer call entries).2) empty

end Entries

theorem Entries.All.plainZero {property : Datum → Prop} {entries : Entries}
    (all : entries.All property) (kept : ∀ value, property value → property value.plainZero) :
    entries.plainZero.All property := by
  intro path value found
  rw [Entries.find?_plainZero] at found
  obtain ⟨former, formerFound, rfl⟩ := Option.map_eq_some_iff.mp found
  exact kept former (all path former formerFound)

namespace Document

/-- A document starts with a brace. -/
theorem not_blank_of_encode {entries : Entries} {text : String}
    (encoded : encode entries = .ok text) : Text.allBlank text.toList = false := by
  obtain ⟨fields, _, made⟩ := Outcome.exists_of_bind_eq_ok encoded
  cases made
  rw [String.toList_ofList]
  cases fields with
  | nil => rfl
  | cons field fields => rfl

end Document

namespace FileStore

/-- What can happen to a store in a file. -/
inductive Event where
  /-- A call arrives, and the file can or cannot be written meanwhile. -/
  | called (writable : Bool) (call : Call)
  /-- The store is opened again. -/
  | reopened
  deriving DecidableEq

namespace Event

/-- The store after an event.  A store that cannot be opened again goes on as it is. -/
def apply (event : Event) (store : FileStore) : FileStore :=
  match event with
  | called writable call => (answer writable call store).2
  | reopened =>
      match load store.text with
      | .ok loaded => loaded
      | .error _ => store

/-- The change that an event asks for, if it is accepted. -/
def accepted? (event : Event) (store : FileStore) : Option Call :=
  match event with
  | called writable call =>
      if call.isChange && (answer writable call store).1.isOk then some call else none
  | reopened => none

/-- The numbers that an event brings are read back from their texts. -/
def Legible : Event → Prop
  | called _ (.set _ value) => value.Legible
  | _ => True

end Event

/-- A store whose file does not exist yet. -/
def fresh : FileStore :=
  { entries := .empty, text := none }

/-- The store after events. -/
def after (events : List Event) : FileStore :=
  events.foldl (fun store event => event.apply store) fresh

/-- The changes among events that a store accepts. -/
def acceptedFrom (store : FileStore) : List Event → List Call
  | [] => []
  | event :: events =>
      (event.accepted? store).toList ++ acceptedFrom (event.apply store) events

/-- The changes among events that a new store accepts. -/
def accepted (events : List Event) : List Call :=
  acceptedFrom fresh events

/-- A store in a file stands for the same data as entries in memory, and so does its file. -/
structure Mirrors (store : FileStore) (memory : Entries) : Prop where
  /-- The entries agree up to the sign of zero. -/
  agree : store.entries.plainZero = memory.plainZero
  /-- The entries have a document. -/
  free : store.entries.SetFree
  /-- Numbers are read back. -/
  legible : store.entries.All Datum.Legible
  /-- The file decodes to the entries; without a file there are none. -/
  file : match store.text with
    | none => store.entries = .empty
    | some text =>
        Text.allBlank text.toList = false ∧ Document.decode text = .ok store.entries.plainZero

namespace Mirrors

variable {store : FileStore} {memory : Entries}

theorem fresh : Mirrors FileStore.fresh .empty where
  agree := rfl
  free := Entries.all_empty
  legible := Entries.all_empty
  file := rfl

/-- Entries that have just been written are in the file. -/
theorem of_encoded {entries : Entries} {text : String}
    (agree : entries.plainZero = memory.plainZero) (free : entries.SetFree)
    (legible : entries.All Datum.Legible) (encoded : Document.encode entries = .ok text) :
    Mirrors { entries, text := some text } memory where
  agree := agree
  free := free
  legible := legible
  file := ⟨Document.not_blank_of_encode encoded, Document.decode_of_encode free legible encoded⟩

/-- An accepted change acts in memory as it does on the store. -/
theorem set (mirrors : Mirrors store memory) {path : String} {value : Datum}
    (legible : value.Legible) (valid : Entries.checkPath path = .ok ()) {text : String}
    (encoded : Document.encode (store.entries.insert path value.persisted) = .ok text) :
    Mirrors { entries := store.entries.insert path value.persisted, text := some text }
      (Entries.answer (.set path value) memory).2 := by
  have inserted : (Entries.answer (.set path value) memory).2 =
      memory.insert path value.persisted := by
    simp [Entries.answer, valid]
  rw [inserted]
  refine of_encoded ?_ (mirrors.free.insert path value.kind_persisted_ne_set)
    (mirrors.legible.insert path legible.persisted) encoded
  rw [Entries.plainZero_insert, Entries.plainZero_insert, mirrors.agree]

theorem remove (mirrors : Mirrors store memory) {path : String}
    (valid : Entries.checkPath path = .ok ()) {text : String}
    (encoded : Document.encode (store.entries.erase path) = .ok text) :
    Mirrors { entries := store.entries.erase path, text := some text }
      (Entries.answer (.remove path) memory).2 := by
  have erased : (Entries.answer (.remove path) memory).2 = memory.erase path := by
    simp [Entries.answer, valid]
  rw [erased]
  refine of_encoded ?_ (mirrors.free.erase path) (mirrors.legible.erase path) encoded
  rw [Entries.plainZero_erase, Entries.plainZero_erase, mirrors.agree]

/-- What is not in the store is not in memory either. -/
theorem remove_absent (mirrors : Mirrors store memory) {path : String}
    (valid : Entries.checkPath path = .ok ()) (absent : store.entries.find? path = none) :
    Mirrors store (Entries.answer (.remove path) memory).2 := by
  have erased : (Entries.answer (.remove path) memory).2 = memory.erase path := by
    simp [Entries.answer, valid]
  have nothing : memory.find? path = none := by
    have same := congrArg (Entries.find? · path) mirrors.agree
    simpa [Entries.find?_plainZero, absent] using same.symm
  rw [erased, Entries.erase_of_find?_eq_none nothing]
  exact mirrors

/-- The file of a store can be loaded, and what is loaded stands for the same data. -/
theorem load (mirrors : Mirrors store memory) :
    ∃ loaded, FileStore.load store.text = .ok loaded ∧ Mirrors loaded memory := by
  have file := mirrors.file
  cases content : store.text with
  | none =>
      rw [content] at file
      have agree := mirrors.agree
      rw [file] at agree
      exact ⟨_, rfl, agree, Entries.all_empty, Entries.all_empty, rfl⟩
  | some text =>
      rw [content] at file
      obtain ⟨notBlank, decoded⟩ := file
      refine ⟨{ entries := store.entries.plainZero, text := some text }, ?_, ?_, ?_, ?_, ?_⟩
      · simp [FileStore.load, notBlank, decoded, Except.map]
      · rw [Entries.plainZero_plainZero, mirrors.agree]
      · exact mirrors.free.plainZero fun value noSet => value.kind_plainZero ▸ noSet
      · exact mirrors.legible.plainZero fun _ => Datum.Legible.plainZero
      · exact ⟨notBlank, by rw [decoded, Entries.plainZero_plainZero]⟩

/-- Every event keeps the store and the memory together. -/
theorem step (mirrors : Mirrors store memory) {event : Event} (legible : event.Legible) :
    Mirrors (event.apply store) ((event.accepted? store).toList.foldl
      (fun entries call => (Entries.answer call entries).2) memory) := by
  cases event with
  | reopened =>
      obtain ⟨loaded, loading, loadedMirrors⟩ := mirrors.load
      simpa [Event.apply, Event.accepted?, loading] using loadedMirrors
  | called writable call =>
      simp only [Event.apply, Event.accepted?]
      cases call with
      | get path => exact mirrors
      | set path value =>
          rcases store.answer_set_cases writable path value with
            ⟨error, answered⟩ | ⟨text, valid, encoded, answered⟩
          · simpa [answered, Except.isOk, Except.toBool] using mirrors
          · simpa [answered, Except.isOk, Except.toBool, Call.isChange] using
              mirrors.set legible valid encoded
      | remove path =>
          rcases store.answer_remove_cases writable path with
            ⟨error, answered⟩ | ⟨valid, absent, answered⟩ | ⟨text, valid, encoded, answered⟩
          · simpa [answered, Except.isOk, Except.toBool] using mirrors
          · simpa [answered, Except.isOk, Except.toBool, Call.isChange] using
              mirrors.remove_absent valid absent
          · simpa [answered, Except.isOk, Except.toBool, Call.isChange] using
              mirrors.remove valid encoded

theorem run (mirrors : Mirrors store memory) (events : List Event)
    (legible : ∀ event ∈ events, event.Legible) :
    Mirrors (events.foldl (fun store event => event.apply store) store)
      ((acceptedFrom store events).foldl (fun entries call => (Entries.answer call entries).2)
        memory) := by
  induction events generalizing store memory with
  | nil => exact mirrors
  | cons event events ih =>
      rw [acceptedFrom, List.foldl_append]
      exact ih (mirrors.step (legible event List.mem_cons_self)) fun later member =>
        legible later (List.mem_cons_of_mem _ member)

/-- What is looked up in the store is what is looked up in memory. -/
theorem get (mirrors : Mirrors store memory) (writable : Bool) (path : String) :
    (answer writable (.get path) store).1.map (Option.map Datum.plainZero) =
      (Entries.answer (.get path) memory).1.map (Option.map Datum.plainZero) := by
  have same := congrArg (Entries.find? · path) mirrors.agree
  simp only [Entries.find?_plainZero] at same
  simp only [answer, Entries.answer]
  cases Entries.checkPath path with
  | error error => rfl
  | ok => exact congrArg Except.ok same

end Mirrors

/-- A store in a file answers like one in memory.  After any events, starting without a file, it
looks up what the accepted changes alone have left in memory, a call that fails changes neither
entries nor file, the file decodes to the entries, and the store can be opened again. -/
theorem answers_like_memory (events : List Event) (legible : ∀ event ∈ events, event.Legible) :
    (∀ writable path,
      (answer writable (.get path) (after events)).1.map (Option.map Datum.plainZero) =
        (Entries.answer (.get path) (Entries.replay (accepted events))).1.map
          (Option.map Datum.plainZero)) ∧
    (∀ writable call error, (answer writable call (after events)).1 = .error error →
      (answer writable call (after events)).2 = after events) ∧
    (∀ text, (after events).text = some text → ∃ entries, Document.decode text = .ok entries ∧
      entries.plainZero = (after events).entries.plainZero) ∧
    ∃ loaded, FileStore.load (after events).text = .ok loaded := by
  have mirrors : Mirrors (after events) (Entries.replay (accepted events)) :=
    Mirrors.fresh.run events legible
  refine ⟨mirrors.get, fun writable call _ => answer_of_error writable call _, ?_, ?_⟩
  · intro text content
    have file := mirrors.file
    rw [content] at file
    exact ⟨_, file.2, Entries.plainZero_plainZero _⟩
  · obtain ⟨loaded, loading, _⟩ := mirrors.load
    exact ⟨loaded, loading⟩

/-- A number with a fraction, a zero with a sign, a number that is refused, a write that fails, a
removal of nothing, and a second opening. -/
def mixedEvents : List Event :=
  [.called true (.set "a" (.number 2.5)),
   .called true (.set "b" (.set [.number (-0.0), .text "x"])),
   .called true (.set "b" (.number Number.nan)),
   .called false (.remove "a"),
   .called true (.remove "c"),
   .reopened,
   .called true (.set "c" (.text "y"))]

theorem answers_like_memory_mixed :
    (answer true (.get "b") (after mixedEvents)).1.map (Option.map Datum.plainZero) =
        .ok (some (.sequence [.number 0.0, .text "x"])) ∧
      ∃ loaded, FileStore.load (after mixedEvents).text = .ok loaded := by
  have fraction : Document.Legible 2.5 := fun _ _ => by rfl
  have zero : Document.Legible (-0.0) := Document.legible_of_zero (by decide)
  have notFinite : Document.Legible Number.nan := Document.legible_of_not_finite (by decide)
  have legible : ∀ event ∈ mixedEvents, event.Legible := by
    simp [mixedEvents, Event.Legible, Datum.Legible, Datum.numbers, Atom.numbers, fraction, zero,
      notFinite]
  obtain ⟨gets, _, _, loads⟩ := answers_like_memory mixedEvents legible
  have found : (Entries.replay (accepted mixedEvents)).find? "b" =
      some (.sequence [.number (-0.0), .text "x"]) := by
    decide +kernel
  refine ⟨(gets true "b").trans ?_, loads⟩
  simp only [Entries.answer, found]
  rfl

end FileStore
end ChatMacro
