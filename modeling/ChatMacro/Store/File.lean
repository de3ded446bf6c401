import ChatMacro.Store.Document
import ChatMacro.Text.Blank

/-!
# Stores

A store in memory is its entries.  A store in a file holds the entries in memory as well and writes
the whole file at every change: first the file is written, and only then the entries change.
-/

namespace ChatMacro

/-- A store that is kept in a file. -/
structure FileStore where
  /-- The entries in memory. -/
  entries : Entries
  /-- The text of the file, if there is one. -/
  text : Option String

namespace FileStore

/-- The store whose file has the given text.  A missing or blank file has no entries. -/
def load (text : Option String) : Except StoreError FileStore :=
  match text with
  | none => .ok { entries := .empty, text }
  | some content =>
      if Text.allBlank content.toList then
        .ok { entries := .empty, text }
      else
        (Document.decode content).map fun entries => { entries, text }

/-- Write a file with other entries, if it can be written. -/
def commit (writable : Bool) (entries : Entries) (store : FileStore) :
    Except StoreError Unit × FileStore :=
  match Document.encode entries with
  | .error error => (.error error, store)
  | .ok text =>
      if writable then (.ok (), { entries, text := some text }) else (.error .io, store)

/-- Answer a call.  What cannot be written is refused before anything changes, and nothing is
written to remove what is not there. -/
def answer (writable : Bool) : Answer FileStore
  | .get path, store => ((Entries.checkPath path).map fun _ => store.entries.find? path, store)
  | .set path value, store =>
      match Entries.checkPath path, Document.ofDatum path value.persisted with
      | .error error, _ => (.error error, store)
      | .ok (), .error error => (.error error, store)
      | .ok (), .ok _ =>
          store.commit writable (store.entries.insert path value.persisted)
  | .remove path, store =>
      match Entries.checkPath path, store.entries.find? path with
      | .error error, _ => (.error error, store)
      | .ok (), none => (.ok (), store)
      | .ok (), some _ => store.commit writable (store.entries.erase path)

end FileStore

/-- A store of either kind. -/
inductive Store where
  | memory (entries : Entries)
  | file (store : FileStore)

namespace Store

/-- The entries of a store. -/
def entries : Store → Entries
  | memory entries => entries
  | file store => store.entries

/-- The text of the file of a store, if it has a file and there is one. -/
def text? : Store → Option String
  | memory _ => none
  | file store => store.text

/-- Answer a call; a file is written only if it can be. -/
def answer (writable : Bool) : Answer Store
  | call, memory entries =>
      let (reply, entries) := Entries.answer call entries
      (reply, memory entries)
  | call, file store =>
      let (reply, store) := FileStore.answer writable call store
      (reply, file store)

end Store
end ChatMacro
