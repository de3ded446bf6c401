import ChatMacro.Keyed
import ChatMacro.Store.Call

/-!
# Entries of a store

The data that a store keeps, under their paths in code point order.  Kept in memory, they answer
calls by themselves.
-/

namespace ChatMacro

/-- Data under paths. -/
structure Entries where
  /-- The paths with their data. -/
  toList : List (String × Datum)
  /-- The paths increase. -/
  ordered : Keyed.Ordered toList

namespace Entries

/-- No data at all. -/
def empty : Entries := ⟨[], List.Pairwise.nil⟩

/-- The data under a path. -/
def find? (entries : Entries) (path : String) : Option Datum :=
  Keyed.find? path entries.toList

/-- Put data under a path. -/
def insert (entries : Entries) (path : String) (value : Datum) : Entries :=
  ⟨Keyed.insert path value entries.toList, entries.ordered.insert path value⟩

/-- Remove the data under a path. -/
def erase (entries : Entries) (path : String) : Entries :=
  ⟨Keyed.erase path entries.toList, entries.ordered.erase path⟩

/-- The entries of a list in the form that stores keep; the last of several data under one path
counts. -/
def ofList (entries : List (String × Datum)) : Entries :=
  entries.foldl (fun kept entry => kept.insert entry.1 entry.2.persisted) empty

/-- Refuse the paths under which nothing can be kept: the empty one, and those with a NUL. -/
def checkPath (path : String) : Except StoreError Unit :=
  if path.isEmpty || path.toList.contains '\x00' then .error (.invalidPath path) else .ok ()

/-- Answer a call from memory. -/
def answer : Answer Entries
  | .get path, entries => ((checkPath path).map fun _ => entries.find? path, entries)
  | .set path value, entries =>
      match checkPath path with
      | .ok () => (.ok (), entries.insert path value.persisted)
      | .error error => (.error error, entries)
  | .remove path, entries =>
      match checkPath path with
      | .ok () => (.ok (), entries.erase path)
      | .error error => (.error error, entries)

end Entries
end ChatMacro
