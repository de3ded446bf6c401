import ChatMacro.Folder.Path

/-!
# Trees of files

The files below a root, each at the place that the names on the way to it make up.  A directory is
there as long as a file is below it, as well as the directory in which the program works.
-/

namespace ChatMacro

/-- What is found under a path. -/
inductive Lookup where
  /-- Nothing. -/
  | missing
  /-- Nothing, and nothing can be put there. -/
  | blocked
  /-- Something that has no text. -/
  | unreadable
  /-- A file with its text. -/
  | text (content : String)
  deriving DecidableEq, Repr

namespace Lookup

/-- Whether anything is there. -/
def isThere : Lookup → Bool
  | missing | blocked => false
  | unreadable | text _ => true

end Lookup

/-- Names on the way from the root. -/
abbrev Place := List String

/-- A tree of files. -/
structure Folder where
  /-- Place of the directory in which the program works. -/
  current : Place
  /-- Places of the files with their texts. -/
  files : List (Place × String)
  deriving DecidableEq, Repr

namespace Folder

/-- Whether there is a directory at a place. -/
def hasDirectory (folder : Folder) (place : Place) : Bool :=
  place.isPrefixOf folder.current ||
    folder.files.any fun file => place.isPrefixOf file.1 && place != file.1

/-- What is at a place. -/
def contents (folder : Folder) (place : Place) : Lookup :=
  match folder.files.lookup place with
  | some content => .text content
  | none => if folder.hasDirectory place then .unreadable else .missing

/-- Where a path starts. -/
def origin (folder : Folder) (path : String) : Place :=
  if Path.isAbsolute path then [] else folder.current

/-- The place after one step from a directory. -/
def stepTo (place : Place) (step : String) : Place :=
  if step = "" || step = "." then place
  else if step = ".." then place.dropLast
  else place ++ [step]

/-- Follow steps from a place.  Every step starts from a directory. -/
def follow (folder : Folder) (place : Place) : List String → Lookup
  | [] => folder.contents place
  | step :: steps =>
      match folder.contents place with
      | .unreadable => follow folder (stepTo place step) steps
      | .text _ => .blocked
      | found => found

/-- Whether no file can have a path. -/
def isUnusable (path : String) : Bool :=
  path.toList.contains '\x00'

/-- Look a path up. -/
def look (folder : Folder) (path : String) : Lookup :=
  if path.isEmpty then .missing
  else if isUnusable path then .blocked
  else folder.follow (folder.origin path) (Path.steps path)

/-- The place where a new file has a path, directories on the way being made where they are missing.
No file may be in the way, and the last step has to be a name. -/
def target? (folder : Folder) (place : Place) : List String → Option Place
  | [] => none
  | [name] =>
      if name = "" || name = "." || name = ".." || folder.hasDirectory (place ++ [name]) then none
      else some (place ++ [name])
  | step :: next :: steps =>
      match folder.contents (stepTo place step) with
      | .text _ => none
      | _ => target? folder (stepTo place step) (next :: steps)

/-- Give the file at a place a text. -/
def put (place : Place) (content : String) : List (Place × String) → List (Place × String)
  | [] => [(place, content)]
  | (other, former) :: files =>
      if place = other then (place, content) :: files
      else (other, former) :: put place content files

/-- Write a file, if its path can have one. -/
def write? (folder : Folder) (path content : String) : Option Folder :=
  if path.isEmpty || isUnusable path then none
  else
    (folder.target? (folder.origin path) (Path.steps path)).map fun place =>
      { folder with files := put place content folder.files }

/-- The files below the directory in which the program works, under their relative paths. -/
def relativeFiles (folder : Folder) : List (String × String) :=
  folder.files.filterMap fun file =>
    if folder.current.isPrefixOf file.1 then
      some ("/".intercalate (file.1.drop folder.current.length), file.2)
    else
      none

/-- A tree with the given files below the directory in which the program works. -/
def ofRelative (current : Place) (files : List (String × String)) : Folder :=
  { current, files := files.map fun file => (current ++ Path.steps file.1, file.2) }

end Folder
end ChatMacro
