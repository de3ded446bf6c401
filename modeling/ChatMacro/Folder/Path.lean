import ChatMacro.Text.Search

/-!
# Paths of files

A path names a file by its steps, with slashes between them.  A path that starts with a slash is
absolute, and one that starts with a tilde stands below the home of the user.
-/

namespace ChatMacro
namespace Path

/-- Whether a path starts at the root. -/
def isAbsolute (path : String) : Bool :=
  Text.startsWith ['/'] path.toList

/-- A path below another one.  An absolute path stays as it is. -/
def join (base path : String) : String :=
  if isAbsolute path then path
  else if Text.endsWith ['/'] base.toList then base ++ path
  else base ++ "/" ++ path

/-- Put the home of the user in the place of a leading tilde. -/
def expandHome (home path : String) : String :=
  match path.toList with
  | ['~'] => home
  | '~' :: '/' :: rest => join home (String.ofList rest)
  | _ => path

/-- A path that does not start with a tilde stays as it is. -/
theorem expandHome_of_head? {path : String} (noTilde : path.toList.head? ≠ some '~')
    (home : String) : expandHome home path = path := by
  rw [expandHome]
  split <;> simp_all

/-- The steps of a path. -/
def steps (path : String) : List String :=
  (Text.splitOn '/' path.toList).map String.ofList

end Path
end ChatMacro
