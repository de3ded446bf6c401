import ChatMacro.Handler.Chain
import ChatMacro.Text.Case
import ChatMacro.Text.Search

/-!
# Rejection

A word can be rejected: if it occurs in the text of the message, in letters of any size, the
template is not expanded at all.
-/

namespace ChatMacro

/-- The draft that stands for no expansion. -/
def brokenDraft : String := "BREAK"

namespace Rejection

/-- A word in small letters. -/
def lowered (word : String) : List Char :=
  Text.toLower word.toList

/-- Whether the text field of a message has a word in it. -/
def applies (word : String) (input : Option Json) : Bool :=
  match input.bind (·.field? "text") with
  | some (.string text) => Text.contains (lowered word) (Text.toLower text.toList)
  | _ => false

/-- The handler that breaks a draft off if a word is in the message. -/
def handler (word : String) : Handler String where
  name := "reject:" ++ String.ofList (lowered word)
  handle input draft := if applies word input then (brokenDraft, .stop) else (draft, .proceed)

end Rejection
end ChatMacro
