import ChatMacro.Block
import ChatMacro.Handler.Chain

/-!
# Namespaces

The variables of a template can be kept apart by a field of the message: its text or number is put
in front of every variable name.
-/

namespace ChatMacro
namespace Namespace

/-- The text in front of names for a message, if its field holds a number or a text that is not
blank. -/
def scope? (field : String) (input : Option Json) : Option String :=
  match input.bind (·.field? field) with
  | some (.string text) => if Text.allBlank text.toList then none else some text
  | some (.integer value) => some (String.ofList (Json.integerText value))
  | some (.real value) => some (String.ofList (Json.realText value))
  | _ => none

/-- The handler that moves blocks into the namespace of a message. -/
def handler (field : String) : Handler Block where
  name := "namespace"
  handle input block :=
    match scope? field input with
    | some scope => (block.setName (scope ++ "." ++ block.name), .proceed)
    | none => (block, .proceed)

end Namespace
end ChatMacro
