import ChatMacro.Json.Reader
import ChatMacro.Store.Entries

/-!
# Store documents

The text of a store file is a JSON object with a field for each path: a string, a number, or an
array of strings and numbers.  Whole numbers of a magnitude below `2 ^ 53` are written as integers.
-/

namespace ChatMacro
namespace Document

/-- The JSON number of a finite number. -/
def ofNumber (path : String) (value : Float) : Except StoreError Json :=
  match Binary.ofFloat? value with
  | none => .error (.unsupported path (.notFinite value))
  | some number =>
      if number.fraction = 0 && number.whole < Nat.pow 2 53 then
        .ok (.integer (if number.negative then -(number.whole : Int) else number.whole))
      else
        .ok (.real value)

/-- The JSON value of an element. -/
def ofAtom (path : String) : Atom → Except StoreError Json
  | .text value => .ok (.string value)
  | .number value => ofNumber path value

/-- The JSON value of data. -/
def ofDatum (path : String) : Datum → Except StoreError Json
  | .text value => .ok (.string value)
  | .number value => ofNumber path value
  | .sequence items | .set items => do
      let values ← items.mapM (ofAtom path)
      return .array values

/-- The field of an entry. -/
def ofEntry (entry : String × Datum) : Except StoreError (String × Json) := do
  let value ← ofDatum entry.1 entry.2
  return (entry.1, value)

/-- The text of a store file with the given entries. -/
def encode (entries : Entries) : Except StoreError String := do
  let fields ← entries.toList.mapM ofEntry
  return String.ofList ((Json.object fields).pretty 0)

/-- The element that a JSON value stands for. -/
def toAtom (path : String) : Json → Except StoreError Atom
  | .string value => .ok (.text value)
  | .integer value => .ok (.number (Float.ofInt value))
  | .real value => .ok (.number value)
  | _ => .error (.unsupported path (.shape "nested"))

/-- The data that a JSON value stands for. -/
def toDatum (path : String) : Json → Except StoreError Datum
  | .string value => .ok (.text value)
  | .integer value => .ok (.number (Float.ofInt value))
  | .real value => .ok (.number value)
  | .array items => do
      let atoms ← items.mapM (toAtom path)
      return .sequence atoms
  | .bool _ => .error (.unsupported path (.shape "boolean"))
  | .null => .error (.unsupported path (.shape "null"))
  | .object _ => .error (.unsupported path (.shape "object"))

/-- The entry of a field. -/
def toEntry (field : String × Json) : Except StoreError (String × Datum) := do
  let value ← toDatum field.1 field.2
  return (field.1, value)

/-- The entries of a store file. -/
def decode (text : String) : Except StoreError Entries :=
  match Json.parse? text.toList with
  | none => .error .json
  | some (.object fields) => do
      let entries ← fields.mapM toEntry
      return entries.foldl (fun kept entry => kept.insert entry.1 entry.2) Entries.empty
  | some _ => .error (.unsupported "" .document)

end Document
end ChatMacro
