import ChatMacro.Block
import ChatMacro.Store.Plan

/-!
# Resolving blocks

A block is resolved against the data under the path of its variable.  The value of a block is worked
out from that data alone; it is written back unless the block is a reference.  A block without a
value writes nothing and puts out its fallback.
-/

namespace ChatMacro

/-- Why an operand cannot be used. -/
inductive Malformation where
  /-- The result would not be a finite number. -/
  | notFinite (current : Float) (operator : Operator) (operand : Float)
  /-- An element does not point to a position. -/
  | notAnIndex (atom : Atom)
  deriving DecidableEq

/-- Why a block has no value. -/
inductive ValueError where
  | missing (name : String)
  | mismatch (name : String) (stored declared : Kind)
  | unsupported (name : String) (operator : Operator) (kind : Kind)
  | malformed (name : String) (cause : Malformation)
  deriving DecidableEq

namespace ValueError

/-- The message of an error. -/
def message : ValueError → String
  | missing name => name ++ ": not set"
  | mismatch name stored declared =>
      name ++ ": stored " ++ stored.name ++ " does not match declared " ++ declared.name
  | unsupported name operator kind =>
      name ++ ": operator `" ++ operator.symbol ++ "` is not supported for " ++ kind.name
  | malformed name (.notFinite current operator operand) =>
      name ++ ": " ++ Numeral.write Numeral.plain current ++ " " ++ operator.symbol ++ " " ++
        Numeral.write Numeral.plain operand ++ " is not finite"
  | malformed name (.notAnIndex atom) => name ++ ": " ++ atom.display ++ " is not an index"

end ValueError

/-- The path of a variable below a root; without a root it is the name itself. -/
def variablePath (root name : String) : String :=
  if root.isEmpty then name else root ++ "/" ++ name

/-- The elements whose position, counted from `position`, is not among the given ones. -/
def dropPositions (positions : List Nat) (position : Nat) : List Atom → List Atom
  | [] => []
  | atom :: atoms =>
      if positions.contains position then dropPositions positions (position + 1) atoms
      else atom :: dropPositions positions (position + 1) atoms

namespace Block

/-- The value of a variable that does not exist yet. -/
def initial (block : Block) : Datum :=
  match block.value with
  | .number value => .number (if block.operator.isNegative then -value else value)
  | value => value

/-- The refusal of an operator. -/
def refusal (block : Block) : ValueError :=
  .unsupported block.name block.operator block.kind

/-- The value of a block on two numbers, which has to be finite. -/
def updateNumber (block : Block) (current operand : Float) : Except ValueError Datum :=
  let finite (value : Float) : Except ValueError Datum :=
    if value.isFinite then .ok (.number value)
    else .error (.malformed block.name (.notFinite current block.operator operand))
  match block.operator with
  | .assign => finite operand
  | .add | .increment => finite (current + operand)
  | .subtract | .decrement => finite (current - operand)
  | .reference => .error block.refusal

/-- The value of a block on two texts. -/
def updateText (block : Block) (current operand : String) : Except ValueError Datum :=
  match block.operator with
  | .assign => .ok (.text operand)
  | .add => .ok (.text (current ++ operand))
  | _ => .error block.refusal

/-- The positions that elements point to. -/
def positions (block : Block) (atoms : List Atom) : Except ValueError (List Nat) :=
  atoms.mapM fun atom =>
    match atom.index? with
    | some position => .ok position
    | none => .error (.malformed block.name (.notAnIndex atom))

/-- The value of a block on two sequences: elements are appended, or removed by their positions. -/
def updateSequence (block : Block) (current operand : List Atom) : Except ValueError Datum :=
  match block.operator with
  | .assign => .ok (.sequence operand)
  | .add => .ok (.sequence (current ++ operand))
  | .subtract => do
      let positions ← block.positions operand
      return .sequence (dropPositions positions 0 current)
  | _ => .error block.refusal

/-- The value of a block on two sets: their union or their difference. -/
def updateSet (block : Block) (current operand : List Atom) : Except ValueError Datum :=
  match block.operator with
  | .assign => .ok (.set (Atom.distinct operand))
  | .add => .ok (.set (Atom.distinct (Atom.distinct current ++ operand)))
  | .subtract => .ok (.set ((Atom.distinct current).filter fun atom => !atom.isIn operand))
  | _ => .error block.refusal

/-- The value of a block on data of a fitting kind. -/
def update (block : Block) (stored : Datum) : Except ValueError Datum :=
  match block.kind with
  | .number =>
      match stored, block.value with
      | .number current, .number operand => block.updateNumber current operand
      | _, _ => .error block.refusal
  | .text =>
      match stored, block.value with
      | .text current, .text operand => block.updateText current operand
      | _, _ => .error block.refusal
  | .sequence =>
      match stored.items?, block.value.items? with
      | some current, some operand => block.updateSequence current operand
      | _, _ => .error block.refusal
  | .set =>
      match stored.items?, block.value.items? with
      | some current, some operand => block.updateSet current operand
      | _, _ => .error block.refusal

/-- The value of a block, given what is stored under the path of its variable. -/
def valueOn (block : Block) (stored? : Option Datum) : Except ValueError Datum :=
  match stored? with
  | none =>
      if block.operator = .reference then .error (.missing block.name) else .ok block.initial
  | some stored =>
      if block.operator = .reference then
        .ok stored
      else if block.kind.accepts stored.kind then
        block.update stored
      else
        .error (.mismatch block.name stored.kind block.kind)

/-- Work out the value of a block and write it back. -/
def apply (root : String) (block : Block) : Plan StoreError (Except ValueError Datum) :=
  let path := variablePath root block.name
  if block.isDeletion then
    .ask (.remove path) id fun _ => .done (.ok (.text ""))
  else
    .ask (.get path) id fun stored? =>
      match block.valueOn stored? with
      | .error error => .done (.error error)
      | .ok value =>
          if block.operator = .reference then
            .done (.ok value)
          else
            .ask (.set path value) id fun _ => .done (.ok value)

/-- The note on a block without a value. -/
def fellBackNote (block : Block) (error : ValueError) : Note where
  origin := .resolution
  level := .warning
  message := "variable block fell back"
  fields := [("block", block.name), ("error", error.message)]

/-- The note on what a block puts out. -/
def resolvedNote (block : Block) (output : Datum) : Note where
  origin := .resolution
  level := .debug
  message := "resolved block"
  fields :=
    [("name", block.name), ("operator", block.operator.symbol), ("output", output.display)]

/-- Record what a block puts out. -/
def putOut (block : Block) (output : Datum) : Plan StoreError Block :=
  .note (block.resolvedNote output) (.done { block with output := some output })

/-- Apply a block and record what it puts out. -/
def resolve (root : String) (block : Block) : Plan StoreError Block := do
  match ← block.apply root with
  | .ok value => block.putOut value
  | .error error => .note (block.fellBackNote error) (block.putOut block.fallbackOrZero)

end Block
end ChatMacro
