import ChatMacro.Proofs.Resolution.Effect
import ChatMacro.Proofs.Resolution.Overflow
import ChatMacro.Proofs.Store.Finite

/-!
# Taking turns

Blocks take turns on a store, each on what the one before has left.  On finite data a turn goes
wrong exactly if its block takes over an operand that is not finite: a store in memory keeps the
operand, and a store in a file fails.
-/

namespace ChatMacro

/-- A block and the store that it meets. -/
structure Turn where
  /-- The block. -/
  block : Block
  /-- The store, whose file can be written if there is one. -/
  store : Store

namespace Turn

/-- Work out the value of the block and write it back. -/
def apply (root : String) (turn : Turn) : Except StoreError (Except ValueError Datum) × Store :=
  (turn.block.apply root).run (Store.answer true) turn.store

/-- Resolve the block. -/
def resolve (root : String) (turn : Turn) : Except StoreError Block × Store :=
  (turn.block.resolve root).run (Store.answer true) turn.store

/-- The turns that blocks take one after the other. -/
def all (root : String) : List Block → Store → List Turn
  | [], _ => []
  | block :: blocks, store => ⟨block, store⟩ :: all root blocks (resolve root ⟨block, store⟩).2

/-- What is stored under the path of the variable. -/
def stored? (root : String) (turn : Turn) : Option Datum :=
  turn.store.entries.find? (variablePath root turn.block.name)

/-- The operand, or the number that the block makes of a stored one, is not finite. -/
def overflows (root : String) (turn : Turn) : Bool :=
  turn.block.overflows (turn.stored? root)

/-- The block takes over an operand that is not finite. -/
def leaks (root : String) (turn : Turn) : Bool :=
  turn.block.leaks (turn.stored? root)

/-- The block only looks its operand up in what is taken for a set. -/
def looksUp (root : String) (turn : Turn) : Bool :=
  turn.block.looksUp (turn.stored? root)

/-- The block has no value: it puts out its fallback and keeps the store. -/
def FailsOnValue (root : String) (turn : Turn) : Prop :=
  (∃ error, turn.apply root = (.ok (.error error), turn.store)) ∧
    turn.resolve root =
      (.ok { turn.block with output := some turn.block.fallbackOrZero }, turn.store)

/-- The block has been read from a text, and its path can be used. -/
structure Valid (root : String) (block : Block) : Prop where
  written : block.Written
  path : Entries.checkPath (variablePath root block.name) = .ok ()

variable {root : String}

theorem valid_of_parse? (rootNoNul : '\x00' ∉ root.toList) {inner : String} {block : Block}
    (parsed : Block.parse? inner = some block) (noNul : '\x00' ∉ block.name.toList) :
    Valid root block := by
  obtain ⟨named, written⟩ := Block.parse?_cases parsed
  exact ⟨written, checkPath_variablePath rootNoNul named noNul⟩

theorem block_mem_of_mem_all {turn : Turn} {blocks : List Block} {store : Store}
    (member : turn ∈ all root blocks store) : turn.block ∈ blocks := by
  induction blocks generalizing store with
  | nil => cases member
  | cons block blocks ih =>
      rcases List.mem_cons.mp member with rfl | later
      · exact List.mem_cons_self
      · exact List.mem_cons_of_mem _ (ih later)

theorem get_of_valid {turn : Turn} (valid : Valid root turn.block) :
    Store.answer true (.get (variablePath root turn.block.name)) turn.store =
      (.ok (turn.stored? root), turn.store) := by
  rw [Store.answer_get, valid.path]
  rfl

/-- On finite data a block keeps the store, removes its variable, or writes a value that is finite
unless the block leaks. -/
theorem resolve_cases {turn : Turn} (valid : Valid root turn.block)
    (finite : turn.store.entries.Finite) :
    (turn.leaks root = false ∧ ∃ resolved, turn.resolve root = (.ok resolved, turn.store)) ∨
      (turn.leaks root = false ∧ ∃ resolved, turn.resolve root =
        match Store.answer true (.remove (variablePath root turn.block.name)) turn.store with
        | (.ok _, after) => (.ok resolved, after)
        | (.error error, after) => (.error error, after)) ∨
      ∃ value resolved, value.isFinite = !turn.leaks root ∧ turn.resolve root =
        match Store.answer true (.set (variablePath root turn.block.name) value) turn.store with
        | (.ok _, after) => (.ok resolved, after)
        | (.error error, after) => (.error error, after) := by
  have leaks_of_isFinite (operandFinite : turn.block.value.isFinite = true) :
      turn.leaks root = false := by
    rw [leaks, Block.leaks, operandFinite, Bool.not_true, Bool.false_and]
  rw [resolve, Block.run_resolve]
  cases deletion : turn.block.isDeletion with
  | true =>
      have value_eq := valid.written.value_of_deletion deletion
      refine .inr (.inl ⟨leaks_of_isFinite (by rw [value_eq]; rfl),
        turn.block.settle (.ok (.text "")), ?_⟩)
      rw [Block.run_apply_of_deletion _ root deletion]
      rcases Store.answer true (.remove (variablePath root turn.block.name)) turn.store with
        ⟨_ | reply, after⟩ <;> rfl
  | false =>
      rw [Block.run_apply _ root deletion (get_of_valid valid)]
      cases valued : turn.block.valueOn (turn.stored? root) with
      | error error => exact .inl ⟨valid.written.leaks_of_valueOn_error valued, _, rfl⟩
      | ok value =>
          by_cases reference : turn.block.operator = .reference
          · have value_eq := valid.written.value_of_reference reference
            simp only [reference, if_true]
            exact .inl ⟨leaks_of_isFinite (by rw [value_eq]; rfl), _, rfl⟩
          · simp only [reference, if_false]
            refine .inr (.inr ⟨value, turn.block.settle (.ok value), ?_, ?_⟩)
            · exact Block.isFinite_of_valueOn (fun stored found => finite.find? found) reference
                valued
            · rcases Store.answer true (.set (variablePath root turn.block.name) value) turn.store
                with ⟨_ | reply, after⟩ <;> rfl

/-- In memory, a turn on finite data leaves finite data exactly if its block does not leak. -/
theorem resolve_memory (turn : Turn) (valid : Valid root turn.block) {entries : Entries}
    (store_eq : turn.store = .memory entries) (finite : entries.Finite) :
    ∃ after, (turn.resolve root).2 = .memory after ∧
      (after.Finite ↔ turn.leaks root = false) := by
  have storeFinite : turn.store.entries.Finite := by rw [store_eq]; exact finite
  rcases resolve_cases valid storeFinite with
    ⟨noLeak, resolved, turned⟩ | ⟨noLeak, resolved, turned⟩ | ⟨value, resolved, valueFinite, turned⟩
  · rw [turned, store_eq, noLeak]
    exact ⟨entries, rfl, iff_of_true finite rfl⟩
  · rw [turned, store_eq, noLeak]
    simp only [Store.answer, Entries.answer, valid.path]
    exact ⟨_, rfl, iff_of_true (Entries.All.erase finite _) trivial⟩
  · rw [turned, store_eq]
    simp only [Store.answer, Entries.answer, valid.path]
    refine ⟨_, rfl, ?_⟩
    rw [finite.insert_iff, value.isFinite_persisted, valueFinite, Bool.not_eq_true']

/-- In a file, a turn on finite data leaves finite data, and it succeeds exactly if its block does
not leak. -/
theorem resolve_file (turn : Turn) (valid : Valid root turn.block) {store : FileStore}
    (store_eq : turn.store = .file store) (finite : store.entries.Finite) :
    ∃ after, (turn.resolve root).2 = .file after ∧ after.entries.Finite ∧
      ((turn.resolve root).1.isOk = true ↔ turn.leaks root = false) := by
  have storeFinite : turn.store.entries.Finite := by rw [store_eq]; exact finite
  rcases resolve_cases valid storeFinite with
    ⟨noLeak, resolved, turned⟩ | ⟨noLeak, resolved, turned⟩ | ⟨value, resolved, valueFinite, turned⟩
  · rw [turned, store_eq, noLeak]
    exact ⟨store, rfl, finite, iff_of_true rfl rfl⟩
  · obtain ⟨after, answered, erased⟩ := store.answer_remove_of_finite finite valid.path
    rw [turned, store_eq, noLeak]
    simp only [Store.answer, answered]
    exact ⟨after, rfl, erased ▸ Entries.All.erase finite _, iff_of_true rfl trivial⟩
  · rw [turned, store_eq]
    cases leaking : turn.leaks root with
    | false =>
        rw [leaking, Bool.not_false] at valueFinite
        obtain ⟨text, answered⟩ := store.answer_set_of_finite finite valid.path valueFinite
        simp only [Store.answer, answered]
        refine ⟨_, rfl, ?_, iff_of_true rfl trivial⟩
        rw [finite.insert_iff, value.isFinite_persisted]
        exact valueFinite
    | true =>
        rw [leaking, Bool.not_true] at valueFinite
        obtain ⟨error, answered⟩ := store.answer_set_of_not_finite true
          (variablePath root turn.block.name) valueFinite
        simp only [Store.answer, answered]
        exact ⟨store, rfl, finite, iff_of_false Bool.false_ne_true (by simp)⟩

theorem all_memory_iff {blocks : List Block} (valid : ∀ block ∈ blocks, Valid root block)
    {entries : Entries} (finite : entries.Finite) :
    (∀ turn ∈ all root blocks (.memory entries), (turn.resolve root).2.entries.Finite) ↔
      ∀ turn ∈ all root blocks (.memory entries), turn.leaks root = false := by
  induction blocks generalizing entries with
  | nil => simp [all]
  | cons block blocks ih =>
      obtain ⟨headValid, tailValid⟩ := List.forall_mem_cons.mp valid
      obtain ⟨after, turned, finite_iff⟩ :=
        resolve_memory ⟨block, .memory entries⟩ headValid rfl finite
      rw [all, List.forall_mem_cons, List.forall_mem_cons, turned]
      constructor
      · rintro ⟨afterFinite, rest⟩
        exact ⟨finite_iff.mp afterFinite, (ih tailValid afterFinite).mp rest⟩
      · rintro ⟨noLeak, rest⟩
        have afterFinite := finite_iff.mpr noLeak
        exact ⟨afterFinite, (ih tailValid afterFinite).mpr rest⟩

theorem all_file_iff {blocks : List Block} (valid : ∀ block ∈ blocks, Valid root block)
    {store : FileStore} (finite : store.entries.Finite) :
    (∀ turn ∈ all root blocks (.file store), (turn.resolve root).1.isOk = true) ↔
      ∀ turn ∈ all root blocks (.file store), turn.leaks root = false := by
  induction blocks generalizing store with
  | nil => simp [all]
  | cons block blocks ih =>
      obtain ⟨headValid, tailValid⟩ := List.forall_mem_cons.mp valid
      obtain ⟨after, turned, afterFinite, isOk_iff⟩ :=
        resolve_file ⟨block, .file store⟩ headValid rfl finite
      rw [all, List.forall_mem_cons, List.forall_mem_cons, turned]
      exact and_congr isOk_iff (ih tailValid afterFinite)

/-- If numbers get out of range, a block fails on its value unless it takes its operand over or only
looks it up. -/
theorem failsOnValue_iff {turn : Turn} (valid : Valid root turn.block)
    (overflows : turn.overflows root = true) :
    turn.FailsOnValue root ↔ turn.leaks root = false ∧ turn.looksUp root = false := by
  have noReference := valid.written.noReference_of_overflows overflows
  have isOk := valid.written.valueOn_isOk_of_overflows overflows
  have noDeletion := valid.written.noDeletion_of_overflows overflows
  have applied := Block.run_apply _ root noDeletion (get_of_valid valid)
  have noValue : turn.leaks root = false ∧ turn.looksUp root = false ↔
      (turn.block.valueOn (turn.stored? root)).isOk = false := by
    rw [isOk, Bool.or_eq_false_iff]
    rfl
  rw [noValue]
  cases valued : turn.block.valueOn (turn.stored? root) with
  | error error =>
      rw [valued] at applied
      refine iff_of_true ⟨⟨error, applied⟩, ?_⟩ rfl
      rw [resolve, Block.run_resolve, applied]
      rfl
  | ok value =>
      refine iff_of_false ?_ (by simp [Except.isOk, Except.toBool])
      rintro ⟨⟨error, failed⟩, _⟩
      rw [apply, applied, valued] at failed
      simp only [noReference, if_false] at failed
      split at failed <;> simp at failed

/-- Numbers out of range are failures of values unless a block leaks.  Whatever blocks that have
been read take turns on finite data, a store in memory stays finite exactly if no block takes over
an operand that is not finite, and under the same condition no block fails on a store in a file.  A
block whose operand or result is not finite fails on its value exactly if it neither takes its
operand over nor only looks it up. -/
theorem finite_iff_no_leaks (root : String) (rootNoNul : '\x00' ∉ root.toList)
    (blocks : List Block)
    (read : ∀ block ∈ blocks,
      (∃ inner, Block.parse? inner = some block) ∧ '\x00' ∉ block.name.toList)
    (entries : Entries) (finite : entries.Finite) (text : Option String) :
    ((∀ turn ∈ all root blocks (.memory entries), (turn.resolve root).2.entries.Finite) ↔
      ∀ turn ∈ all root blocks (.memory entries), turn.leaks root = false) ∧
    ((∀ turn ∈ all root blocks (.file { entries, text }), (turn.resolve root).1.isOk = true) ↔
      ∀ turn ∈ all root blocks (.file { entries, text }), turn.leaks root = false) ∧
    ∀ start ∈ [Store.memory entries, Store.file { entries, text }],
      ∀ turn ∈ all root blocks start, turn.overflows root = true →
        (turn.FailsOnValue root ↔ turn.leaks root = false ∧ turn.looksUp root = false) := by
  have valid : ∀ block ∈ blocks, Valid root block := by
    intro block member
    obtain ⟨⟨inner, parsed⟩, noNul⟩ := read block member
    exact valid_of_parse? rootNoNul parsed noNul
  refine ⟨all_memory_iff valid finite, all_file_iff valid finite, ?_⟩
  intro start _ turn member overflows
  exact failsOnValue_iff (valid turn.block (block_mem_of_mem_all member)) overflows

/-- Digits of a number that is out of range. -/
def outOfRange : List Char :=
  List.replicate 309 '9'

/-- An assignment of a number that is out of range. -/
def outOfRangeBlock : Block :=
  { name := "n", operator := .assign, value := .number Number.infinity,
    raw := String.ofList outOfRange, kind := .number, fallback := none, output := none }

theorem datum_outOfRange : Literal.datum (String.ofList outOfRange) = .number Number.infinity := by
  rw [Literal.datum, String.toList_ofList]
  decide +kernel

theorem setValue_outOfRange (block : Block) :
    block.setValue (String.ofList outOfRange) =
      { block with
        raw := String.ofList outOfRange, value := .number Number.infinity, kind := .number } := by
  have trimmed : Text.trim outOfRange = outOfRange := by decide +kernel
  rw [Block.setValue, String.toList_ofList, trimmed, datum_outOfRange]
  rfl

theorem parse?_outOfRange :
    Block.parse? (String.ofList ('n' :: '=' :: outOfRange)) = some outOfRangeBlock := by
  have bar : Text.splitOnce? '|' ('n' :: '=' :: outOfRange) = none := by decide +kernel
  have name : ('n' :: '=' :: outOfRange).takeWhile (!Block.isOperatorStart ·) = ['n'] := by rfl
  have named : Block.normalizeName (String.ofList ['n']) = "n" := by decide +kernel
  have operator :
      Block.operatorOf (('n' :: '=' :: outOfRange).dropWhile (!Block.isOperatorStart ·)) =
        (.assign, outOfRange) := by
    decide +kernel
  rw [Block.parse?, String.toList_ofList, bar]
  dsimp only
  rw [operator, name]
  simp only [named, setValue_outOfRange]
  rfl

/-- An assignment of the number one. -/
def oneBlock : Block :=
  { name := "n", operator := .assign, value := .number 1.0, raw := "1", kind := .number,
    fallback := none, output := none }

theorem finite_iff_no_leaks_outOfRange :
    (∀ turn ∈ all "v" [oneBlock, outOfRangeBlock] (.file ⟨.empty, none⟩),
        (turn.resolve "v").1.isOk = true) ∧
      ∀ turn ∈ all "v" [oneBlock, outOfRangeBlock] (.file ⟨.empty, none⟩),
        turn.block = outOfRangeBlock → turn.FailsOnValue "v" := by
  have one : (∃ inner, Block.parse? inner = some oneBlock) ∧ '\x00' ∉ oneBlock.name.toList :=
    ⟨⟨"n=1", by decide +kernel⟩, by decide⟩
  have outOfRange : (∃ inner, Block.parse? inner = some outOfRangeBlock) ∧
      '\x00' ∉ outOfRangeBlock.name.toList :=
    ⟨⟨_, parse?_outOfRange⟩, by decide⟩
  obtain ⟨_, isOk_iff, fails_iff⟩ := finite_iff_no_leaks "v" (by decide)
    [oneBlock, outOfRangeBlock] (by simp [one, outOfRange]) .empty Entries.all_empty none
  refine ⟨isOk_iff.mpr (by decide +kernel), ?_⟩
  intro turn member same
  have facts : ∀ turn ∈ all "v" [oneBlock, outOfRangeBlock] (.file ⟨.empty, none⟩),
      turn.block = outOfRangeBlock →
        turn.overflows "v" = true ∧ turn.leaks "v" = false ∧ turn.looksUp "v" = false := by
    decide +kernel
  obtain ⟨overflows, guarded⟩ := facts turn member same
  exact (fails_iff _ (by simp) turn member overflows).mpr guarded

/-- On a name without data a number out of range is stored in memory and fails on a file. -/
theorem not_finite_outOfRange :
    (¬ ∀ turn ∈ all "v" [outOfRangeBlock] (.memory .empty),
        (turn.resolve "v").2.entries.Finite) ∧
      ¬ ∀ turn ∈ all "v" [outOfRangeBlock] (.file ⟨.empty, none⟩),
        (turn.resolve "v").1.isOk = true := by
  constructor
  · intro finite
    have stored : (Turn.resolve "v" ⟨outOfRangeBlock, .memory .empty⟩).2.entries.find? "v/n" =
        some (.number Number.infinity) := by
      decide +kernel
    have infinity := (finite _ List.mem_cons_self).find? stored
    revert infinity
    decide +kernel
  · decide +kernel

end Turn
end ChatMacro
