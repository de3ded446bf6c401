import ChatMacro.Proofs.Number.Exact
import ChatMacro.Proofs.Resolution.Effect
import ChatMacro.Proofs.Resolution.Overflow
import ChatMacro.Proofs.Selection

/-!
# Removing elements by their positions

A block that subtracts from a sequence removes the elements at the positions that its operand lists,
all at once.  What is left depends on the positions within the sequence only, not on how the operand
lists them.  An operand with an element that is no position makes no value.
-/

namespace ChatMacro
namespace Atom

/-- An element is the number of a position, counted from zero. -/
def IsPosition (position : Nat) : Atom → Prop
  | text _ => False
  | number value => Number.Is value position

/-- Some element is the number of the position. -/
def Lists (atoms : List Atom) (position : Nat) : Prop :=
  ∃ atom ∈ atoms, atom.IsPosition position

/-- Positions are indices, but those behind the last index share it. -/
theorem index?_eq_some_iff {atom : Atom} {index : Nat} :
    atom.index? = some index ↔
      ∃ position, atom.IsPosition position ∧ index = min position Number.indexLimit := by
  cases atom with
  | text value =>
      refine iff_of_false (fun pointed => by cases pointed) ?_
      rintro ⟨position, absurdity, -⟩
      exact absurdity
  | number value =>
      simp only [index?, IsPosition]
      split
      next whole =>
        rw [Bool.and_eq_true, decide_eq_true_iff] at whole
        obtain ⟨position, stands⟩ := Number.is_natCast_iff.mpr whole
        rw [Number.toIndex_of_is stands, Option.some_inj, eq_comm]
        refine ⟨fun index_eq => ⟨position, stands, index_eq⟩, ?_⟩
        rintro ⟨other, standsToo, rfl⟩
        rw [← Number.toIndex_of_is stands, Number.toIndex_of_is standsToo]
      next notWhole =>
        rw [Bool.and_eq_true, decide_eq_true_iff] at notWhole
        refine iff_of_false (Option.some_ne_none index).symm ?_
        rintro ⟨position, stands, -⟩
        exact notWhole (Number.is_natCast_iff.mp ⟨position, stands⟩)

theorem index?_isSome_iff {atom : Atom} :
    atom.index?.isSome = true ↔ ∃ position, atom.IsPosition position := by
  rw [Option.isSome_iff_exists]
  constructor
  · rintro ⟨index, pointed⟩
    obtain ⟨position, isPosition, -⟩ := index?_eq_some_iff.mp pointed
    exact ⟨position, isPosition⟩
  · rintro ⟨position, isPosition⟩
    exact ⟨_, index?_eq_some_iff.mpr ⟨position, isPosition, rfl⟩⟩

theorem index?_eq_none_iff {atom : Atom} :
    atom.index? = none ↔ ∀ position, ¬ atom.IsPosition position := by
  rw [← Option.not_isSome_iff_eq_none, index?_isSome_iff, not_exists]

theorem index?_eq_some_iff_of_lt {atom : Atom} {index : Nat} (below : index < Number.indexLimit) :
    atom.index? = some index ↔ atom.IsPosition index := by
  rw [index?_eq_some_iff]
  constructor
  · rintro ⟨position, isPosition, index_eq⟩
    have same : position = index := by omega
    rwa [same] at isPosition
  · intro isPosition
    exact ⟨index, isPosition, (Nat.min_eq_left below.le).symm⟩

theorem exists_isPosition_of_mem {atoms : List Atom} {indices : List Nat}
    (pointed : atoms.map index? = indices.map some) {atom : Atom} (member : atom ∈ atoms) :
    ∃ position, atom.IsPosition position := by
  have listed : atom.index? ∈ indices.map some := pointed ▸ List.mem_map_of_mem member
  obtain ⟨index, -, index_eq⟩ := List.mem_map.mp listed
  exact index?_isSome_iff.mp (index_eq ▸ rfl)

/-- Elements whose indices are all below the last one list these indices. -/
theorem lists_iff_mem {atoms : List Atom} {indices : List Nat}
    (pointed : atoms.map index? = indices.map some)
    (below : ∀ index ∈ indices, index < Number.indexLimit) {position : Nat} :
    Lists atoms position ↔ position ∈ indices := by
  have mem_iff (index : Nat) : index ∈ indices ↔ ∃ atom ∈ atoms, atom.index? = some index := by
    rw [← List.mem_map_of_injective (Option.some_injective Nat), ← pointed, List.mem_map]
  constructor
  · rintro ⟨atom, member, isPosition⟩
    have reached : min position Number.indexLimit ∈ indices :=
      (mem_iff _).mpr ⟨atom, member, index?_eq_some_iff.mpr ⟨position, isPosition, rfl⟩⟩
    have same : min position Number.indexLimit = position := by
      have := below _ reached
      omega
    rwa [same] at reached
  · intro reached
    obtain ⟨atom, member, index_eq⟩ := (mem_iff position).mp reached
    exact ⟨atom, member, (index?_eq_some_iff_of_lt (below position reached)).mp index_eq⟩

end Atom

namespace Block

variable {block : Block} {operand : List Atom} {positions : List Nat}

theorem mem_positions_iff (pointed : block.positions operand = .ok positions) {place : Nat} :
    place ∈ positions ↔ ∃ atom ∈ operand, atom.index? = some place := by
  unfold Block.positions at pointed
  induction operand generalizing positions with
  | nil =>
      cases pointed
      simp
  | cons atom operand ih =>
      obtain ⟨position, others, headPointed, tailPointed, rfl⟩ :=
        Outcome.exists_of_mapM_cons_eq_ok pointed
      have index_eq : atom.index? = some position := by
        cases index : atom.index? with
        | none => simp [index] at headPointed
        | some found =>
            rw [index] at headPointed
            cases headPointed
            rfl
      rw [List.mem_cons, ih tailPointed, List.exists_mem_cons_iff, index_eq, Option.some_inj,
        eq_comm]

/-- Below the last index the positions are those that the operand lists. -/
theorem mem_positions_iff_lists (pointed : block.positions operand = .ok positions) {place : Nat}
    (below : place < Number.indexLimit) : place ∈ positions ↔ Atom.Lists operand place := by
  rw [mem_positions_iff pointed, Atom.Lists]
  simp only [Atom.index?_eq_some_iff_of_lt below]

theorem exists_positions (block : Block)
    (every : ∀ atom ∈ operand, ∃ position, atom.IsPosition position) :
    ∃ positions, block.positions operand = .ok positions := by
  have isOk : (block.positions operand).isOk = true := by
    rw [positions_isOk, List.all_eq_true]
    exact fun atom member => Atom.index?_isSome_iff.mpr (every atom member)
  cases pointed : block.positions operand with
  | error error => simp [pointed, Except.isOk, Except.toBool] at isOk
  | ok positions => exact ⟨positions, rfl⟩

/-- The first element that is no position is complained about. -/
theorem positions_of_not_position (block : Block)
    (absent : ∃ atom ∈ operand, ∀ position, ¬ atom.IsPosition position) :
    ∃ atom ∈ operand, (∀ position, ¬ atom.IsPosition position) ∧
      block.positions operand = .error (.malformed block.name (.notAnIndex atom)) := by
  unfold Block.positions
  induction operand with
  | nil => simp at absent
  | cons first operand ih =>
      rw [List.mapM_cons]
      cases index : first.index? with
      | none => exact ⟨first, List.mem_cons_self, Atom.index?_eq_none_iff.mp index, rfl⟩
      | some position =>
          obtain ⟨found, foundPosition, -⟩ := Atom.index?_eq_some_iff.mp index
          have later : ∃ atom ∈ operand, ∀ position, ¬ atom.IsPosition position :=
            ((List.exists_mem_cons_iff _ _ _).mp absent).resolve_left fun here =>
              here found foundPosition
          obtain ⟨atom, member, noPosition, failed⟩ := ih later
          refine ⟨atom, List.mem_cons_of_mem first member, noPosition, ?_⟩
          rw [failed]
          rfl

theorem valueOn_subtract {current : List Atom} (declared : block.kind = .sequence)
    (subtracts : block.operator = .subtract) (operand_eq : block.value = .sequence operand) :
    block.valueOn (some (.sequence current)) =
      (block.positions operand >>= fun positions =>
        .ok (.sequence (dropPositions positions 0 current))) := by
  simp only [valueOn, update, updateSequence, declared, subtracts, operand_eq, Datum.items?,
    Datum.kind, Kind.accepts]
  rfl

theorem exists_rewrites_subtract {root : String} (block : Block) {store : Store}
    {current : List Atom}
    (valid : Entries.checkPath (variablePath root block.name) = .ok ())
    (stored : store.entries.find? (variablePath root block.name) = some (.sequence current))
    (bounded : current.length ≤ Number.indexLimit) (declared : block.kind = .sequence)
    (subtracts : block.operator = .subtract) (operand_eq : block.value = .sequence operand)
    (every : ∀ atom ∈ operand, ∃ position, atom.IsPosition position) :
    ∃ rest, Selects (fun place => ¬ Atom.Lists operand place) current rest ∧
      block.Rewrites root store (.sequence rest) := by
  obtain ⟨positions, pointed⟩ := exists_positions block every
  refine ⟨dropPositions positions 0 current, ?_, ?_⟩
  · refine (selects_dropPositions positions 0 current).congr fun place inside => ?_
    rw [Nat.zero_add, mem_positions_iff_lists pointed (inside.trans_le bounded)]
  · refine rewrites_of_valueOn (noDeletion_of_subtract subtracts) valid (by simp [subtracts]) ?_
    rw [stored, valueOn_subtract declared subtracts operand_eq, pointed]
    rfl

/-- A block that subtracts positions from a sequence keeps the elements at the other positions, in
their order.  Another operand that lists the same positions of the sequence has the same effect, and
so have removals one by one, the last position first.  An operand with a text, or with a number that
is negative or has a fraction, makes no value, and the store is kept.  No sequence in memory is too
long for its positions to be indices. -/
theorem subtract_positions {root : String} {block : Block} {store : Store}
    {current operand : List Atom}
    (valid : Entries.checkPath (variablePath root block.name) = .ok ())
    (stored : store.entries.find? (variablePath root block.name) = some (.sequence current))
    (bounded : current.length ≤ Number.indexLimit) (declared : block.kind = .sequence)
    (subtracts : block.operator = .subtract) (operand_eq : block.value = .sequence operand) :
    ((∀ atom ∈ operand, ∃ position, atom.IsPosition position) →
      ∃ rest, Selects (fun place => ¬ Atom.Lists operand place) current rest ∧
        block.Rewrites root store (.sequence rest) ∧
        (∀ items : List Atom, (∀ atom ∈ items, ∃ position, atom.IsPosition position) →
          (∀ place < current.length, Atom.Lists items place ↔ Atom.Lists operand place) →
          { block with value := .sequence items }.Rewrites root store (.sequence rest)) ∧
        ∀ listed : List Nat, listed.Pairwise (· > ·) →
          (∀ place, place ∈ listed ↔ Atom.Lists operand place) →
          listed.foldl List.eraseIdx current = rest) ∧
    ((∃ atom ∈ operand, ∀ position, ¬ atom.IsPosition position) →
      (∃ atom ∈ operand, (∀ position, ¬ atom.IsPosition position) ∧
        block.valueOn (some (.sequence current)) =
          .error (.malformed block.name (.notAnIndex atom))) ∧
      ∀ writable, (block.resolve root).run (Store.answer writable) store =
        (.ok { block with output := some block.fallbackOrZero }, store)) := by
  constructor
  · intro every
    obtain ⟨rest, selects, rewrites⟩ :=
      exists_rewrites_subtract block valid stored bounded declared subtracts operand_eq every
    refine ⟨rest, selects, rewrites, ?_, ?_⟩
    · intro items everyItem same
      obtain ⟨others, othersSelects, othersRewrites⟩ :=
        exists_rewrites_subtract { block with value := .sequence items } valid stored bounded
          declared subtracts rfl everyItem
      have others_eq : others = rest :=
        (othersSelects.congr fun place inside => not_congr (same place inside)).unique selects
      rwa [others_eq] at othersRewrites
    · intro listed falling same
      have removed := Selects.foldl_eraseIdx falling current
      exact (removed.congr fun place _ => not_congr (same place)).unique selects
  · intro absent
    obtain ⟨atom, member, noPosition, failed⟩ := positions_of_not_position block absent
    have valued : block.valueOn (some (.sequence current)) =
        .error (.malformed block.name (.notAnIndex atom)) := by
      rw [valueOn_subtract declared subtracts operand_eq, failed]
      rfl
    refine ⟨⟨atom, member, noPosition, valued⟩, ?_⟩
    rw [← stored] at valued
    exact resolve_of_valueOn_error (noDeletion_of_subtract subtracts) valid valued

/-- A store with a sequence of four texts. -/
def queueStore : Store :=
  .memory (Entries.empty.insert "v/queue"
    (.sequence [.text "a", .text "b", .text "c", .text "d"]))

/-- A block that subtracts elements from this sequence. -/
def dequeueBlock (operand : List Atom) : Block :=
  { name := "queue", operator := .subtract, value := .sequence operand, raw := "",
    kind := .sequence, fallback := none, output := none }

/-- The positions within the sequence are removed, though one is listed twice and one is behind its
end.  Half a position makes no value. -/
theorem subtract_positions_queue :
    (dequeueBlock [.number 1.0, .number 9.0, .number 3.0, .number 1.0]).Rewrites "v" queueStore
        (.sequence [.text "a", .text "c"]) ∧
      ((dequeueBlock [.number 1.0, .number 0.5]).resolve "v").run (Store.answer true) queueStore =
        (.ok { dequeueBlock [.number 1.0, .number 0.5] with output := some (.sequence []) },
          queueStore) := by
  have stored : queueStore.entries.find? (variablePath "v" "queue") =
      some (.sequence [.text "a", .text "b", .text "c", .text "d"]) := by decide +kernel
  have valid (operand : List Atom) :
      Entries.checkPath (variablePath "v" (dequeueBlock operand).name) = .ok () :=
    show Entries.checkPath (variablePath "v" "queue") = .ok () by decide +kernel
  constructor
  · have indices : [.number 1.0, .number 9.0, .number 3.0, .number 1.0].map Atom.index? =
        [1, 9, 3, 1].map some := by decide +kernel
    obtain ⟨rest, -, rewrites, -, removed⟩ :=
      (subtract_positions (valid [.number 1.0, .number 9.0, .number 3.0, .number 1.0]) stored
        (by decide) rfl rfl rfl).1 fun _ => Atom.exists_isPosition_of_mem indices
    have rest_eq : [.text "a", .text "c"] = rest := removed [9, 3, 1] (by decide) fun place => by
      rw [Atom.lists_iff_mem indices (by decide)]
      grind
    exact rest_eq ▸ rewrites
  · have noPosition : Atom.index? (.number 0.5) = none := by decide +kernel
    exact ((subtract_positions (valid [.number 1.0, .number 0.5]) stored (by decide) rfl rfl rfl).2
      ⟨.number 0.5, by simp, Atom.index?_eq_none_iff.mp noPosition⟩).2 true

end Block
end ChatMacro
