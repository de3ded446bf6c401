import ChatMacro.Proofs.Block
import ChatMacro.Proofs.Resolution.Update

/-!
# Numbers out of range

Digits without end are read as infinity, and sums can leave the range of numbers.  A block on a
number checks its result.  A block takes its operand unchecked where nothing is stored yet and into
collections, and a difference of sets ignores what it cannot find.
-/

namespace ChatMacro

theorem mem_of_mem_dropPositions {positions : List Nat} {position : Nat} {atom : Atom}
    {atoms : List Atom} (member : atom ∈ dropPositions positions position atoms) :
    atom ∈ atoms := by
  induction atoms generalizing position with
  | nil => cases member
  | cons head tail ih =>
      simp only [dropPositions] at member
      split at member
      · exact List.mem_cons_of_mem _ (ih member)
      · rcases List.mem_cons.mp member with rfl | later
        · exact List.mem_cons_self
        · exact List.mem_cons_of_mem _ (ih later)

theorem Atom.isFinite_of_index? {atom : Atom} {position : Nat}
    (pointed : atom.index? = some position) : atom.isFinite = true := by
  cases atom with
  | text value => rfl
  | number value =>
      simp only [Atom.index?, Number.isWhole] at pointed
      rw [Atom.isFinite, ← Packing.ofFloat?_isSome]
      cases represented : Binary.ofFloat? value with
      | none => simp [represented] at pointed
      | some number => rfl

theorem Datum.isCollection_of_items? {value : Datum} {items : List Atom}
    (items_eq : value.items? = some items) : value.kind.isCollection = true := by
  cases value with
  | text text => cases items_eq
  | number number => cases items_eq
  | sequence others => rfl
  | set others => rfl

theorem Datum.exists_items?_of_isCollection {value : Datum}
    (collection : value.kind.isCollection = true) : ∃ items, value.items? = some items := by
  cases value with
  | text text => cases collection
  | number number => cases collection
  | sequence items => exact ⟨items, rfl⟩
  | set items => exact ⟨items, rfl⟩

theorem Kind.accepts_of_isCollection {declared stored : Kind}
    (collection : declared.isCollection = true) :
    declared.accepts stored = stored.isCollection := by
  cases declared with
  | text => cases collection
  | number => cases collection
  | sequence => cases stored <;> rfl
  | set => cases stored <;> rfl

namespace Block

/-- The number that a block makes of two numbers. -/
def moved (block : Block) (current operand : Float) : Float :=
  match block.operator with
  | .assign | .reference => operand
  | .add | .increment => current + operand
  | .subtract | .decrement => current - operand

/-- Whether the operand of a block, or the number that it makes of a stored one, is not finite. -/
def overflows (block : Block) (stored? : Option Datum) : Bool :=
  !block.value.isFinite ||
    match stored?, block.value with
    | some (.number current), .number operand => !(block.moved current operand).isFinite
    | _, _ => false

/-- Whether a block takes over its operand as it is: where nothing is stored, and from a collection
into another. -/
def takesOver (block : Block) : Option Datum → Bool
  | none => true
  | some stored =>
      block.kind.isCollection && stored.kind.isCollection &&
        (block.operator = .assign || block.operator = .add)

/-- Whether a block takes over an operand that is not finite. -/
def leaks (block : Block) (stored? : Option Datum) : Bool :=
  !block.value.isFinite && block.takesOver stored?

/-- Whether a block only looks its operand up, in a collection that is taken for a set. -/
def looksUp (block : Block) : Option Datum → Bool
  | none => false
  | some stored =>
      block.kind = .set && stored.kind.isCollection && block.operator = .subtract

theorem isFinite_initial (block : Block) : block.initial.isFinite = block.value.isFinite := by
  unfold initial
  split
  · next value operand_eq =>
    rw [operand_eq]
    change (if block.operator.isNegative then -value else value).isFinite = value.isFinite
    split
    · exact Packing.isFinite_neg value
    · rfl
  · rfl

theorem isFinite_moved_of_operand {operand : Float} (block : Block) (current : Float)
    (notFinite : operand.isFinite = false) : (block.moved current operand).isFinite = false := by
  unfold moved
  cases block.operator with
  | assign => exact notFinite
  | reference => exact notFinite
  | add => exact Packing.isFinite_add notFinite
  | increment => exact Packing.isFinite_add notFinite
  | subtract => exact Packing.isFinite_sub notFinite
  | decrement => exact Packing.isFinite_sub notFinite

theorem leaks_of_not_takesOver {block : Block} {stored? : Option Datum}
    (guarded : block.takesOver stored? = false) : block.leaks stored? = false := by
  rw [leaks, guarded, Bool.and_false]

theorem leaks_of_not_isCollection {block : Block} {stored : Datum}
    (single : block.kind.isCollection = false) : block.leaks (some stored) = false := by
  apply leaks_of_not_takesOver
  rw [takesOver, single, Bool.false_and, Bool.false_and]

theorem leaks_of_subtract {block : Block} {stored : Datum}
    (operator_eq : block.operator = .subtract) : block.leaks (some stored) = false := by
  apply leaks_of_not_takesOver
  simp [takesOver, operator_eq]

theorem leaks_of_items? {block : Block} {stored : Datum} {current operand : List Atom}
    (copies : block.operator = .assign ∨ block.operator = .add)
    (collection : block.kind.isCollection = true) (stored_eq : stored.items? = some current)
    (operand_eq : block.value.items? = some operand) :
    block.leaks (some stored) = !operand.all Atom.isFinite := by
  have taken : block.takesOver (some stored) = true := by
    simpa [takesOver, collection, Datum.isCollection_of_items? stored_eq] using copies
  rw [leaks, taken, Bool.and_true, Datum.isFinite_of_items? operand_eq]

/-- On finite data, a block writes what is not finite exactly if it takes it over. -/
theorem isFinite_of_valueOn {block : Block} {stored? : Option Datum} {value : Datum}
    (finite : ∀ stored, stored? = some stored → stored.isFinite = true)
    (noReference : block.operator ≠ .reference) (valued : block.valueOn stored? = .ok value) :
    value.isFinite = !block.leaks stored? := by
  cases stored? with
  | none =>
      obtain ⟨_, rfl⟩ := valueOn_none valued
      rw [isFinite_initial, leaks, takesOver, Bool.and_true, Bool.not_not]
  | some stored =>
      have all_of_subset {current kept : List Atom} (stored_eq : stored.items? = some current)
          (subset : ∀ atom ∈ kept, atom ∈ current) : kept.all Atom.isFinite = true := by
        have storedFinite := finite stored rfl
        rw [Datum.isFinite_of_items? stored_eq] at storedFinite
        exact List.all_eq_true.mpr fun atom member =>
          List.all_eq_true.mp storedFinite atom (subset atom member)
      cases updates_of_update (valueOn_some noReference valued).2 with
      | number declared _ resultFinite =>
          rw [leaks_of_not_isCollection (by rw [declared]; rfl)]
          exact resultFinite
      | text declared =>
          rw [leaks_of_not_isCollection (by rw [declared]; rfl)]
          rfl
      | replaced declared operator_eq stored_eq operand_eq =>
          rw [leaks_of_items? (.inl operator_eq) (by rw [declared]; rfl) stored_eq operand_eq,
            Bool.not_not, Datum.isFinite]
      | appended declared operator_eq stored_eq operand_eq =>
          rw [leaks_of_items? (.inr operator_eq) (by rw [declared]; rfl) stored_eq operand_eq,
            Bool.not_not, Datum.isFinite, List.all_append,
            all_of_subset stored_eq fun _ member => member, Bool.true_and]
      | dropped positions declared operator_eq stored_eq =>
          rw [leaks_of_subtract operator_eq, Datum.isFinite,
            all_of_subset stored_eq fun _ => mem_of_mem_dropPositions, Bool.not_false]
      | replacedSet declared operator_eq stored_eq operand_eq =>
          rw [leaks_of_items? (.inl operator_eq) (by rw [declared]; rfl) stored_eq operand_eq,
            Bool.not_not, Datum.isFinite, Atom.all_isFinite_distinct]
      | united declared operator_eq stored_eq operand_eq =>
          rw [leaks_of_items? (.inr operator_eq) (by rw [declared]; rfl) stored_eq operand_eq,
            Bool.not_not, Datum.isFinite, Atom.all_isFinite_distinct, List.all_append,
            all_of_subset stored_eq fun _ => Atom.mem_of_mem_distinct, Bool.true_and]
      | reduced declared operator_eq stored_eq =>
          rw [leaks_of_subtract operator_eq]
          exact all_of_subset stored_eq fun _ member =>
            Atom.mem_of_mem_distinct (List.mem_filter.mp member).1

theorem updateNumber_isOk (block : Block) (current operand : Float)
    (noReference : block.operator ≠ .reference) :
    (block.updateNumber current operand).isOk = (block.moved current operand).isFinite := by
  have checked (result : Float) :
      (if result.isFinite then .ok (.number result)
        else .error (.malformed block.name (.notFinite current block.operator operand)) :
          Except ValueError Datum).isOk = result.isFinite := by
    cases finite : result.isFinite <;> rfl
  unfold updateNumber moved
  cases operator_eq : block.operator <;> simp only [operator_eq] at checked ⊢
  case reference => exact absurd operator_eq noReference
  all_goals exact checked _

theorem positions_isOk (block : Block) (atoms : List Atom) :
    (block.positions atoms).isOk = atoms.all fun atom => atom.index?.isSome := by
  rw [positions, Outcome.isOk_mapM]
  refine congrArg atoms.all (funext fun atom => ?_)
  cases atom.index? <;> rfl

/-- Positions that are not finite point nowhere, so that a sequence is at most replaced or
continued. -/
theorem updateSequence_isOk (block : Block) (current : List Atom) {operand : List Atom}
    (notFinite : operand.all Atom.isFinite = false) :
    (block.updateSequence current operand).isOk =
      (block.operator = .assign || block.operator = .add : Bool) := by
  have nowhere : (block.positions operand).isOk = false := by
    rw [positions_isOk, ← Bool.not_eq_true, List.all_eq_true]
    intro pointed
    rw [← Bool.not_eq_true, List.all_eq_true] at notFinite
    refine notFinite fun atom member => ?_
    obtain ⟨position, index_eq⟩ := Option.isSome_iff_exists.mp (pointed atom member)
    exact Atom.isFinite_of_index? index_eq
  unfold updateSequence
  cases block.operator with
  | subtract => exact (Outcome.isOk_bind_ok _ _).trans nowhere
  | _ => rfl

theorem updateSet_isOk (block : Block) (current operand : List Atom) :
    (block.updateSet current operand).isOk =
      (block.operator = .assign || block.operator = .add || block.operator = .subtract : Bool) := by
  unfold updateSet
  cases block.operator <;> rfl

/-- With an operand that is not finite, a block on collections takes it over, looks it up, or
fails. -/
theorem update_isOk_of_items? {block : Block} {stored : Datum} {current operand : List Atom}
    (declared : block.kind.isCollection = true) (stored_eq : stored.items? = some current)
    (operand_eq : block.value.items? = some operand)
    (notFinite : operand.all Atom.isFinite = false) :
    (block.update stored).isOk =
      (block.takesOver (some stored) || block.looksUp (some stored)) := by
  have collection := Datum.isCollection_of_items? stored_eq
  cases kind_eq : block.kind with
  | text => simp [kind_eq, Kind.isCollection] at declared
  | number => simp [kind_eq, Kind.isCollection] at declared
  | sequence =>
      have updated : block.update stored = block.updateSequence current operand := by
        simp only [update, kind_eq, stored_eq, operand_eq]
      rw [updated, block.updateSequence_isOk current notFinite, takesOver, looksUp, declared,
        collection, kind_eq]
      simp
  | set =>
      have updated : block.update stored = block.updateSet current operand := by
        simp only [update, kind_eq, stored_eq, operand_eq]
      rw [updated, updateSet_isOk, takesOver, looksUp, declared, collection, kind_eq]
      simp

/-- A block has a value on stored data if the kinds fit and its operator works on them. -/
theorem valueOn_some_isOk (block : Block) (stored : Datum)
    (noReference : block.operator ≠ .reference) :
    (block.valueOn (some stored)).isOk =
      (block.kind.accepts stored.kind && (block.update stored).isOk) := by
  simp only [valueOn, noReference, if_false]
  cases fits : block.kind.accepts stored.kind <;> rfl

section

variable {block : Block} (written : block.Written)

include written

theorem Written.noReference_of_overflows {stored? : Option Datum}
    (overflows : block.overflows stored? = true) : block.operator ≠ .reference := by
  intro reference
  simp [Block.overflows, written.value_of_reference reference, Datum.isFinite] at overflows

theorem Written.noDeletion_of_overflows {stored? : Option Datum}
    (overflows : block.overflows stored? = true) : block.isDeletion = false := by
  cases deletion : block.isDeletion with
  | false => rfl
  | true => simp [Block.overflows, written.value_of_deletion deletion, Datum.isFinite] at overflows

/-- If numbers get out of range, a block has a value exactly if it takes its operand over or only
looks it up. -/
theorem Written.valueOn_isOk_of_overflows {stored? : Option Datum}
    (overflows : block.overflows stored? = true) :
    (block.valueOn stored?).isOk = (block.leaks stored? || block.looksUp stored?) := by
  have noReference := written.noReference_of_overflows overflows
  have kind_eq := written.kind_eq_kind
  cases stored? with
  | none =>
      have notFinite : block.value.isFinite = false := by simpa [Block.overflows] using overflows
      simp only [valueOn, noReference, if_false, leaks, takesOver, notFinite]
      rfl
  | some stored =>
      rw [valueOn_some_isOk block stored noReference]
      cases operand_eq : block.value with
      | text operand => simp [Block.overflows, operand_eq, Datum.isFinite] at overflows
      | number operand =>
          rw [operand_eq] at kind_eq
          rw [leaks_of_not_isCollection (by rw [kind_eq]; rfl), looksUp, kind_eq]
          cases stored with
          | number current =>
              have outOfRange : (block.moved current operand).isFinite = false := by
                simp only [Block.overflows, operand_eq, Datum.isFinite, Bool.or_eq_true,
                  Bool.not_eq_true'] at overflows
                rcases overflows with notFinite | notFinite
                · exact block.isFinite_moved_of_operand current notFinite
                · exact notFinite
              have updated :
                  block.update (.number current) = block.updateNumber current operand := by
                simp only [update, kind_eq, operand_eq, Datum.kind]
              rw [updated, block.updateNumber_isOk current operand noReference, outOfRange]
              rfl
          | _ => rfl
      | sequence operand | set operand =>
          have operand_items : block.value.items? = some operand := by rw [operand_eq]; rfl
          have notFinite : operand.all Atom.isFinite = false := by
            simpa [Block.overflows, operand_eq, Datum.isFinite] using overflows
          have declared : block.kind.isCollection = true := by rw [kind_eq, operand_eq]; rfl
          rw [Kind.accepts_of_isCollection declared, leaks, Datum.isFinite_of_items? operand_items,
            notFinite]
          cases collection : stored.kind.isCollection with
          | false => simp [takesOver, looksUp, collection]
          | true =>
              obtain ⟨current, stored_eq⟩ := Datum.exists_items?_of_isCollection collection
              rw [update_isOk_of_items? declared stored_eq operand_items notFinite]
              rfl

/-- A block without a value takes nothing over. -/
theorem Written.leaks_of_valueOn_error {stored? : Option Datum} {error : ValueError}
    (valued : block.valueOn stored? = .error error) : block.leaks stored? = false := by
  cases leaking : block.leaks stored? with
  | false => rfl
  | true =>
      have overflows : block.overflows stored? = true := by
        simp only [Block.overflows, (Bool.and_eq_true_iff.mp leaking).1, Bool.true_or]
      have isOk := written.valueOn_isOk_of_overflows overflows
      rw [valued, leaking] at isOk
      cases isOk

end

end Block
end ChatMacro
