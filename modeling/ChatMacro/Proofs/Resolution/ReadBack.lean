import ChatMacro.Proofs.Block
import ChatMacro.Proofs.Repeats
import ChatMacro.Proofs.Resolution.Effect
import ChatMacro.Proofs.Resolution.Update

/-!
# Reading back what was written

A block that writes a value puts the same value out.  The store keeps sets as sequences, but a set
that a block works out has no element twice, so a reference to the variable puts the same text out.
-/

namespace ChatMacro
namespace Block

variable {root : String} {block : Block} {store after : Store} {value : Datum}

/-! ## Values without repeated elements -/

theorem Edited.repeatless (edited : block.Edited) : block.value.Repeatless := by
  rcases edited.value_cases with value_eq | ⟨raw, value_eq⟩
  · rw [value_eq]
    trivial
  · rw [value_eq]
    exact Literal.repeatless_datum raw

theorem repeatless_initial (repeatless : block.value.Repeatless) :
    block.initial.Repeatless := by
  unfold initial
  split
  · trivial
  · exact repeatless

theorem Updates.repeatless {stored : Datum} (updates : block.Updates stored value) :
    value.Repeatless := by
  cases updates with
  | number | text | replaced | appended | dropped => trivial
  | replacedSet => exact Atom.repeatless_distinct _
  | united => exact Atom.repeatless_distinct _
  | reduced => exact (Atom.repeatless_distinct _).filter _

theorem repeatless_of_valueOn {stored? : Option Datum} (repeatless : block.value.Repeatless)
    (noReference : block.operator ≠ .reference) (valued : block.valueOn stored? = .ok value) :
    value.Repeatless := by
  cases stored? with
  | none => exact (valueOn_none valued).2 ▸ repeatless_initial repeatless
  | some stored => exact (updates_of_update (valueOn_some noReference valued).2).repeatless

/-! ## One block after the other -/

/-- A block that is no deletion and no reference writes the value that it puts out. -/
theorem written_of_apply (noDeletion : block.isDeletion = false)
    (noReference : block.operator ≠ .reference) {writable : Bool}
    (applied : (block.apply root).run (Store.answer writable) store = (.ok (.ok value), after)) :
    Entries.checkPath (variablePath root block.name) = .ok () ∧
      block.valueOn (store.entries.find? (variablePath root block.name)) = .ok value ∧
      after.entries =
        store.entries.insert (variablePath root block.name) value.persisted := by
  have got := store.answer_get writable (variablePath root block.name)
  cases valid : Entries.checkPath (variablePath root block.name) with
  | error error =>
      rw [valid] at got
      rw [run_apply_of_get_error _ root noDeletion got] at applied
      cases applied
  | ok =>
      rw [valid] at got
      rw [run_apply _ root noDeletion got] at applied
      cases valued : block.valueOn (store.entries.find? (variablePath root block.name)) with
      | error error =>
          rw [valued] at applied
          cases applied
      | ok result =>
          simp only [valued, noReference, if_false] at applied
          rcases store.answer_set_cases writable (variablePath root block.name) result with
            ⟨error, answered⟩ | ⟨written, answered, inserted⟩
          · rw [answered] at applied
            cases applied
          · rw [answered] at applied
            cases applied
            exact ⟨rfl, rfl, inserted⟩

/-- A reference puts out what is stored and keeps the store. -/
theorem resolve_of_reference {reference : Block} (operator_eq : reference.operator = .reference)
    (valid : Entries.checkPath (variablePath root reference.name) = .ok ())
    (found : store.entries.find? (variablePath root reference.name) = some value)
    (writable : Bool) :
    (reference.resolve root).run (Store.answer writable) store =
      (.ok { reference with output := some value }, store) := by
  have noDeletion : reference.isDeletion = false := by simp [isDeletion, operator_eq]
  have got := store.answer_get writable (variablePath root reference.name)
  rw [valid, found] at got
  rw [run_resolve, run_apply _ root noDeletion got]
  simp [valueOn, operator_eq, settle]

/-- What a block writes is read back.  When a block that is no deletion and no reference has put a
value out, the store holds the persisted form of the value under the path of its variable, and a
reference to the variable puts that out, with the same text. -/
theorem reads_back_written (edited : block.Edited) (noDeletion : block.isDeletion = false)
    (noReference : block.operator ≠ .reference) {writable : Bool}
    (applied : (block.apply root).run (Store.answer writable) store = (.ok (.ok value), after)) :
    after.entries.find? (variablePath root block.name) = some value.persisted ∧
      value.persisted.display = value.display ∧
      ∀ reference : Block, reference.operator = .reference → reference.name = block.name →
        ∀ writable, (reference.resolve root).run (Store.answer writable) after =
          (.ok { reference with output := some value.persisted }, after) := by
  obtain ⟨valid, valued, inserted⟩ := written_of_apply noDeletion noReference applied
  have found : after.entries.find? (variablePath root block.name) = some value.persisted := by
    rw [inserted, Entries.find?_insert_self]
  refine ⟨found, Datum.display_persisted ?_, ?_⟩
  · exact repeatless_of_valueOn edited.repeatless noReference valued
  · intro reference operator_eq name_eq writable
    rw [← name_eq] at valid found
    exact resolve_of_reference operator_eq valid found writable

/-- A union with a set. -/
def unionBlock : Block :=
  { name := "x", operator := .add, value := .set [.text "b"], raw := "(b)", kind := .set,
    fallback := none, output := none }

/-- The union under another name and with another set, in which an element is repeated. -/
def tagsBlock : Block :=
  (unionBlock.setName "tags").setValue "(b, a, b)"

/-- A store in a file with a sequence in which an element is repeated. -/
def tagsStore : Store :=
  (Store.answer true (.set "v/tags" (.sequence [.text "a", .text "a"])) (.file ⟨.empty, none⟩)).2

theorem reads_back_written_tags :
    ((tagsBlock.apply "v").run (Store.answer true) tagsStore).2.entries.find? "v/tags" =
        some (.sequence [.text "a", .text "b"]) ∧
      Datum.display (.sequence [.text "a", .text "b"]) =
        Datum.display (.set [.text "a", .text "b"]) := by
  have edited : tagsBlock.Edited :=
    .setValue _ (.setName _ (.read (show parse? "x+(b)" = some unionBlock by decide +kernel)))
  have applied : (tagsBlock.apply "v").run (Store.answer true) tagsStore =
      (.ok (.ok (.set [.text "a", .text "b"])),
        ((tagsBlock.apply "v").run (Store.answer true) tagsStore).2) :=
    Prod.ext (by decide +kernel) rfl
  obtain ⟨found, text_eq, _⟩ :=
    reads_back_written edited (by decide +kernel) (by decide +kernel) applied
  exact ⟨found, text_eq⟩

end Block
end ChatMacro
