import ChatMacro.Proofs.Distinct
import ChatMacro.Proofs.Resolution.Effect
import ChatMacro.Proofs.Resolution.Failure

/-!
# Blocks on sets

What a block makes of a stored sequence that it takes for a set has no element twice, and has its
elements in the order in which they come first.  Done again, the block leaves that as it is.
-/

namespace ChatMacro
namespace Block

/-- What an operator makes of the elements that are stored and those of an operand. -/
def Merges (operator : Operator) (current operand items : List Atom) : Prop :=
  match operator with
  | .assign => Selects (Atom.NewAt [] operand) operand items
  | .add =>
      ∃ firsts news, items = firsts ++ news ∧ Selects (Atom.NewAt [] current) current firsts ∧
        Selects (Atom.NewAt current operand) operand news
  | .subtract => Selects (Atom.NewAt operand current) current items
  | .increment | .decrement | .reference => False

/-- A union of sets has the elements of the first and then what is new in the second. -/
theorem exists_distinct_append (current operand : List Atom) :
    ∃ news, Atom.distinct (Atom.distinct current ++ operand) = Atom.distinct current ++ news ∧
      Selects (Atom.NewAt current operand) operand news := by
  obtain ⟨news, appended, selects⟩ :=
    Atom.exists_selects_appendNew (Atom.distinct current) operand
  refine ⟨news, ?_, selects.congr fun place _ => ?_⟩
  · rw [Atom.distinct_append (Atom.repeatless_distinct current), appended]
  · exact Atom.newAt_congr (fun atom => Atom.isIn_distinct) place

/-- A difference of sets has the elements of the first that are not in the second. -/
theorem selects_filter_distinct (current operand : List Atom) :
    Selects (Atom.NewAt operand current) current
      ((Atom.distinct current).filter fun atom => !atom.isIn operand) := by
  refine ((Atom.selects_distinct current).filter _).congr fun place _ => ?_
  constructor
  · rintro ⟨⟨atom, found, -, first⟩, passes⟩
    rw [found] at passes
    exact ⟨atom, found, by simpa using passes, first⟩
  · rintro ⟨atom, found, absent, first⟩
    refine ⟨⟨atom, found, rfl, first⟩, ?_⟩
    rw [found]
    simpa using absent

/-- What is new in a union is missing in the difference. -/
theorem filter_distinct_append {current operand : List Atom}
    (noNaN : ∀ atom ∈ operand, atom.isNaN = false) :
    (Atom.distinct (Atom.distinct current ++ operand)).filter (fun atom => !atom.isIn operand) =
      (Atom.distinct current).filter fun atom => !atom.isIn operand := by
  obtain ⟨news, union_eq, selects⟩ := exists_distinct_append current operand
  have noNews : news.filter (fun atom => !atom.isIn operand) = [] := by
    rw [List.filter_eq_nil_iff]
    intro atom member
    have known := selects.sublist.subset member
    simp [Atom.isIn_of_mem (noNaN atom known) known]
  rw [union_eq, List.filter_append, noNews, List.append_nil]

variable {block : Block} {current operand items : List Atom}

theorem exists_updateSet (current operand : List Atom)
    (supported : Kind.set.supports block.operator = true) :
    ∃ items, block.updateSet current operand = .ok (.set items) ∧ Atom.Repeatless items ∧
      Merges block.operator current operand items := by
  cases operator_eq : block.operator with
  | assign =>
      refine ⟨Atom.distinct operand, ?_, Atom.repeatless_distinct operand, ?_⟩
      · simp only [updateSet, operator_eq]
      · exact Atom.selects_distinct operand
  | add =>
      obtain ⟨news, union_eq, selects⟩ := exists_distinct_append current operand
      refine ⟨Atom.distinct (Atom.distinct current ++ operand), ?_, ?_, ?_⟩
      · simp only [updateSet, operator_eq]
      · exact Atom.repeatless_distinct _
      · exact ⟨Atom.distinct current, news, union_eq, Atom.selects_distinct current, selects⟩
  | subtract =>
      refine ⟨(Atom.distinct current).filter fun atom => !atom.isIn operand, ?_, ?_, ?_⟩
      · simp only [updateSet, operator_eq]
      · exact (Atom.repeatless_distinct current).filter _
      · exact selects_filter_distinct current operand
  | increment | decrement | reference =>
      rw [operator_eq] at supported
      cases supported

/-- Done again on its own result, a block on sets has the same result. -/
theorem updateSet_again (noNaN : ∀ atom ∈ operand, atom.isNaN = false)
    (updated : block.updateSet current operand = .ok (.set items)) :
    block.updateSet items operand = .ok (.set items) := by
  unfold updateSet at updated ⊢
  cases operator_eq : block.operator <;> simp only [operator_eq] at updated ⊢
  case assign => exact updated
  case add =>
    cases updated
    have known : ∀ atom ∈ operand,
        atom.isIn (Atom.distinct (Atom.distinct current ++ operand)) = true := by
      intro atom member
      rw [Atom.isIn_distinct, Atom.isIn_append, Atom.isIn_of_mem (noNaN atom member) member,
        Bool.or_true]
    have repeatless := Atom.repeatless_distinct (Atom.distinct current ++ operand)
    rw [Atom.distinct_of_repeatless repeatless, Atom.distinct_append repeatless,
      Atom.appendNew_of_isIn known]
  case subtract =>
    cases updated
    have repeatless := (Atom.repeatless_distinct current).filter fun atom => !atom.isIn operand
    rw [Atom.distinct_of_repeatless repeatless, List.filter_filter]
    simp
  all_goals cases updated

theorem noReference_of_supports (supported : Kind.set.supports block.operator = true) :
    block.operator ≠ .reference := by
  intro operator_eq
  rw [operator_eq] at supported
  cases supported

/-- On a stored sequence a block with a set works like on a set. -/
theorem valueOn_set (declared : block.kind = .set) (operand_eq : block.value = .set operand)
    (supported : Kind.set.supports block.operator = true) :
    block.valueOn (some (.sequence current)) = block.updateSet current operand := by
  simp only [valueOn, noReference_of_supports supported, if_false, update, declared, operand_eq,
    Datum.items?, Datum.kind]
  rfl

section

variable {root : String} {store : Store}
  (valid : Entries.checkPath (variablePath root block.name) = .ok ())
  (stored : store.entries.find? (variablePath root block.name) = some (.sequence current))
  (noDeletion : block.isDeletion = false) (declared : block.kind = .set)
  (operand_eq : block.value = .set operand)
  (supported : Kind.set.supports block.operator = true)

include valid stored noDeletion declared operand_eq supported

theorem rewrites_of_updateSet (updated : block.updateSet current operand = .ok (.set items)) :
    block.Rewrites root store (.set items) := by
  refine rewrites_of_valueOn noDeletion valid (noReference_of_supports supported) ?_
  rw [stored, valueOn_set declared operand_eq supported, updated]

/-- A block with a set writes a sequence without repeated elements: those of the operand as they
come first, those of the stored sequence and then the new ones of the operand, or those of the
stored sequence that are not in the operand.  Done again, it writes the same sequence, and a
difference after a union with the same set writes the difference with the stored sequence. -/
theorem rewrites_set :
    ∃ items, block.Rewrites root store (.set items) ∧
      (Datum.set items).persisted = .sequence items ∧ Atom.Repeatless items ∧
      Merges block.operator current operand items ∧
      ((∀ atom ∈ operand, atom.isNaN = false) → ∀ after : Store,
        after.entries.find? (variablePath root block.name) = some (.sequence items) →
        block.Rewrites root after (.set items) ∧
        (block.operator = .add → ∀ remover : Block, remover.name = block.name →
          remover.operator = .subtract → remover.kind = .set → remover.value = .set operand →
          ∃ rest, Merges .subtract current operand rest ∧
            remover.Rewrites root after (.set rest))) := by
  obtain ⟨items, updated, repeatless, merges⟩ :=
    exists_updateSet current operand supported
  have persisted_eq : (Datum.set items).persisted = .sequence items :=
    congrArg Datum.sequence (Atom.distinct_of_repeatless repeatless)
  have rewrites : block.Rewrites root store (.set items) :=
    rewrites_of_updateSet valid stored noDeletion declared operand_eq supported updated
  refine ⟨items, rewrites, persisted_eq, repeatless, merges, fun noNaN after found => ?_⟩
  constructor
  · exact rewrites_of_updateSet valid found noDeletion declared operand_eq supported
      (updateSet_again noNaN updated)
  · intro adds remover name_eq subtracts removerDeclared removed_eq
    refine ⟨_, selects_filter_distinct current operand, ?_⟩
    rw [← name_eq] at valid found
    refine rewrites_of_updateSet valid found (noDeletion_of_subtract subtracts) removerDeclared
      removed_eq ?_ ?_
    · rw [subtracts]
      rfl
    · simp only [updateSet, adds] at updated
      cases updated
      simp only [updateSet, subtracts]
      rw [Atom.distinct_of_repeatless (Atom.repeatless_distinct _), filter_distinct_append noNaN]

end

/-- A store with a sequence in which a text and zero are repeated. -/
def labelStore : Store :=
  .memory (Entries.empty.insert "v/labels"
    (.sequence [.text "a", .number 0.0, .text "a", .number (-0.0)]))

/-- A block with a set, in which a text and zero are repeated as well. -/
def labelBlock (operator : Operator) : Block :=
  { name := "labels", operator, value := .set [.number (-0.0), .text "b", .number 0.0, .text "b"],
    raw := "(-0, b, 0, b)", kind := .set, fallback := none, output := none }

/-- A union adds the new text only, and a difference after it removes zero and that text. -/
theorem rewrites_set_labels :
    (labelBlock .add).Rewrites "v" labelStore (.set [.text "a", .number 0.0, .text "b"]) ∧
      ∀ after : Store,
        after.entries.find? "v/labels" = some (.sequence [.text "a", .number 0.0, .text "b"]) →
        (labelBlock .add).Rewrites "v" after (.set [.text "a", .number 0.0, .text "b"]) ∧
          ∃ rest, Merges .subtract [.text "a", .number 0.0, .text "a", .number (-0.0)]
              [.number (-0.0), .text "b", .number 0.0, .text "b"] rest ∧
            (labelBlock .subtract).Rewrites "v" after (.set rest) := by
  have valid : Entries.checkPath (variablePath "v" (labelBlock .add).name) = .ok () := by
    decide +kernel
  have stored : labelStore.entries.find? (variablePath "v" "labels") =
      some (.sequence [.text "a", .number 0.0, .text "a", .number (-0.0)]) := by decide +kernel
  have noNaN : ∀ atom ∈ [Atom.number (-0.0), .text "b", .number 0.0, .text "b"],
      atom.isNaN = false := by decide +kernel
  obtain ⟨items, rewrites, -, -, -, again⟩ :=
    rewrites_set valid stored rfl rfl rfl rfl
  have items_eq : items = [.text "a", .number 0.0, .text "b"] := by
    have answered :
        Store.answer true (.set (variablePath "v" (labelBlock .add).name) (.set items)) labelStore =
          (.ok (), .memory (labelStore.entries.insert (variablePath "v" "labels")
            (Datum.set items).persisted)) := by
      rfl
    have written := rewrites true
    rw [answered] at written
    have output : (((labelBlock .add).resolve "v").run (Store.answer true) labelStore).1 =
        .ok { labelBlock .add with
          output := some (.set [.text "a", .number 0.0, .text "b"]) } := by decide +kernel
    rw [written.1] at output
    simpa using output
  subst items_eq
  refine ⟨rewrites, fun after found => ?_⟩
  obtain ⟨same, removed⟩ := again noNaN after found
  exact ⟨same, removed rfl (labelBlock .subtract) rfl rfl rfl rfl⟩

end Block
end ChatMacro
