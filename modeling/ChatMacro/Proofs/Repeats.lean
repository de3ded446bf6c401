import ChatMacro.Literal

/-!
# Repeated elements

Keeping the first of equal elements leaves a list in which no element equals a later one, and
changes no list of that kind.  The sets that are written in templates have such lists.
-/

namespace ChatMacro

namespace Atom

/-- No element equals a later one. -/
def Repeatless (atoms : List Atom) : Prop :=
  atoms.Pairwise fun earlier later => earlier.same later = false

theorem isIn_eq_false_iff {atoms : List Atom} {atom : Atom} :
    atom.isIn atoms = false ↔ ∀ other ∈ atoms, other.same atom = false := by
  simp [isIn]

theorem repeatless_concat {atoms : List Atom} {atom : Atom} (repeatless : Repeatless atoms)
    (new : atom.isIn atoms = false) : Repeatless (atoms ++ [atom]) := by
  refine List.pairwise_append.mpr ⟨repeatless, List.pairwise_singleton _ _, ?_⟩
  intro other member last same
  rw [List.mem_singleton.mp same]
  exact isIn_eq_false_iff.mp new other member

theorem repeatless_appendNew {kept : List Atom} (repeatless : Repeatless kept)
    (atoms : List Atom) : Repeatless (appendNew kept atoms) := by
  induction atoms generalizing kept with
  | nil => exact repeatless
  | cons atom atoms ih =>
      rw [appendNew]
      split
      · exact ih repeatless
      · next new => exact ih (repeatless_concat repeatless (Bool.not_eq_true _ ▸ new))

theorem appendNew_of_repeatless {kept atoms : List Atom}
    (repeatless : Repeatless (kept ++ atoms)) : appendNew kept atoms = kept ++ atoms := by
  induction atoms generalizing kept with
  | nil => rw [appendNew, List.append_nil]
  | cons atom atoms ih =>
      have new : atom.isIn kept = false := isIn_eq_false_iff.mpr fun other member =>
        (List.pairwise_append.mp repeatless).2.2 other member atom List.mem_cons_self
      have shifted : kept ++ atom :: atoms = kept ++ [atom] ++ atoms := by simp
      rw [appendNew, new, if_neg Bool.false_ne_true, ih (shifted ▸ repeatless), shifted]

theorem repeatless_distinct (atoms : List Atom) : Repeatless (distinct atoms) :=
  repeatless_appendNew List.Pairwise.nil atoms

theorem distinct_of_repeatless {atoms : List Atom} (repeatless : Repeatless atoms) :
    distinct atoms = atoms :=
  appendNew_of_repeatless repeatless

end Atom

namespace Datum

/-- A set has no element twice. -/
def Repeatless : Datum → Prop
  | set items => Atom.Repeatless items
  | text _ | number _ | sequence _ => True

/-- A value that is no set, or one without repeated elements, is kept with its text. -/
theorem display_persisted {value : Datum} (repeatless : value.Repeatless) :
    value.persisted.display = value.display := by
  cases value with
  | set items => simp only [persisted, display, Atom.distinct_of_repeatless repeatless]
  | _ => rfl

end Datum

namespace Literal

theorem repeatless_datum (raw : String) : (datum raw).Repeatless := by
  unfold datum ofTrimmed
  split
  · trivial
  · split
    · exact Atom.repeatless_distinct _
    · split <;> trivial

end Literal
end ChatMacro
