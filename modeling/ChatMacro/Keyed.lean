/-!
# Keyed lists

Lists of keyed values in increasing order of their keys, without a repeated key.  Keys are ordered
by code points.  Inserting replaces the value of a key that is already there.
-/

namespace ChatMacro
namespace Keyed

universe u

variable {Value : Type u}

/-- The keys stand in strictly increasing order. -/
def Ordered (entries : List (String × Value)) : Prop :=
  entries.Pairwise fun left right => left.1 < right.1

/-- The value of a key. -/
def find? (key : String) : List (String × Value) → Option Value
  | [] => none
  | (other, value) :: tail => if key = other then some value else find? key tail

/-- Give a key a value. -/
def insert (key : String) (value : Value) : List (String × Value) → List (String × Value)
  | [] => [(key, value)]
  | (other, former) :: tail =>
      if key = other then (key, value) :: tail
      else if key < other then (key, value) :: (other, former) :: tail
      else (other, former) :: insert key value tail

/-- Drop a key and its value. -/
def erase (key : String) : List (String × Value) → List (String × Value)
  | [] => []
  | (other, value) :: tail =>
      if key = other then tail else (other, value) :: erase key tail

/-- Give each key of a list its value, later pairs replacing earlier ones. -/
def ofList (entries : List (String × Value)) : List (String × Value) :=
  entries.foldl (fun kept entry => insert entry.1 entry.2 kept) []

theorem mem_insert {key : String} {value : Value} {entries : List (String × Value)}
    {entry : String × Value} (member : entry ∈ insert key value entries) :
    entry = (key, value) ∨ entry ∈ entries := by
  induction entries with
  | nil => simpa [insert] using member
  | cons head tail ih =>
      obtain ⟨other, former⟩ := head
      simp only [insert] at member
      split at member
      · rcases List.mem_cons.mp member with here | there
        · exact .inl here
        · exact .inr (List.mem_cons_of_mem _ there)
      · split at member
        · rcases List.mem_cons.mp member with here | there
          · exact .inl here
          · exact .inr there
        · rcases List.mem_cons.mp member with here | there
          · exact .inr (here ▸ List.mem_cons_self)
          · exact (ih there).imp_right (List.mem_cons_of_mem _)

theorem mem_of_mem_erase {key : String} {entries : List (String × Value)}
    {entry : String × Value} (member : entry ∈ erase key entries) : entry ∈ entries := by
  induction entries with
  | nil => simp [erase] at member
  | cons head tail ih =>
      obtain ⟨other, former⟩ := head
      simp only [erase] at member
      split at member
      · exact List.mem_cons_of_mem _ member
      · rcases List.mem_cons.mp member with here | there
        · exact here ▸ List.mem_cons_self
        · exact List.mem_cons_of_mem _ (ih there)

theorem Ordered.insert {entries : List (String × Value)} (ordered : Ordered entries)
    (key : String) (value : Value) : Ordered (Keyed.insert key value entries) := by
  induction entries with
  | nil => simp [Keyed.insert, Ordered]
  | cons head tail ih =>
      obtain ⟨other, former⟩ := head
      obtain ⟨headBelow, tailOrdered⟩ := List.pairwise_cons.mp ordered
      simp only [Keyed.insert]
      split
      · next same =>
        exact List.pairwise_cons.mpr
          ⟨fun entry member => same ▸ headBelow entry member, tailOrdered⟩
      · next different =>
        split
        · next below =>
          refine List.pairwise_cons.mpr ⟨fun entry member => ?_, ordered⟩
          rcases List.mem_cons.mp member with here | there
          · exact here ▸ below
          · exact String.lt_trans below (headBelow entry there)
        · next notBelow =>
          refine List.pairwise_cons.mpr ⟨fun entry member => ?_, ih tailOrdered⟩
          rcases mem_insert member with here | there
          · subst here
            exact Decidable.byContradiction fun notAbove =>
              different (String.le_antisymm notAbove notBelow)
          · exact headBelow entry there

theorem Ordered.erase {entries : List (String × Value)} (ordered : Ordered entries)
    (key : String) : Ordered (Keyed.erase key entries) := by
  induction entries with
  | nil => simpa [Keyed.erase] using ordered
  | cons head tail ih =>
      obtain ⟨other, former⟩ := head
      obtain ⟨headBelow, tailOrdered⟩ := List.pairwise_cons.mp ordered
      simp only [Keyed.erase]
      split
      · exact tailOrdered
      · exact List.pairwise_cons.mpr
          ⟨fun entry member => headBelow entry (mem_of_mem_erase member), ih tailOrdered⟩

/-- A keyed list has no entries but those that were put into it. -/
theorem mem_of_mem_ofList {entries : List (String × Value)} {entry : String × Value}
    (member : entry ∈ ofList entries) : entry ∈ entries := by
  suffices grown : ∀ kept : List (String × Value),
      entry ∈ entries.foldl (fun kept entry => insert entry.1 entry.2 kept) kept →
        entry ∈ kept ∨ entry ∈ entries from
    (grown [] member).resolve_left List.not_mem_nil
  clear member
  induction entries with
  | nil => exact fun _ member => .inl member
  | cons head tail ih =>
      intro kept member
      rcases ih _ member with early | late
      · rcases mem_insert early with here | there
        · exact .inr (here ▸ List.mem_cons_self)
        · exact .inl there
      · exact .inr (List.mem_cons_of_mem _ late)

theorem Ordered.ofList (entries : List (String × Value)) : Ordered (Keyed.ofList entries) := by
  suffices grown : ∀ kept : List (String × Value), Ordered kept →
      Ordered (entries.foldl (fun kept entry => Keyed.insert entry.1 entry.2 kept) kept) from
    grown [] List.Pairwise.nil
  induction entries with
  | nil => exact fun _ ordered => ordered
  | cons entry tail ih => exact fun kept ordered => ih _ (ordered.insert entry.1 entry.2)

end Keyed
end ChatMacro
