import ChatMacro.Resolution

/-!
# Elements at chosen places

A property of places, counted from zero, chooses elements of a list, which are kept in their order.
It does so in one way only, and only for the places that the list has.  What is left when elements
are removed one by one, the last of them first, is what stands at the other places.
-/

namespace ChatMacro

/-- The second list has the elements of the first at the chosen places, in their order. -/
inductive Selects {Element : Type} : (Nat → Prop) → List Element → List Element → Prop where
  | nil (chosen : Nat → Prop) : Selects chosen [] []
  /-- The first element is kept. -/
  | keep {chosen : Nat → Prop} {first : Element} {others kept : List Element} (here : chosen 0)
      (later : Selects (fun place => chosen (place + 1)) others kept) :
      Selects chosen (first :: others) (first :: kept)
  /-- The first element is left out. -/
  | drop {chosen : Nat → Prop} {first : Element} {others kept : List Element} (here : ¬ chosen 0)
      (later : Selects (fun place => chosen (place + 1)) others kept) :
      Selects chosen (first :: others) kept

namespace Selects

variable {Element : Type} {chosen other : Nat → Prop} {whole kept : List Element}

/-- What is chosen behind the end of the list does not matter. -/
theorem congr (selects : Selects chosen whole kept)
    (same : ∀ place < whole.length, chosen place ↔ other place) : Selects other whole kept := by
  induction selects generalizing other with
  | nil => exact .nil other
  | keep here _ ih =>
      have later := ih fun place inside => same (place + 1) (Nat.succ_lt_succ inside)
      exact .keep ((same 0 (Nat.succ_pos _)).mp here) later
  | drop here _ ih =>
      have later := ih fun place inside => same (place + 1) (Nat.succ_lt_succ inside)
      exact .drop (mt (same 0 (Nat.succ_pos _)).mpr here) later

theorem unique {others : List Element} (selects : Selects chosen whole kept)
    (again : Selects chosen whole others) : kept = others := by
  induction selects generalizing others with
  | nil =>
      cases again
      rfl
  | keep here _ ih =>
      cases again with
      | keep _ later => rw [ih later]
      | drop absent _ => exact absurd here absent
  | drop here _ ih =>
      cases again with
      | keep present _ => exact absurd present here
      | drop _ later => exact ih later

theorem sublist (selects : Selects chosen whole kept) : kept.Sublist whole := by
  induction selects with
  | nil => exact List.Sublist.slnil
  | keep _ _ ih => exact ih.cons_cons _
  | drop _ _ ih => exact ih.cons _

theorem all (every : ∀ place, chosen place) (whole : List Element) :
    Selects chosen whole whole := by
  induction whole generalizing chosen with
  | nil => exact .nil chosen
  | cons first others ih => exact .keep (every 0) (ih fun place => every (place + 1))

/-- A test narrows the choice down to the places of the elements that pass it. -/
theorem filter (selects : Selects chosen whole kept) (test : Element → Bool) :
    Selects (fun place => chosen place ∧ whole[place]?.any test = true) whole
      (kept.filter test) := by
  induction selects with
  | nil => exact .nil _
  | @keep chosen first others kept here later ih =>
      rw [List.filter_cons]
      split
      next passes => exact .keep ⟨here, passes⟩ ih
      next fails => exact .drop (fun ⟨_, passes⟩ => fails passes) ih
  | drop here later ih => exact .drop (fun ⟨present, _⟩ => here present) ih

/-- An element may be removed before the choice, if everything from its place on is chosen. -/
theorem of_eraseIdx {place : Nat} (selects : Selects chosen (whole.eraseIdx place) kept)
    (behind : ∀ sought, place ≤ sought → chosen sought) :
    Selects (fun sought => sought ≠ place ∧ chosen sought) whole kept := by
  induction whole generalizing chosen kept place with
  | nil =>
      cases selects
      exact .nil _
  | cons first others ih =>
      cases place with
      | zero =>
          have everywhere (sought : Nat) : chosen sought := behind sought (Nat.zero_le sought)
          refine .drop (fun present => present.1 rfl) (selects.congr fun sought _ => ?_)
          simp [everywhere]
      | succ place =>
          have further (sought : Nat) (le : place ≤ sought) : chosen (sought + 1) :=
            behind (sought + 1) (Nat.succ_le_succ le)
          cases selects with
          | keep here later =>
              refine .keep ⟨(Nat.succ_ne_zero place).symm, here⟩ ?_
              exact (ih later further).congr fun sought _ => by simp
          | drop here later =>
              refine .drop (fun present => here present.2) ?_
              exact (ih later further).congr fun sought _ => by simp

/-- Elements that are removed one by one, the last of them first, are those at the places listed. -/
theorem foldl_eraseIdx {listed : List Nat} (falling : listed.Pairwise (· > ·))
    (whole : List Element) :
    Selects (fun place => place ∉ listed) whole (listed.foldl List.eraseIdx whole) := by
  induction listed generalizing whole with
  | nil => exact all (fun _ => List.not_mem_nil) whole
  | cons last others ih =>
      obtain ⟨below, falling⟩ := List.pairwise_cons.mp falling
      have behind (place : Nat) (le : last ≤ place) : place ∉ others := fun member =>
        absurd (below place member) (Nat.not_lt.mpr le)
      refine ((ih falling (whole.eraseIdx last)).of_eraseIdx behind).congr fun place _ => ?_
      rw [List.mem_cons, not_or]

end Selects

/-- What is left when some positions are dropped is what stands at the others. -/
theorem selects_dropPositions (positions : List Nat) (start : Nat) (atoms : List Atom) :
    Selects (fun place => start + place ∉ positions) atoms
      (dropPositions positions start atoms) := by
  induction atoms generalizing start with
  | nil => exact .nil _
  | cons atom atoms ih =>
      have later : Selects (fun place => start + (place + 1) ∉ positions) atoms
          (dropPositions positions (start + 1) atoms) :=
        (ih (start + 1)).congr fun place _ => by rw [Nat.add_right_comm, Nat.add_assoc]
      rw [dropPositions, List.contains_eq_mem]
      split
      next listed => exact .drop (not_not_intro (of_decide_eq_true listed)) later
      next unlisted => exact .keep (fun listed => unlisted (decide_eq_true listed)) later

end ChatMacro
