/-!
# Outcomes

A chain of steps that may fail succeeds only if each of its steps does.
-/

namespace ChatMacro
namespace Outcome

universe u v w

variable {Error : Type u} {First : Type v} {Second : Type v}

theorem exists_of_bind_eq_ok {outcome : Except Error First} {next : First → Except Error Second}
    {result : Second} (succeeded : outcome >>= next = .ok result) :
    ∃ middle, outcome = .ok middle ∧ next middle = .ok result := by
  cases outcome with
  | error error => exact absurd succeeded (by simp [bind, Except.bind])
  | ok middle => exact ⟨middle, rfl, succeeded⟩

theorem bind_eq_ok {outcome : Except Error First} {next : First → Except Error Second}
    {first : First} {second : Second} (succeeded : outcome = .ok first)
    (continued : next first = .ok second) : outcome >>= next = .ok second := by
  rw [succeeded]
  exact continued

/-- A list is read if its head and then its tail are. -/
theorem exists_of_mapM_cons_eq_ok {Input : Type w} {read : Input → Except Error First}
    {input : Input} {inputs : List Input} {outputs : List First}
    (succeeded : (input :: inputs).mapM read = .ok outputs) :
    ∃ head tail, read input = .ok head ∧ inputs.mapM read = .ok tail ∧ outputs = head :: tail := by
  rw [List.mapM_cons] at succeeded
  obtain ⟨head, headRead, succeeded⟩ := exists_of_bind_eq_ok succeeded
  obtain ⟨tail, tailRead, succeeded⟩ := exists_of_bind_eq_ok succeeded
  cases succeeded
  exact ⟨head, tail, headRead, tailRead, rfl⟩

theorem exists_of_mem_of_mapM_eq_ok {Input : Type w} {read : Input → Except Error First}
    {inputs : List Input} {outputs : List First} (succeeded : inputs.mapM read = .ok outputs)
    {output : First} (member : output ∈ outputs) : ∃ input ∈ inputs, read input = .ok output := by
  induction inputs generalizing outputs with
  | nil =>
      cases succeeded
      simp at member
  | cons input inputs ih =>
      obtain ⟨head, tail, headRead, tailRead, rfl⟩ := exists_of_mapM_cons_eq_ok succeeded
      rcases List.mem_cons.mp member with rfl | later
      · exact ⟨input, List.mem_cons_self, headRead⟩
      · obtain ⟨source, sourceMember, sourceRead⟩ := ih tailRead later
        exact ⟨source, List.mem_cons_of_mem _ sourceMember, sourceRead⟩

theorem isOk_bind_ok (outcome : Except Error First) (made : First → Second) :
    (outcome >>= fun result => .ok (made result)).isOk = outcome.isOk := by
  cases outcome <;> rfl

/-- A list is read if each of its elements is. -/
theorem isOk_mapM {Input : Type w} (read : Input → Except Error First) (inputs : List Input) :
    (inputs.mapM read).isOk = inputs.all fun input => (read input).isOk := by
  induction inputs with
  | nil => rfl
  | cons input inputs ih =>
      rw [List.mapM_cons, List.all_cons, ← ih]
      cases read input with
      | error error => rfl
      | ok head => exact isOk_bind_ok (inputs.mapM read) (head :: ·)

end Outcome
end ChatMacro
