import ChatMacro.Proofs.Script.Watched

/-!
# Following the counter of levels

A run of a parser is followed step by step, with the counter of levels at the depth of the cursor.
Steps that are joined lead from where the first starts to where the second ends, and no more rules
are open in them than in one of the two.
-/

namespace ChatMacro
namespace Script

/-! ## The counter -/

/-- The counter goes through changes: a level is taken only below the greatest depth, and no more
levels are given back than are taken. -/
inductive Counts : Nat → List Move → Nat → Prop where
  /-- There is no change. -/
  | done (depth : Nat) : Counts depth [] depth
  /-- There is room for a level. -/
  | take {depth last : Nat} {moves : List Move} (room : depth < maxDepth)
      (later : Counts (depth + 1) moves last) : Counts depth (.take :: moves) last
  /-- The levels are there. -/
  | give {levels depth last : Nat} {moves : List Move} (taken : levels ≤ depth)
      (later : Counts (depth - levels) moves last) : Counts depth (.give levels :: moves) last

namespace Counts

variable {start middle last : Nat} {moves others : List Move}

theorem append (first : Counts start moves middle) (second : Counts middle others last) :
    Counts start (moves ++ others) last := by
  induction first with
  | done => exact second
  | take room _ ih => exact .take room (ih second)
  | give taken _ ih => exact .give taken (ih second)

theorem le_maxDepth (counts : Counts start moves last) (shallow : start ≤ maxDepth) :
    last ≤ maxDepth := by
  induction counts with
  | done => exact shallow
  | take room _ ih => exact ih room
  | give _ _ ih => exact ih (by omega)

/-- The changes that have been made at some moment. -/
theorem exists_of_isPrefix (counts : Counts start moves last) {made : List Move}
    (isPrefix : made <+: moves) : ∃ current, Counts start made current := by
  induction counts generalizing made with
  | done depth =>
      rw [List.prefix_nil.mp isPrefix]
      exact ⟨depth, .done depth⟩
  | @take depth _ _ room _ ih =>
      rcases List.prefix_cons_iff.mp isPrefix with rfl | ⟨rest, rfl, restPrefix⟩
      · exact ⟨depth, .done depth⟩
      · obtain ⟨current, counts⟩ := ih restPrefix
        exact ⟨current, .take room counts⟩
  | @give _ depth _ _ taken _ ih =>
      rcases List.prefix_cons_iff.mp isPrefix with rfl | ⟨rest, rfl, restPrefix⟩
      · exact ⟨depth, .done depth⟩
      · obtain ⟨current, counts⟩ := ih restPrefix
        exact ⟨current, .give taken counts⟩

end Counts

/-! ## Steps -/

/-- A run is followed: it ends as `outcome` says, no more than `most` rules are open in it at the
same time, and it takes the counter from `start` to `last`, unless it ends with an error. -/
structure Tracks {Result : Type} (start last most : Nat) (wanted : Result → Prop)
    (run : Watched Result) (outcome : Except Error Result) : Prop where
  /-- The run ends in this way. -/
  outcome_eq : run.outcome = outcome
  /-- So many rules are open. -/
  nesting_le : run.nesting ≤ most
  /-- The counter is kept within its bounds. -/
  counts : ∃ reached, Counts start run.moves reached ∧
    ∀ result, outcome = .ok result → reached = last ∧ wanted result

namespace Tracks

open Watched (still descend finish rule)

variable {Result First Second : Type} {start middle last most : Nat} {wanted : Result → Prop}

theorem of_still {outcome : Except Error Result}
    (ends : ∀ result, outcome = .ok result → wanted result) :
    Tracks start start most wanted (still outcome) outcome :=
  ⟨rfl, Nat.zero_le _, start, .done start, fun result same => ⟨rfl, ends result same⟩⟩

theorem done {result : Result} (holds : wanted result) :
    Tracks start start most wanted (still (.ok result)) (.ok result) :=
  of_still fun _ same => Except.ok.inj same ▸ holds

theorem refused (error : Error) :
    Tracks start last most wanted (still (.error error)) (.error error) :=
  ⟨rfl, Nat.zero_le _, start, .done start, fun _ same => nomatch same⟩

theorem weaken {desired : Result → Prop} {run : Watched Result} {outcome : Except Error Result}
    (tracks : Tracks start last most wanted run outcome)
    (weaker : ∀ result, wanted result → desired result) :
    Tracks start last most desired run outcome := by
  obtain ⟨outcome_eq, nesting_le, reached, counts, ends⟩ := tracks
  exact ⟨outcome_eq, nesting_le, reached, counts,
    fun result same => (ends result same).imp_right (weaker result)⟩

theorem mono {more : Nat} {run : Watched Result} {outcome : Except Error Result}
    (tracks : Tracks start last most wanted run outcome) (more_le : most ≤ more) :
    Tracks start last more wanted run outcome :=
  { tracks with nesting_le := Nat.le_trans tracks.nesting_le more_le }

/-- A rule counts itself. -/
theorem of_rule {run : Watched Result} {outcome : Except Error Result}
    (tracks : Tracks start last most wanted run outcome) :
    Tracks start last (most + 1) wanted (rule run) outcome :=
  { tracks with nesting_le := Nat.succ_le_succ tracks.nesting_le }

theorem bind {firstWanted : First → Prop} {secondWanted : Second → Prop} {first : Watched First}
    {outcome : Except Error First} {next : First → Watched Second}
    {goesOn : First → Except Error Second}
    (tracks : Tracks start middle most firstWanted first outcome)
    (later : ∀ result, firstWanted result →
      Tracks middle last most secondWanted (next result) (goesOn result)) :
    Tracks start last most secondWanted (first >>= next) (outcome >>= goesOn) := by
  obtain ⟨rfl, nesting_le, reached, counts, ends⟩ := tracks
  have run_eq : first >>= next = Watched.andThen first next := rfl
  rw [run_eq, Watched.andThen]
  cases ended : first.outcome with
  | error error => exact ⟨rfl, nesting_le, reached, counts, fun _ same => nomatch same⟩
  | ok result =>
      obtain ⟨rfl, holds⟩ := ends result ended
      obtain ⟨outcome_eq, later_le, final, laterCounts, laterEnds⟩ := later result holds
      exact ⟨outcome_eq, Nat.max_le.mpr ⟨nesting_le, later_le⟩, final, counts.append laterCounts,
        laterEnds⟩

/-- What is checked without a rule may be relied on. -/
theorem still_bind {secondWanted : Second → Prop} {outcome : Except Error First}
    {next : First → Watched Second} {goesOn : First → Except Error Second}
    (later : ∀ result, outcome = .ok result →
      Tracks start last most secondWanted (next result) (goesOn result)) :
    Tracks start last most secondWanted (still outcome >>= next) (outcome >>= goesOn) :=
  (of_still fun _ same => same).bind later

/-- Whoever takes a level goes on one level deeper. -/
theorem descend_bind (cursor : Cursor) {next : Cursor → Watched Result}
    {goesOn : Cursor → Except Error Result}
    (later : ∀ below : Cursor, below.tokens = cursor.tokens → below.depth = cursor.depth + 1 →
      below.depth ≤ maxDepth → Tracks below.depth last most wanted (next below) (goesOn below)) :
    Tracks cursor.depth last most wanted (descend cursor >>= next) (cursor.descend >>= goesOn) := by
  by_cases deep : maxDepth < cursor.depth + 1
  · have refusal : cursor.descend = .error .tooDeep := if_pos deep
    have run_eq : descend cursor = still (.error .tooDeep) := by rw [descend, refusal]
    rw [refusal, run_eq]
    exact refused Error.tooDeep
  · let below : Cursor := { cursor with depth := cursor.depth + 1 }
    have descended : cursor.descend = .ok below := if_neg deep
    have run_eq : descend cursor = ⟨[.take], 0, .ok below⟩ := by rw [descend, descended]
    have taken : Tracks cursor.depth below.depth most (· = below) (descend cursor)
        cursor.descend := by
      rw [run_eq, descended]
      exact ⟨rfl, Nat.zero_le _, below.depth, .take (by omega) (.done _),
        fun _ same => ⟨rfl, (Except.ok.inj same).symm⟩⟩
    refine taken.bind ?_
    rintro _ rfl
    exact later below rfl rfl (Nat.not_lt.mp deep)

/-- Whoever gives levels back has taken them. -/
theorem of_finish {levels : Nat} {result : Result} {cursor : Cursor}
    {wanted : Result × Cursor → Prop} (depth_eq : cursor.depth = last + levels)
    (holds : wanted (result, cursor.ascend levels)) :
    Tracks cursor.depth last most wanted (finish levels result cursor)
      (.ok (result, cursor.ascend levels)) := by
  have reached_eq : cursor.depth - levels = last := by omega
  refine ⟨rfl, Nat.zero_le _, last, ?_, fun _ same => ⟨rfl, Except.ok.inj same ▸ holds⟩⟩
  exact .give (by omega) (reached_eq ▸ .done _)

end Tracks

end Script
end ChatMacro
