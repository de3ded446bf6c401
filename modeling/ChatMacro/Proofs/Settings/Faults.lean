import ChatMacro.Proofs.Text.Lines
import ChatMacro.Settings.Basic

/-!
# Faulty lines

A line of a settings file is read by itself, and one that cannot be read is listed and has no other
effect.  So faulty lines can be emptied: the settings stay the same, and the other faults stay in
the list.
-/

namespace ChatMacro

namespace Directive

variable (home : String)

theorem parse_dropReturn (line : List Char) :
    parse home (Text.dropReturn line) = parse home line := by
  rw [parse, Text.trim_dropReturn, parse]

/-- An emptied line says nothing. -/
theorem parse_emptied (returns : Bool) (line : List Char) :
    parse home (Text.emptied returns line) = .ok none := by
  rcases Text.emptied_eq_or returns line with left | left <;> rw [left] <;> rfl

end Directive

namespace Settings

/-- Follow the directive of a line, if there is one. -/
def followAny (settings : Settings) (directive : Option Directive) : Settings :=
  directive.elim settings settings.follow

section

variable {home : String} {settings : Settings} {number : Nat} {line : List Char}
  {lines : List (List Char)}

theorem readLines_cons_of_ok {directive : Option Directive}
    (parsed : Directive.parse home line = .ok directive) :
    readLines home settings number (line :: lines) =
      readLines home (settings.followAny directive) (number + 1) lines := by
  rw [readLines, parsed]
  cases directive <;> rfl

theorem readLines_cons_of_error {cause : DirectiveError}
    (parsed : Directive.parse home line = .error cause) :
    readLines home settings number (line :: lines) =
      ((readLines home settings (number + 1) lines).1,
        { number, cause } :: (readLines home settings (number + 1) lines).2) := by
  rw [readLines, parsed]

/-! ## The faults of lines -/

/-- The faults are the lines that cannot be read, with what is wrong with them. -/
theorem mem_faults_iff {fault : FaultyLine} :
    fault ∈ (readLines home settings number lines).2 ↔
      ∃ line, (line, fault.number) ∈ lines.zipIdx number ∧
        Directive.parse home line = .error fault.cause := by
  induction lines generalizing settings number with
  | nil => simp [readLines]
  | cons line lines ih =>
      rw [List.zipIdx_cons]
      simp only [List.mem_cons, Prod.mk.injEq, or_and_right, exists_or]
      cases parsed : Directive.parse home line with
      | ok directive =>
          rw [readLines_cons_of_ok parsed, ih, iff_or_self]
          rintro ⟨_, ⟨rfl, _⟩, failed⟩
          rw [parsed] at failed
          cases failed
      | error cause =>
          rw [readLines_cons_of_error parsed, List.mem_cons, ih]
          refine or_congr_left ⟨?_, ?_⟩
          · rintro rfl
            exact ⟨line, ⟨rfl, rfl⟩, parsed⟩
          · rintro ⟨_, ⟨rfl, rfl⟩, failed⟩
            rw [parsed, Except.error.injEq] at failed
            rw [failed]

theorem le_of_mem_faults {fault : FaultyLine}
    (isFault : fault ∈ (readLines home settings number lines).2) : number ≤ fault.number := by
  obtain ⟨line, isLine, -⟩ := mem_faults_iff.mp isFault
  exact (List.mem_zipIdx isLine).1

/-- The faults are listed in the order of their lines. -/
theorem faults_pairwise :
    (readLines home settings number lines).2.Pairwise (·.number < ·.number) := by
  induction lines generalizing settings number with
  | nil => exact List.Pairwise.nil
  | cons line lines ih =>
      cases parsed : Directive.parse home line with
      | ok directive =>
          rw [readLines_cons_of_ok parsed]
          exact ih
      | error cause =>
          rw [readLines_cons_of_error parsed, List.pairwise_cons]
          exact ⟨fun fault isFault => le_of_mem_faults isFault, ih⟩

/-! ## Lines without their ends -/

/-- Carriage returns at the ends of lines, and an empty line at the end of all, do not matter. -/
theorem readLines_linesOfParts :
    readLines home settings number (Text.linesOfParts lines) =
      readLines home settings number lines := by
  induction lines generalizing settings number with
  | nil => rfl
  | cons part parts ih =>
      cases parts with
      | nil =>
          rw [Text.linesOfParts]
          split
          next empty =>
            rw [List.isEmpty_iff.mp empty]
            rfl
          next => rfl
      | cons next parts =>
          rw [Text.linesOfParts]
          cases parsed : Directive.parse home part with
          | ok directive =>
              rw [readLines_cons_of_ok parsed, ← ih,
                readLines_cons_of_ok ((Directive.parse_dropReturn home part).trans parsed)]
          | error cause =>
              rw [readLines_cons_of_error parsed, ← ih,
                readLines_cons_of_error ((Directive.parse_dropReturn home part).trans parsed)]

theorem load_eq_readLines (home text : String) :
    load home text = readLines home {} 1 (Text.splitOn '\n' text.toList) :=
  readLines_linesOfParts

/-! ## Emptied lines -/

/-- Where faulty lines are emptied, the others are read the same. -/
theorem readLines_emptyParts {returns : Bool} {numbers : List Nat}
    (faulty : ∀ line number', (line, number') ∈ lines.zipIdx number → number' ∈ numbers →
      ∃ cause, Directive.parse home line = .error cause) :
    readLines home settings number (Text.emptyParts returns numbers number lines) =
      ((readLines home settings number lines).1,
        (readLines home settings number lines).2.filter (·.number ∉ numbers)) := by
  induction lines generalizing settings number with
  | nil => rfl
  | cons line lines ih =>
      have here := faulty line number (List.zipIdx_cons ▸ List.mem_cons_self)
      have later (settings : Settings) := @ih settings (number + 1) fun line number' isLine =>
        faulty line number' (List.zipIdx_cons ▸ List.mem_cons_of_mem _ isLine)
      rw [Text.emptyParts]
      by_cases isListed : number ∈ numbers
      · obtain ⟨cause, parsed⟩ := here isListed
        rw [if_pos isListed, readLines_cons_of_ok (Directive.parse_emptied home returns line),
          readLines_cons_of_error parsed, followAny, Option.elim_none, later]
        simp [isListed]
      · rw [if_neg isListed]
        cases parsed : Directive.parse home line with
        | ok directive => rw [readLines_cons_of_ok parsed, readLines_cons_of_ok parsed, later]
        | error cause =>
            rw [readLines_cons_of_error parsed, readLines_cons_of_error parsed, later]
            simp [isListed]

/-- The line with the number of a fault cannot be read. -/
theorem parse_of_mem_faults {fault : FaultyLine}
    (isFault : fault ∈ (readLines home settings number lines).2)
    (isLine : (line, fault.number) ∈ lines.zipIdx number) :
    Directive.parse home line = .error fault.cause := by
  obtain ⟨faulty, isFaulty, failed⟩ := mem_faults_iff.mp isFault
  rw [List.mk_mem_zipIdx_iff_le_and_getElem?_sub] at isLine isFaulty
  obtain rfl : faulty = line := Option.some.inj (isFaulty.2.symm.trans isLine.2)
  exact failed

end

/-! ## Files with faulty lines -/

section

variable {home text : String}

theorem mem_load_iff {fault : FaultyLine} :
    fault ∈ (load home text).2 ↔
      0 < fault.number ∧ ∃ line, (Text.lines text.toList)[fault.number - 1]? = some line ∧
        Directive.parse home line = .error fault.cause := by
  simp only [load, mem_faults_iff, List.mk_mem_zipIdx_iff_le_and_getElem?_sub, Nat.succ_le_iff,
    and_assoc, exists_and_left]

theorem number_le_of_mem_load {fault : FaultyLine} (isFault : fault ∈ (load home text).2) :
    fault.number ≤ (Text.lines text.toList).length := by
  obtain ⟨positive, line, isLine, -⟩ := mem_load_iff.mp isFault
  have inside := (List.getElem?_eq_some_iff.mp isLine).1
  omega

/-- Where faulty lines are emptied, a file says the same, and the other faults are left. -/
theorem load_emptyLines {numbers : List Nat} (returns : Bool)
    (faulty : ∀ number ∈ numbers, number ∈ (load home text).2.map FaultyLine.number) :
    load home (String.ofList (Text.emptyLines returns numbers text.toList)) =
      ((load home text).1, (load home text).2.filter (·.number ∉ numbers)) := by
  rw [load_eq_readLines home text] at faulty ⊢
  rw [load_eq_readLines, String.toList_ofList, Text.splitOn_emptyLines]
  refine readLines_emptyParts fun line number isLine isListed => ?_
  obtain ⟨fault, isFault, rfl⟩ := List.mem_map.mp (faulty number isListed)
  exact ⟨fault.cause, parse_of_mem_faults isFault isLine⟩

end

/-- Faulty lines have no effect.  The faults of a file are listed in the order of their lines, each
with the number of a line that cannot be read and with the reason, and every such line is listed.  A
file in which all these lines are emptied says the same and has no faults; where only some of them
are emptied, it says the same and has the other faults. -/
theorem faults_change_nothing (home text : String) (returns : Bool) :
    let settings := (load home text).1
    let faults := (load home text).2
    faults.Pairwise (·.number < ·.number) ∧
    (∀ fault ∈ faults, 0 < fault.number ∧ fault.number ≤ (Text.lines text.toList).length) ∧
    (∀ fault, fault ∈ faults ↔
      0 < fault.number ∧ ∃ line, (Text.lines text.toList)[fault.number - 1]? = some line ∧
        Directive.parse home line = .error fault.cause) ∧
    load home (String.ofList
      (Text.emptyLines returns (faults.map FaultyLine.number) text.toList)) = (settings, []) ∧
    ∀ numbers, (∀ number ∈ numbers, number ∈ faults.map FaultyLine.number) →
      load home (String.ofList (Text.emptyLines returns numbers text.toList)) =
        (settings, faults.filter (·.number ∉ numbers)) := by
  intro settings faults
  refine ⟨faults_pairwise, fun fault isFault => ?_, fun fault => mem_load_iff, ?_,
    fun numbers faulty => load_emptyLines returns faulty⟩
  · exact ⟨(mem_load_iff.mp isFault).1, number_le_of_mem_load isFault⟩
  · have left : faults.filter (·.number ∉ faults.map FaultyLine.number) = [] := by
      rw [List.filter_eq_nil_iff]
      intro fault isFault
      simpa using List.mem_map_of_mem isFault
    rw [load_emptyLines returns fun number isListed => isListed, left]

/-- A switch that is set to no word for on or off stays as it was, and the next line is read. -/
example :
    load "/home" "/set pre_command=off\r\n/set pre_command=maybe\r\n/reject a" =
      ({ options := { early := false }, rejections := ["a"] },
        [{ number := 2, cause := .notASwitch "pre_command" "maybe" }]) := by
  decide +kernel

end Settings
end ChatMacro
