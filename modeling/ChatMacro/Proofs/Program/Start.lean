import ChatMacro.Proofs.Program.Outputs

/-!
# How the program starts

Before the first template the program reads and reports, and does nothing else.  It does so whatever
its input is, unless it reads the input like a file, and then nothing is left of it.
-/

namespace ChatMacro

/-- A report notes that an engine is put on the shelf. -/
def Report.isCaching : Report → Bool
  | error _ => false
  | noted note => note.origin = .shelf

@[simp]
theorem Report.isCaching_error (line : String) : (error line).isCaching = false := rfl

/-- Without notes on engines nothing is left out. -/
theorem Report.filter_not_isCaching {reports : List Report}
    (unnoted : reports.filter isCaching = []) : reports.filter (!·.isCaching) = reports :=
  List.filter_eq_self.mpr (by simpa using List.filter_eq_nil_iff.mp unnoted)

theorem LogFilter.exists_of_mem_reports {filter : LogFilter} {notes : List Note} {report : Report}
    (member : report ∈ filter.reports notes) :
    ∃ note ∈ notes, report.isCaching = decide (note.origin = .shelf) := by
  obtain ⟨shown, passed, rfl⟩ := List.mem_map.mp member
  obtain ⟨note, listed, made⟩ := List.mem_filterMap.mp passed
  refine ⟨note, listed, ?_⟩
  simp only [pass?] at made
  split at made
  · cases made
    split <;> rfl
  · cases made

theorem LogFilter.isCaching_of_mem_reports {filter : LogFilter} {notes : List Note}
    (others : ∀ note ∈ notes, note.origin ≠ .shelf) :
    ∀ report ∈ filter.reports notes, report.isCaching = false := by
  intro report member
  obtain ⟨note, listed, caching_eq⟩ := exists_of_mem_reports member
  rw [caching_eq]
  exact decide_eq_false (others note listed)

namespace Transcript

variable {First Second : Type}

/-- An action does nothing but to read and to report, though not on engines.  It does the same
whatever the input is, unless nothing is left of the input. -/
def Observes (action : StateM Transcript First) : Prop :=
  ∀ before,
    (∃ added, (∀ report ∈ added, Report.isCaching report = false) ∧
      (action before).2 = { before with
        input := (action before).2.input
        reports := before.reports ++ added }) ∧
    ((action before).2.input = "" ∨
      ∀ input, action { before with input } =
        ((action before).1, { (action before).2 with input }))

theorem observes_pure (result : First) : Observes (pure result) := fun before =>
  ⟨⟨[], nofun, by simp [pure, StateT.pure]⟩, .inr fun _ => rfl⟩

/-- What is left of the input after the first action is what the second one starts with. -/
theorem Observes.bind {action : StateM Transcript First} (observes : Observes action)
    {next : First → StateM Transcript Second} (later : ∀ result, Observes (next result)) :
    Observes (action >>= next) := by
  intro before
  obtain ⟨⟨added, others, middle_eq⟩, input_eq⟩ := observes before
  obtain ⟨⟨more, othersMore, after_eq⟩, inputMore_eq⟩ := later (action before).1 (action before).2
  have bound : (action >>= next) before = next (action before).1 (action before).2 := rfl
  rw [bound]
  refine ⟨⟨added ++ more, ?_, ?_⟩, ?_⟩
  · exact List.forall_mem_append.mpr ⟨others, othersMore⟩
  · rw [after_eq, middle_eq]
    simp only [List.append_assoc]
  · rcases inputMore_eq with spent | sameMore
    · exact .inl spent
    · rcases input_eq with spent | same
      · have kept := congrArg (fun ran => ran.2.input) (sameMore (action before).2.input)
        exact .inl (kept.trans spent)
      · refine .inr fun input => ?_
        have bound' : (action >>= next) { before with input } =
            next (action { before with input }).1 (action { before with input }).2 := rfl
        rw [bound', same input, sameMore input]

section

variable (chance : Script.Chance) (filter : LogFilter)

theorem observes_isThere (path : String) :
    Observes ((filteredMachine chance filter).isThere path) := fun before =>
  ⟨⟨[], nofun, by simp [Machine.filtering, machine]⟩, .inr fun _ => rfl⟩

theorem observes_look (path : String) :
    Observes ((filteredMachine chance filter).look path) := by
  intro before
  by_cases own : path = inputPath
  · exact ⟨⟨[], nofun, by simp [Machine.filtering, machine, look, own]⟩,
      .inl (by simp [Machine.filtering, machine, look, own])⟩
  · exact ⟨⟨[], nofun, by simp [Machine.filtering, machine, look, own]⟩,
      .inr fun _ => by simp [Machine.filtering, machine, look, own]⟩

theorem observes_complain (line : String) :
    Observes ((filteredMachine chance filter).complain line) := fun before =>
  ⟨⟨[.error line], by simp, rfl⟩, .inr fun _ => rfl⟩

theorem observes_note {note : Note} (other : note.origin ≠ .shelf) :
    Observes ((filteredMachine chance filter).note note) := by
  intro before
  simp only [note_filteredMachine]
  exact ⟨⟨filter.reports [note], LogFilter.isCaching_of_mem_reports (by simpa using other), rfl⟩,
    .inr fun _ => trivial⟩

end

end Transcript

namespace Program

open Transcript

variable {chance : Script.Chance} {filter : LogFilter} {surroundings : Surroundings}

theorem observes_firstThere (paths : List String) :
    Observes (firstThere (filteredMachine chance filter) paths) := by
  induction paths with
  | nil => exact observes_pure _
  | cons path paths ih =>
      refine (observes_isThere chance filter path).bind fun found => ?_
      cases found with
      | true => exact observes_pure _
      | false => exact ih

theorem observes_readSettings (choice : SettingsChoice) :
    Observes (readSettings (filteredMachine chance filter) surroundings choice) := by
  have chosen : Observes (chooseFile (filteredMachine chance filter) surroundings choice) := by
    cases choice with
    | search => exact observes_firstThere _
    | skip => exact observes_pure _
    | file path => exact observes_pure _
  have noted (path : String) (faulty : List FaultyLine) :
      Observes (faulty.forM fun line =>
        (filteredMachine chance filter).note (faultyNote path line)) := by
    induction faulty with
    | nil => exact observes_pure _
    | cons line faulty ih =>
        exact (observes_note chance filter (by simp [faultyNote])).bind fun _ => ih
  refine chosen.bind fun path? => ?_
  cases path? with
  | none => exact observes_pure _
  | some path =>
      refine (observes_look chance filter path).bind fun found => ?_
      cases found with
      | text content => exact (noted path _).bind fun _ => observes_pure _
      | missing => exact (observes_complain chance filter _).bind fun _ => observes_pure _
      | blocked => exact (observes_complain chance filter _).bind fun _ => observes_pure _
      | unreadable => exact (observes_complain chance filter _).bind fun _ => observes_pure _

/-- A start reads and reports, and does nothing else. -/
theorem observes_start (arguments : Arguments) :
    Observes (start (filteredMachine chance filter) surroundings arguments) := by
  refine (observes_readSettings arguments.settings).bind fun settings => ?_
  cases readInput arguments.input with
  | none => exact (observes_complain chance filter _).bind fun _ => observes_pure _
  | some input =>
      cases dry : arguments.dryRun with
      | true => exact observes_pure _
      | false =>
          refine (observes_look chance filter _).bind fun found => ?_
          cases openStore found with
          | ok entries =>
              exact (observes_note chance filter (by simp [openedNote])).bind
                fun _ => observes_pure _
          | error error => exact (observes_complain chance filter _).bind fun _ => observes_pure _

/-- When the program has started, nothing is printed and no engine is noted. -/
theorem start_fresh (arguments : Arguments) (folder : Folder) :
    let opened := (start (filteredMachine chance filter) surroundings arguments { folder }).2
    opened.output = [] ∧ opened.reports.filter Report.isCaching = [] := by
  have observes : Observes (start (filteredMachine chance filter) surroundings arguments) :=
    observes_start arguments
  obtain ⟨⟨added, plain, opened_eq⟩, -⟩ := observes { folder }
  have reports_eq := congrArg Transcript.reports opened_eq
  refine ⟨congrArg Transcript.output opened_eq, ?_⟩
  rw [reports_eq, List.nil_append, List.filter_eq_nil_iff]
  simpa using plain

/-- A start leads to a session without engines, or the program ends without success. -/
theorem start_cases (arguments : Arguments) (transcript : Transcript) :
    let started := start (filteredMachine chance filter) surroundings arguments transcript
    (∃ settings input path entries, started.1 = .ok (sessionOn settings input path entries)) ∨
      ∃ status, started.1 = .error status ∧ status ≠ .success := by
  simp only [start, bind, StateT.bind]
  rcases readSettings (filteredMachine chance filter) surroundings arguments.settings transcript
    with ⟨settings, read⟩
  cases readInput arguments.input with
  | none => exact .inr ⟨.misuse, rfl, nofun⟩
  | some input =>
      cases dry : arguments.dryRun with
      | true => exact .inl ⟨settings, input, none, .empty, rfl⟩
      | false =>
          simp only [Bool.false_eq_true, if_false, StateT.bind]
          rcases (filteredMachine chance filter).look (storePath surroundings arguments settings)
            read with ⟨found, looked⟩
          simp only [bind]
          cases openStore found with
          | ok entries => exact .inl ⟨settings, input, some _, entries, rfl⟩
          | error error => exact .inr ⟨.failure, rfl, nofun⟩

end Program
end ChatMacro
