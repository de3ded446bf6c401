import ChatMacro.Proofs.Engine.Shelves
import ChatMacro.Proofs.Program.Arguments
import ChatMacro.Proofs.Program.Start
import ChatMacro.Proofs.Text.Lines

/-!
# Templates as arguments and as lines

The program expands templates that stand behind two dashes with the engines of a shelf, and the
lines of its input with engines off the shelf.  Both do the same, but for the notes on engines that
are put on the shelf.  The input must not be read before, when the program starts.
-/

namespace ChatMacro

namespace Shelf

/-- The templates for which there is no engine yet, each of them once and in their order. -/
def missing (shelf : Shelf) (templates : List String) : List String :=
  (templates.filter fun template => template ∉ shelf.templates).eraseDups

section

variable {shelf : Shelf}

theorem engineNotes_eq (template : String) :
    shelf.engineNotes template = (shelf.missing [template]).map cachingNote := by
  have found : (shelf.engines.lookup template).isNone = true ↔ template ∉ shelf.templates := by
    simp only [Option.isNone_iff_eq_none, List.lookup_eq_none_iff, bne_iff_ne, templates,
      List.mem_map, not_exists, not_and]
    exact forall₂_congr fun _ _ => ne_comm
  by_cases inside : template ∈ shelf.templates
  · simp [engineNotes, found, missing, inside]
  · simp [engineNotes, found, missing, inside, List.eraseDups_cons]

/-- With an engine for the first template, only the others are missing. -/
theorem missing_cons {next : Shelf} {template : String}
    (mem_next : ∀ sought, sought ∈ next.templates ↔ sought ∈ shelf.templates ∨ sought = template)
    (templates : List String) :
    shelf.missing (template :: templates) =
      shelf.missing [template] ++ next.missing templates := by
  by_cases inside : template ∈ shelf.templates
  · have same : ∀ sought, sought ∈ next.templates ↔ sought ∈ shelf.templates := fun sought =>
      (mem_next sought).trans (or_iff_left_of_imp fun eq => eq ▸ inside)
    simp [missing, inside, same]
  · simp [missing, inside, mem_next, List.eraseDups_cons, List.filter_filter, not_or,
      Bool.and_comm, beq_eq_decide]

end

end Shelf

namespace Transcript

/-- Two transcripts differ at most in what is left of the input and in notes on engines, which are
only in the first one. -/
structure Matches (left right : Transcript) : Prop where
  folder_eq : left.folder = right.folder
  output_eq : left.output = right.output
  reports_eq : right.reports = left.reports.filter (!·.isCaching)

end Transcript

namespace Session

variable (chance : Script.Chance) (filter : LogFilter) (session : Session)

/-- An engine of a uniform shelf expands its template as an engine off the shelf does. -/
theorem ownPlan_eq (uniform : session.shelf.Uniform) (template : String) :
    ∃ first, session.shelf.engine template = session.shelf.built template first ∧
      (session.shelf.engine template).ownPlan chance session.input =
        session.shelf.uncached.plan chance session.input template := by
  obtain ⟨first, engine_eq⟩ := uniform.engine_eq template
  exact ⟨first, engine_eq, by rw [engine_eq]; rfl⟩

/-- A template does what it does as a line, but its engine, if it is new, is put on the shelf, which
is noted. -/
theorem expandTemplate_eq (uniform : session.shelf.Uniform) (template : String)
    (transcript : Transcript) :
    ∃ first,
      session.expandTemplate (Transcript.filteredMachine chance filter) template transcript =
        let (next?, after) :=
          session.expandLine (Transcript.filteredMachine chance filter) template
            { transcript with
              reports := transcript.reports ++
                filter.reports (session.shelf.engineNotes template) }
        (next?.map fun next =>
          { next with shelf := session.shelf.put template (session.shelf.built template first) },
          after) := by
  obtain ⟨former, engine_eq, planned⟩ := session.ownPlan_eq chance uniform template
  have drawn (transcript : Transcript) :
      (Transcript.filteredMachine chance filter).chance transcript = (chance, transcript) := rfl
  simp only [expandTemplate, expandLine_eq, bind, StateT.bind, drawn, perform_eq, planned,
    Transcript.forM_note_filteredMachine, Engine.expand]
  rcases (session.shelf.uncached.plan chance session.input template).run (answerOn session.path)
    (session.entries, transcript.folder) with ⟨_ | output, entries, folder⟩
  · exact ⟨former, rfl⟩
  · refine ⟨former.or (some output), ?_⟩
    rw [engine_eq, Engine.keep_eq]
    rfl

/-- Nothing that is noted in an expansion is about an engine on the shelf. -/
theorem isCaching_expansion (engine : Engine) (input : Option Json) (template : String)
    (path? : Option String) (held : Entries × Folder) :
    ∀ report ∈ filter.reports
        (((engine.plan chance input template).notes (answerOn path?) held).map
          (Note.within template)),
      report.isCaching = false := by
  have keeps := Expansion.keepsTo_expand engine.options chance engine.pipeline input template
  refine LogFilter.isCaching_of_mem_reports fun note member => ?_
  obtain ⟨made, listed, rfl⟩ := List.mem_map.mp member
  have expands := keeps.forall_mem_notes (answerOn path?) held made listed
  intro shelf
  rw [Note.IsOfExpansion, show made.origin = .shelf from shelf] at expands
  cases expands

theorem isCaching_engineNotes (shelf : Shelf) (template : String) :
    ∀ report ∈ filter.reports (shelf.engineNotes template), report.isCaching = true := by
  intro report member
  obtain ⟨note, listed, caching_eq⟩ := LogFilter.exists_of_mem_reports member
  rw [Shelf.engineNotes_eq] at listed
  obtain ⟨_, -, rfl⟩ := List.mem_map.mp listed
  exact caching_eq

section

variable {shelf : Shelf} (uniform : shelf.Uniform)
  (same : shelf.uncached = session.shelf.uncached) {left right : Transcript}
  (matching : left.Matches right)

include uniform same matching

/-- What a template does and what it does as a line match, but for its engine. -/
theorem expandTemplate_matches (template : String) :
    ∃ next : Shelf, next.Uniform ∧ next.uncached = session.shelf.uncached ∧
      (∀ sought, sought ∈ next.templates ↔ sought ∈ shelf.templates ∨ sought = template) ∧
      let onLeft := expandTemplate (Transcript.filteredMachine chance filter)
        { session with shelf } template left
      let onRight := expandLine (Transcript.filteredMachine chance filter) session template right
      onLeft.1 = onRight.1.map (fun later => { later with shelf := next }) ∧
        onLeft.2.Matches onRight.2 ∧
        onLeft.2.reports.filter Report.isCaching =
          left.reports.filter Report.isCaching ++
            filter.reports (shelf.engineNotes template) := by
  obtain ⟨first, expanded⟩ :=
    expandTemplate_eq chance filter { session with shelf } uniform template left
  refine ⟨_, uniform.put template first, same, fun _ => Shelf.mem_templates_put, ?_⟩
  rw [expanded]
  simp only [expandLine_eq, same, matching.folder_eq]
  have caching := isCaching_engineNotes filter shelf template
  have plain := isCaching_expansion chance filter session.shelf.uncached session.input template
    session.path (session.entries, right.folder)
  generalize filter.reports (shelf.engineNotes template) = engines at caching ⊢
  generalize filter.reports (List.map (Note.within template) _) = notes at plain ⊢
  have enginesOnly : engines.filter Report.isCaching = engines ∧
      engines.filter (!·.isCaching) = [] :=
    ⟨List.filter_eq_self.mpr caching, List.filter_eq_nil_iff.mpr (by simpa using caching)⟩
  have notesOnly : notes.filter Report.isCaching = [] ∧ notes.filter (!·.isCaching) = notes :=
    ⟨List.filter_eq_nil_iff.mpr (by simpa using plain),
      List.filter_eq_self.mpr (by simpa using plain)⟩
  rcases session.shelf.uncached.expand (answerOn session.path) chance session.input template
    (session.entries, right.folder) with ⟨error | output, entries, folder⟩
  · refine ⟨rfl, ⟨rfl, matching.output_eq, ?_⟩, ?_⟩ <;>
      simp [enginesOnly, notesOnly, matching.reports_eq]
  · refine ⟨rfl, ⟨rfl, by rw [matching.output_eq], ?_⟩, ?_⟩ <;>
      simp [enginesOnly, notesOnly, matching.reports_eq]

/-- Templates go on to match their lines until the store fails, and each engine that is new is
noted. -/
theorem eachOf_matches (templates : List String) :
    let onLeft := Machine.eachOf (expandTemplate (Transcript.filteredMachine chance filter))
      { session with shelf } templates left
    let onRight := Machine.eachOf (expandLine (Transcript.filteredMachine chance filter))
      session templates right
    onLeft.1 = onRight.1 ∧ onLeft.2.Matches onRight.2 ∧
      ∃ printed, onLeft.2.output.length = left.output.length + printed ∧
        onLeft.2.reports.filter Report.isCaching =
          left.reports.filter Report.isCaching ++
            filter.reports
              ((shelf.missing (templates.take (printed + 1))).map Shelf.cachingNote) := by
  induction templates generalizing session shelf left right with
  | nil => exact ⟨rfl, matching, 0, rfl, by simp [Machine.eachOf, pure, StateT.pure, Shelf.missing,
      LogFilter.reports]⟩
  | cons template templates ih =>
      obtain ⟨next, nextUniform, nextSame, mem_next, moved, matched, noted⟩ :=
        expandTemplate_matches chance filter session uniform same matching template
      rw [Shelf.engineNotes_eq] at noted
      rcases expanded : expandTemplate (Transcript.filteredMachine chance filter)
        { session with shelf } template left with ⟨next?, leftAfter⟩
      simp only [expanded] at moved matched noted
      rcases session.expandLine_cases chance filter template right with
        ⟨later, after, ⟨output, _, _, after_eq⟩, onRight⟩ | ⟨after, ⟨_, _, _, after_eq⟩, onRight⟩
      · rw [onRight] at moved matched
        subst moved
        obtain ⟨ended, final, printed, count, cached⟩ :=
          ih { session with entries := later } nextUniform nextSame matched
        simp only [Machine.eachOf_of_some onRight, Machine.eachOf_of_some expanded]
        refine ⟨ended, final, printed + 1, ?_, ?_⟩
        · rw [count, matched.output_eq, after_eq, matching.output_eq, List.length_append,
            List.length_singleton, Nat.add_right_comm, Nat.add_assoc]
        · rw [cached, noted, List.take_succ_cons,
            Shelf.missing_cons mem_next (templates.take (printed + 1))]
          simp [LogFilter.reports]
      · rw [onRight] at moved matched
        subst moved
        simp only [Machine.eachOf_of_none onRight, Machine.eachOf_of_none expanded]
        refine ⟨trivial, matched, 0, ?_, noted⟩
        rw [matched.output_eq, after_eq, matching.output_eq]
        rfl

end

end Session
namespace Program

/-- Templates as input, each in a line of its own. -/
def inLines (templates : List String) : String :=
  String.ofList (templates.flatMap fun template => template.toList ++ ['\n'])

/-- A template that is one line of input and no part of its end. -/
def IsLine (template : String) : Prop :=
  '\n' ∉ template.toList ∧ template.toList.getLast? ≠ some '\r'

instance (template : String) : Decidable (IsLine template) :=
  inferInstanceAs (Decidable ('\n' ∉ template.toList ∧ template.toList.getLast? ≠ some '\r'))

theorem lines_inLines {templates : List String}
    (areLines : ∀ template ∈ templates, IsLine template) :
    (Text.lines (inLines templates).toList).map String.ofList = templates := by
  have single : ∀ part ∈ templates.map String.toList, '\n' ∉ part := by
    simpa using fun template member => (areLines template member).1
  have characters : (inLines templates).toList =
      (templates.map String.toList).flatMap (· ++ ['\n']) := by
    rw [inLines, String.toList_ofList, List.flatMap_map]
  rw [characters, Text.lines_terminated single, List.map_map, List.map_map]
  refine (List.map_congr_left fun template member => ?_).trans (List.map_id templates)
  simp [Text.dropReturn_of_ne (areLines template member).2]

theorem inLines_ne_empty {templates : List String} (nonempty : templates ≠ []) :
    inLines templates ≠ "" := by
  obtain ⟨template, others, rfl⟩ := List.exists_cons_of_ne_nil nonempty
  intro empty
  have characters := congrArg String.toList empty
  simp [inLines] at characters

section

variable (chance : Script.Chance) (surroundings : Surroundings) (arguments : Arguments)

/-- The machine on which the program does what the arguments ask for. -/
abbrev machineFor : Machine (StateM Transcript) :=
  Transcript.filteredMachine chance (surroundings.filter arguments.debug)

/-- On a tree of files the program leaves an input alone when it starts: it reads neither its
settings nor its store from there. -/
def SparesInput (folder : Folder) (input : String) : Prop :=
  (start (machineFor chance surroundings arguments) surroundings arguments
    { folder, input }).2.input = input

instance (folder : Folder) (input : String) :
    Decidable (SparesInput chance surroundings arguments folder input) :=
  inferInstanceAs (Decidable (_ = _))

variable {chance surroundings arguments}

/-- If an input is left alone, the program starts in the same way with any other. -/
theorem start_of_spares {folder : Folder} {input : String} (nonempty : input ≠ "")
    (spares : SparesInput chance surroundings arguments folder input) (other : String) :
    start (machineFor chance surroundings arguments) surroundings arguments
        { folder, input := other } =
      let (result, started) :=
        start (machineFor chance surroundings arguments) surroundings arguments { folder }
      (result, { started with input := other }) := by
  rcases (observes_start arguments { folder, input }).2 with spent | same
  · exact absurd (spares.symm.trans spent) nonempty
  · rw [same other, same ""]

omit arguments in
theorem obey_eq (machine : Machine (StateM Transcript)) (arguments : Arguments)
    (transcript : Transcript) :
    obey machine surroundings arguments transcript =
      match start machine surroundings arguments transcript with
      | (.error status, started) => (status, started)
      | (.ok session, started) =>
          let (finished, after) := expandAll machine session arguments.allTemplates started
          (statusOf finished, after) := by
  simp only [obey, bind, StateT.bind]
  rcases start machine surroundings arguments transcript with ⟨status | session, started⟩ <;> rfl

/-- The lines of the input are taken as they were put in. -/
theorem expandAll_inLines (session : Session) (started : Transcript) {lines : List String}
    (areLines : ∀ line ∈ lines, IsLine line) :
    expandAll (machineFor chance surroundings arguments) session []
        { started with input := inLines lines } =
      Machine.eachOf (Session.expandLine (machineFor chance surroundings arguments)) session lines
        { started with input := "" } := by
  simp only [expandAll, Machine.filtering, Transcript.machine, lines_inLines areLines]

theorem transcript_of_parsed {words : List String}
    (parsed : Arguments.parse surroundings.home words = .ok arguments) (folder : Folder)
    (input : String) :
    transcript chance surroundings folder words input =
      obey (machineFor chance surroundings arguments) surroundings arguments { folder, input } := by
  simp only [transcript, run, parsed]

end

section

variable {chance : Script.Chance} {surroundings : Surroundings} {folder : Folder}
  {options : List String} {arguments : Arguments}
  (parsed : Arguments.parse surroundings.home options = .ok arguments)
  (noCommand : arguments.command = none) (noTemplates : arguments.templates = [])
  {templates : List String} (nonempty : templates ≠ [])
  (spares : SparesInput chance surroundings arguments folder (inLines templates))

include parsed noCommand noTemplates nonempty spares

/-- On lines the program starts as without input and then expands the lines. -/
theorem transcript_lines {lines : List String} (areLines : ∀ line ∈ lines, IsLine line) :
    transcript chance surroundings folder options (inLines lines) =
      match start (machineFor chance surroundings arguments) surroundings arguments { folder } with
      | (.error status, started) => (status, { started with input := inLines lines })
      | (.ok session, started) =>
          let (finished, after) :=
            Machine.eachOf (Session.expandLine (machineFor chance surroundings arguments)) session
              lines { started with input := "" }
          (statusOf finished, after) := by
  have noOthers : arguments.allTemplates = [] := by
    simp [Arguments.allTemplates, noCommand, noTemplates]
  rw [transcript_of_parsed parsed, obey_eq,
    start_of_spares (inLines_ne_empty nonempty) spares]
  rcases start (machineFor chance surroundings arguments) surroundings arguments { folder } with
    ⟨status | session, started⟩
  · rfl
  · simp only [noOthers, expandAll_inLines session started areLines]
    rfl

/-- On templates behind two dashes it starts so, too, and then expands the templates. -/
theorem transcript_templates (unterminated : ¬ Arguments.Terminated surroundings.home options)
    (input : String) :
    transcript chance surroundings folder (options ++ "--" :: templates) input =
      match start (machineFor chance surroundings arguments) surroundings arguments { folder } with
      | (.error status, started) => (status, { started with input })
      | (.ok session, started) =>
          let (finished, after) :=
            Machine.eachOf (Session.expandTemplate (machineFor chance surroundings arguments))
              session templates { started with input }
          (statusOf finished, after) := by
  have all := Arguments.parse_append_dashes parsed unterminated templates
  rw [noTemplates, List.nil_append] at all
  have startsAlike :
      start (machineFor chance surroundings { arguments with templates }) surroundings
        { arguments with templates } { folder, input } = _ :=
    start_of_spares (inLines_ne_empty nonempty) spares input
  obtain ⟨template, others, rfl⟩ := List.exists_cons_of_ne_nil nonempty
  have allTemplates_eq :
      { arguments with templates := template :: others }.allTemplates = template :: others := by
    simp [Arguments.allTemplates, noCommand]
  rw [transcript_of_parsed all, obey_eq, startsAlike]
  rcases start (machineFor chance surroundings arguments) surroundings arguments { folder } with
    ⟨status | session, started⟩
  · rfl
  · simp only [allTemplates_eq, expandAll]
    rfl

/-- While the lines do not fail the store, the next one prints one text, or it fails the store and
ends the program. -/
theorem transcript_lines_cases {front : List String} {template : String} {back : List String}
    (split : templates = front ++ template :: back)
    (areLines : ∀ line ∈ templates, IsLine line) :
    let onLines (lines : List String) :=
      transcript chance surroundings folder options (inLines lines)
    (onLines front).1 = .success →
      let before := (onLines front).2
      (∃ after, before.PrintsOne after ∧ onLines (front ++ [template]) = (.success, after)) ∨
      ∃ after, before.ReportsStore after ∧ onLines templates = (.failure, after) := by
  intro onLines succeeded
  have onLines_eq {lines : List String} (within : lines <+: templates) :=
    transcript_lines parsed noCommand noTemplates nonempty spares fun line member =>
      areLines line (within.subset member)
  have inFront : front <+: templates := split ▸ List.prefix_append _ _
  have inNext : front ++ [template] <+: templates :=
    ⟨back, by rw [split, List.append_cons front template back]⟩
  simp only [onLines, onLines_eq inFront, onLines_eq inNext, onLines_eq List.prefix_rfl]
    at succeeded ⊢
  rcases begun : start (machineFor chance surroundings arguments) surroundings arguments { folder }
    with ⟨status | session, opened⟩
  · rcases start_cases arguments { folder } with ⟨_, _, _, _, started⟩ | ⟨other, ended, failed⟩
    · rw [begun] at started
      cases started
    · rw [begun] at ended succeeded
      cases ended
      exact absurd succeeded failed
  · simp only [begun] at succeeded ⊢
    have cases := session.eachOf_expandLine_cases chance (surroundings.filter arguments.debug)
      front template back { opened with input := "" }
    rcases ran : Machine.eachOf (Session.expandLine (machineFor chance surroundings arguments))
      session front { opened with input := "" } with ⟨_ | _, before⟩
    · rw [ran] at succeeded
      cases succeeded
    · simp only [ran] at cases
      rcases cases trivial with ⟨after, prints, continued⟩ | ⟨after, reports, stopped⟩
      · exact .inl ⟨after, prints, by rw [continued]; rfl⟩
      · exact .inr ⟨after, reports, by rw [split, stopped]; rfl⟩

omit parsed noCommand noTemplates nonempty spares in
/-- No engine is on the shelf of a session that has just started. -/
theorem session_of_start {session : Session} {opened : Transcript}
    (begun : start (machineFor chance surroundings arguments) surroundings arguments { folder } =
      (.ok session, opened)) :
    session.shelf.Uniform ∧ session.shelf.templates = [] := by
  rcases start_cases arguments { folder } with ⟨settings, _, _, _, started⟩ | ⟨_, ended, _⟩
  · rw [begun] at started
    cases started
    exact ⟨Shelf.uniform_empty settings.options settings.pipeline, rfl⟩
  · rw [begun] at ended
    cases ended

/-- The two modes start alike, and then templates match their lines. -/
theorem transcript_modes_match (unterminated : ¬ Arguments.Terminated surroundings.home options)
    (areLines : ∀ line ∈ templates, IsLine line) (input : String) :
    let onArguments :=
      transcript chance surroundings folder (options ++ "--" :: templates) input
    let onLines := transcript chance surroundings folder options (inLines templates)
    let started :=
      start (machineFor chance surroundings arguments) surroundings arguments { folder }
    let reached :=
      if started.1.isOk then templates.take (onArguments.2.output.length + 1) else []
    onArguments.1 = onLines.1 ∧ onArguments.2.Matches onLines.2 ∧
      onArguments.2.reports.filter Report.isCaching =
        (surroundings.filter arguments.debug).reports
          (reached.eraseDups.map Shelf.cachingNote) := by
  intro onArguments onLines started reached
  have onLines_eq : onLines = _ :=
    transcript_lines parsed noCommand noTemplates nonempty spares areLines
  have onArguments_eq : onArguments = _ :=
    transcript_templates parsed noCommand noTemplates nonempty spares unterminated input
  obtain ⟨output_eq, unnoted⟩ :
      started.2.output = [] ∧ started.2.reports.filter Report.isCaching = [] :=
    start_fresh arguments folder
  rcases begun : start (machineFor chance surroundings arguments) surroundings arguments { folder }
    with ⟨result, opened⟩
  have started_eq : started = (result, opened) := begun
  rw [started_eq] at output_eq unnoted
  dsimp only at output_eq unnoted
  have openedMatches (left right : String) :
      Transcript.Matches { opened with input := left } { opened with input := right } :=
    ⟨rfl, rfl, (Report.filter_not_isCaching unnoted).symm⟩
  simp only [begun] at onLines_eq onArguments_eq
  cases result with
  | error status =>
      rw [onLines_eq, onArguments_eq]
      refine ⟨rfl, openedMatches input (inLines templates), ?_⟩
      simp only [reached, started_eq]
      exact unnoted
  | ok session =>
      obtain ⟨uniform, noEngines⟩ := session_of_start begun
      obtain ⟨finished_eq, matching, printed, count, noted⟩ :=
        Session.eachOf_matches chance (surroundings.filter arguments.debug) session uniform rfl
          (openedMatches input "") templates
      have printed_eq : onArguments.2.output.length = printed := by
        rw [onArguments_eq]
        exact count.trans (by simp [output_eq])
      have reached_eq : reached = templates.take (printed + 1) := by
        simp only [reached, started_eq, printed_eq]
        rfl
      have missing_eq : session.shelf.missing reached = reached.eraseDups := by
        simp [Shelf.missing, noEngines]
      rw [unnoted, List.nil_append, ← reached_eq, missing_eq] at noted
      rw [onLines_eq, onArguments_eq]
      exact ⟨congrArg statusOf finished_eq, matching, noted⟩

end

/-- Templates can be passed to the program as arguments or as lines of its input.  Let its flags be
such that they can be read by themselves and hold no template and no two dashes that end them, and
let neither the settings nor the store be read from the input.  Then the program ends with the same
status on templates behind two dashes as on templates in lines, prints the same, leaves the same
files, whatever they hold before, and reports the same errors and notes, with one exception.  On
arguments it also notes each new engine, one for each template that it comes to, if the log is to
show that.  As long as no template fails the store, each prints one text; the first that does ends
the program with one error, and what was printed before stays. -/
theorem transcript_modes_agree (chance : Script.Chance) (surroundings : Surroundings)
    (folder : Folder) {options : List String} {arguments : Arguments}
    (parsed : Arguments.parse surroundings.home options = .ok arguments)
    (noCommand : arguments.command = none) (noTemplates : arguments.templates = [])
    (unterminated : ¬ Arguments.Terminated surroundings.home options) {templates : List String}
    (nonempty : templates ≠ []) (areLines : ∀ template ∈ templates, IsLine template)
    (spares : SparesInput chance surroundings arguments folder (inLines templates))
    (input : String) :
    let filter := surroundings.filter arguments.debug
    let onArguments :=
      transcript chance surroundings folder (options ++ "--" :: templates) input
    let onLines (lines : List String) :=
      transcript chance surroundings folder options (inLines lines)
    let started :=
      start (machineFor chance surroundings arguments) surroundings arguments { folder }
    let reached :=
      if started.1.isOk then templates.take (onArguments.2.output.length + 1) else []
    onArguments.1 = (onLines templates).1 ∧
      onArguments.2.output = (onLines templates).2.output ∧
      onArguments.2.folder = (onLines templates).2.folder ∧
      (onLines templates).2.reports = onArguments.2.reports.filter (!·.isCaching) ∧
      onArguments.2.reports.filter Report.isCaching =
        filter.reports (reached.eraseDups.map Shelf.cachingNote) ∧
      ((∀ template, filter.shows (Shelf.cachingNote template) = false) →
        onArguments.2.reports = (onLines templates).2.reports) ∧
      ∀ front template back, templates = front ++ template :: back →
        (onLines front).1 = .success →
        let before := (onLines front).2
        (∃ after, before.PrintsOne after ∧ onLines (front ++ [template]) = (.success, after)) ∨
        ∃ after, before.ReportsStore after ∧ onLines templates = (.failure, after) := by
  intro filter onArguments onLines started reached
  obtain ⟨status_eq, matching, noted⟩ :=
    transcript_modes_match parsed noCommand noTemplates nonempty spares unterminated areLines input
  refine ⟨status_eq, matching.output_eq, matching.folder_eq, matching.reports_eq, noted, ?_, ?_⟩
  · intro quiet
    have unnoted : filter.reports (reached.eraseDups.map Shelf.cachingNote) = [] := by
      simp [LogFilter.reports, LogFilter.pass?, quiet]
    rw [matching.reports_eq]
    exact (Report.filter_not_isCaching (noted.trans unnoted)).symm
  · intro front template back split
    exact transcript_lines_cases parsed noCommand noTemplates nonempty spares split areLines

/-- Where the input is the store, lines are gone before they can be expanded, and where all of the
log is shown, only arguments have their engines noted. -/
theorem transcript_modes_differ :
    let surroundings : Surroundings := { home := "/home" }
    let folder : Folder := { current := ["home"], files := [] }
    let onArguments (options : List String) :=
      transcript (fun _ _ => 0) surroundings folder (options ++ ["--", "x"]) ""
    let onLines (options : List String) :=
      transcript (fun _ _ => 0) surroundings folder options (inLines ["x"])
    let inputAsStore := ["-f", "-s/dev/stdin"]
    let verbose := ["-nd", "-f"]
    (∀ options ∈ [inputAsStore, verbose],
      (∃ arguments, Arguments.parse "/home" options = .ok arguments ∧
        arguments.command = none ∧ arguments.templates = []) ∧
      ¬ Arguments.Terminated "/home" options) ∧ IsLine "x" ∧
    (onArguments inputAsStore).1 = .success ∧ (onArguments inputAsStore).2.output = ["x"] ∧
    (onLines inputAsStore).1 = .failure ∧ (onLines inputAsStore).2.output = [] ∧
    (onLines inputAsStore).2.errors = ["cmdvar: store: /dev/stdin: store encoding"] ∧
    (onArguments verbose).2.reports ≠ (onLines verbose).2.reports := by
  intro surroundings folder onArguments onLines inputAsStore verbose
  refine ⟨?_, by decide, by decide +kernel, by decide +kernel, by decide +kernel,
    by decide +kernel, by decide +kernel, by decide +kernel⟩
  intro options member
  rcases List.mem_pair.mp member with rfl | rfl
  · exact ⟨⟨_, rfl, rfl, rfl⟩, by decide +kernel⟩
  · exact ⟨⟨_, rfl, rfl, rfl⟩, by decide +kernel⟩

/-- A store without a path cannot be written, which ends the program at its second template.  The
log shows the engines of the first two. -/
theorem transcript_modes_agree_unwritable :
    let surroundings : Surroundings := { home := "/home" }
    let folder : Folder := { current := ["home"], files := [] }
    let options := ["-i", "1", "-s", "", "-d", "-f"]
    let templates := ["-a", "{n=1}", "b"]
    let onArguments :=
      transcript (fun _ _ => 0) surroundings folder (options ++ "--" :: templates) ""
    let onLines := transcript (fun _ _ => 0) surroundings folder options (inLines templates)
    onArguments.1 = onLines.1 ∧ onArguments.2.output = onLines.2.output ∧
      onLines.2.reports = onArguments.2.reports.filter (!·.isCaching) ∧
      onArguments.1 = .failure ∧ onArguments.2.output = ["-a"] ∧
      onArguments.2.reports.filter Report.isCaching =
        [.noted (Shelf.cachingNote "-a"), .noted (Shelf.cachingNote "{n=1}")] := by
  intro surroundings folder options templates onArguments onLines
  have parsed : Arguments.parse surroundings.home options =
      .ok { settings := .skip, input := some "1", store := some "", debug := true } := rfl
  have unterminated : ¬ Arguments.Terminated surroundings.home options := by decide +kernel
  have areLines : ∀ template ∈ templates, IsLine template := by
    decide +kernel
  have spares : SparesInput (fun _ _ => 0) surroundings
      { settings := .skip, input := some "1", store := some "", debug := true } folder
      (inLines templates) := by
    decide +kernel
  have nonempty : templates ≠ [] := List.cons_ne_nil _ _
  have agree := transcript_modes_agree (fun _ _ => 0) surroundings folder parsed rfl rfl
    unterminated nonempty areLines spares ""
  dsimp only at agree
  simp only [onArguments, onLines]
  exact ⟨agree.1, agree.2.1, agree.2.2.2.1, by decide +kernel, by decide +kernel,
    by decide +kernel⟩

end Program
end ChatMacro
