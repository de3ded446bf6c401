import ChatMacro.Program.Run
import ChatMacro.Proofs.Engine.Stages

/-!
# What a session prints

On a tree of files a session carries plans out as on a store whose answers write its file, and
reports what they note as far as it is shown.  Each line puts out one text, until the store fails.
That ends the session with one error, and what was printed before stays.
-/

namespace ChatMacro

/-- The reports on notes, as far as they are shown. -/
def LogFilter.reports (filter : LogFilter) (notes : List Note) : List Report :=
  (notes.filterMap filter.pass?).map .noted

namespace Transcript

/-- The machine that acts on a transcript, with a filter of its log. -/
abbrev filteredMachine (chance : Script.Chance) (filter : LogFilter) :
    Machine (StateM Transcript) :=
  (machine chance).filtering filter

/-- One text more has been printed, files may have changed, and notes may have been made. -/
def PrintsOne (before after : Transcript) : Prop :=
  ∃ (output : String) (folder : Folder) (notes : List Note), after = { before with
    folder
    output := before.output ++ [output]
    reports := before.reports ++ notes.map .noted }

/-- A failure of the store has been reported, files may have changed, and notes may have been
made. -/
def ReportsStore (before after : Transcript) : Prop :=
  ∃ (cause : StoreError) (folder : Folder) (notes : List Note), after = { before with
    folder
    reports := before.reports ++ notes.map .noted ++
      [.error ("cmdvar: " ++ (EngineError.store .blockScanning cause).message)] }

theorem note_filteredMachine (chance : Script.Chance) (filter : LogFilter) (note : Note)
    (transcript : Transcript) :
    (filteredMachine chance filter).note note transcript =
      ((), { transcript with reports := transcript.reports ++ filter.reports [note] }) := by
  cases passed : filter.pass? note with
  | none => simp [Machine.filtering, LogFilter.reports, passed, pure, StateT.pure]
  | some shown => simp [Machine.filtering, LogFilter.reports, passed, machine]

theorem forM_note_filteredMachine (chance : Script.Chance) (filter : LogFilter)
    (notes : List Note) (transcript : Transcript) :
    notes.forM (filteredMachine chance filter).note transcript =
      ((), { transcript with reports := transcript.reports ++ filter.reports notes }) := by
  induction notes generalizing transcript with
  | nil => simp [LogFilter.reports, pure, StateT.pure]
  | cons note notes ih =>
      simp only [List.forM, bind, StateT.bind, note_filteredMachine, ih, LogFilter.reports,
        List.append_assoc, ← List.map_append, ← List.filterMap_append, List.singleton_append]

end Transcript

namespace Session

/-! ## Plans on a tree of files -/

/-- How the store of a session answers on a tree of files. -/
def answerOn (path? : Option String) : Answer (Entries × Folder) := fun call held =>
  match path? with
  | none =>
      let (reply, entries) := Entries.answer call held.1
      (reply, entries, held.2)
  | some path =>
      match FileStore.answer true call { entries := held.1, text := none } with
      | (reply, { entries, text := none }) => (reply, entries, held.2)
      | (reply, { entries, text := some text }) =>
          match Transcript.write? path text held.2 with
          | some folder => (reply, entries, folder)
          | none =>
              let (reply, store) :=
                FileStore.answer false call { entries := held.1, text := none }
              (reply, store.entries, held.2)

section

variable {chance : Script.Chance} {filter : LogFilter} {Error Result : Type}

theorem answer_eq (session : Session) (call : Call) (transcript : Transcript) :
    session.answer (Transcript.filteredMachine chance filter) call transcript =
      let (reply, entries, folder) :=
        answerOn session.path call (session.entries, transcript.folder)
      ((reply, { session with entries }), { transcript with folder }) := by
  obtain ⟨shelf, input, path, entries⟩ := session
  cases path with
  | none => rfl
  | some path =>
      simp only [answer, store, answerOn, Store.answer]
      rcases FileStore.answer true call { entries, text := none } with ⟨reply, after, _ | text⟩
      · rfl
      · cases written : Transcript.write? path text transcript.folder <;>
          simp [Store.text?, Store.entries, bind, StateT.bind, Machine.filtering,
            Transcript.machine, written, pure, StateT.pure]

/-- A session carries a plan out as a store does. -/
theorem perform_eq (template : String) (plan : Plan Error Result) (session : Session)
    (transcript : Transcript) :
    session.perform (Transcript.filteredMachine chance filter) template plan transcript =
      let held := (session.entries, transcript.folder)
      let (result, entries, folder) := plan.run (answerOn session.path) held
      let notes := (plan.notes (answerOn session.path) held).map (Note.within template)
      ((result, { session with entries }),
        { transcript with folder, reports := transcript.reports ++ filter.reports notes }) := by
  induction plan generalizing session transcript with
  | done => simp [perform, Plan.run, Plan.notes, LogFilter.reports, pure, StateT.pure]
  | fail => simp [perform, Plan.run, Plan.notes, LogFilter.reports, pure, StateT.pure]
  | note entry rest ih =>
      simp only [perform, bind, StateT.bind, Transcript.note_filteredMachine, ih, Plan.run,
        Plan.notes, LogFilter.reports, List.append_assoc, ← List.map_append,
        ← List.filterMap_append, List.map_cons, List.singleton_append]
  | ask call raise next ih =>
      simp only [perform, bind, StateT.bind, answer_eq, Plan.run, Plan.notes]
      rcases answerOn session.path call (session.entries, transcript.folder) with
        ⟨_ | reply, entries, folder⟩
      · simp [LogFilter.reports, pure, StateT.pure]
      · exact ih reply { session with entries } { transcript with folder }

end

/-! ## Lines -/

section

variable (chance : Script.Chance) (filter : LogFilter) (session : Session) (line : String)
  (transcript : Transcript)

/-- A line is expanded by an engine off the shelf on the store of the session. -/
theorem expandLine_eq :
    session.expandLine (Transcript.filteredMachine chance filter) line transcript =
      let engine := session.shelf.uncached
      let held := (session.entries, transcript.folder)
      let notes := (engine.plan chance session.input line).notes (answerOn session.path) held
      let logged := transcript.reports ++ filter.reports (notes.map (Note.within line))
      match engine.expand (answerOn session.path) chance session.input line held with
      | (.ok output, entries, folder) =>
          (some { session with entries },
            { transcript with folder, output := transcript.output ++ [output], reports := logged })
      | (.error error, _, folder) =>
          (none, { transcript with
            folder, reports := logged ++ [.error ("cmdvar: " ++ error.message)] }) := by
  have drawn : (Transcript.filteredMachine chance filter).chance transcript =
    (chance, transcript) := rfl
  simp only [expandLine, bind, StateT.bind, drawn, perform_eq, Engine.expand]
  rcases (session.shelf.uncached.plan chance session.input line).run (answerOn session.path)
    (session.entries, transcript.folder) with ⟨_ | output, entries, folder⟩ <;> rfl

/-- A line puts out one text, or the store fails, which is reported and ends the session. -/
theorem expandLine_cases :
    (∃ entries after, transcript.PrintsOne after ∧
      session.expandLine (Transcript.filteredMachine chance filter) line transcript =
        (some { session with entries }, after)) ∨
    ∃ after, transcript.ReportsStore after ∧
      session.expandLine (Transcript.filteredMachine chance filter) line transcript =
        (none, after) := by
  have keeps := Expansion.keepsTo_expand session.shelf.uncached.options chance
    session.shelf.uncached.pipeline session.input line
  simp only [expandLine_eq]
  rcases expanded : session.shelf.uncached.expand (answerOn session.path) chance session.input line
    (session.entries, transcript.folder) with ⟨error | output, entries, folder⟩
  · obtain ⟨cause, rfl⟩ := keeps.exists_of_run_eq_error expanded
    exact .inr ⟨_, ⟨cause, folder, _, rfl⟩, rfl⟩
  · exact .inl ⟨_, _, ⟨output, folder, _, rfl⟩, rfl⟩

end

end Session

namespace Machine

section

variable {State : Type} {step : State → String → StateM Transcript (Option State)} {state : State}
  {text : String} {transcript after : Transcript}

theorem eachOf_of_some {next : State} (stepped : step state text transcript = (some next, after))
    (texts : List String) :
    eachOf step state (text :: texts) transcript = eachOf step next texts after := by
  simp only [eachOf, bind, StateT.bind, stepped]

theorem eachOf_of_none (stepped : step state text transcript = (none, after))
    (texts : List String) : eachOf step state (text :: texts) transcript = (false, after) := by
  simp only [eachOf, bind, StateT.bind, stepped]
  rfl

end

end Machine

namespace Session

/-- While no line fails the store, a session prints one text a line.  The first line that does ends
it, whatever lines follow. -/
theorem eachOf_expandLine_cases (chance : Script.Chance) (filter : LogFilter) (session : Session)
    (front : List String) (line : String) (back : List String) (transcript : Transcript) :
    let step := expandLine (Transcript.filteredMachine chance filter)
    (Machine.eachOf step session front transcript).1 = true →
      let before := (Machine.eachOf step session front transcript).2
      (∃ after, before.PrintsOne after ∧
        Machine.eachOf step session (front ++ [line]) transcript = (true, after)) ∨
      ∃ after, before.ReportsStore after ∧
        Machine.eachOf step session (front ++ line :: back) transcript = (false, after) := by
  intro step finished
  induction front generalizing session transcript with
  | nil =>
      rcases session.expandLine_cases chance filter line transcript with
        ⟨entries, after, prints, expanded⟩ | ⟨after, reports, expanded⟩
      · exact .inl ⟨after, prints, Machine.eachOf_of_some expanded []⟩
      · exact .inr ⟨after, reports, Machine.eachOf_of_none expanded back⟩
  | cons first front ih =>
      rcases session.expandLine_cases chance filter first transcript with
        ⟨entries, after, -, expanded⟩ | ⟨after, -, expanded⟩
      · simp only [step, List.cons_append, Machine.eachOf_of_some expanded] at finished ⊢
        exact ih { session with entries } _ finished
      · rw [Machine.eachOf_of_none expanded] at finished
        cases finished

end Session
end ChatMacro
