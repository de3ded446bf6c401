import ChatMacro.Proofs.Engine.Frame
import ChatMacro.Settings.Basic

/-!
# Rejected messages

The settings of an engine reject a message by its words before anything in the draft is replaced.
So the words alone decide, in any order: either a template is not expanded at all, or it is expanded
as if there were no words to reject.
-/

namespace ChatMacro

namespace Chain

variable {words : List String} {input : Option Json} (later : Chain String) (draft : String)

/-- A word that applies breaks the draft off, and no handler follows. -/
theorem dispatch_rejections_of_any (any : words.any (Rejection.applies · input) = true) :
    let dispatched := Chain.dispatch input (words.map Rejection.handler ++ later) draft
    dispatched.subject = brokenDraft ∧ dispatched.stopped = true := by
  induction words with
  | nil => cases any
  | cons word words ih =>
      cases applies : Rejection.applies word input with
      | true => simp [dispatch, Rejection.handler, applies]
      | false =>
          simpa [dispatch, Rejection.handler, applies] using ih (by simpa [applies] using any)

/-- Words none of which applies leave the draft to the handlers behind them. -/
theorem dispatch_rejections_of_none (none : words.any (Rejection.applies · input) = false) :
    let dispatched := Chain.dispatch input (words.map Rejection.handler ++ later) draft
    dispatched.subject = (later.dispatch input draft).subject ∧
      dispatched.stopped = (later.dispatch input draft).stopped := by
  induction words with
  | nil => exact ⟨rfl, rfl⟩
  | cons word words ih =>
      rw [List.any_cons, Bool.or_eq_false_iff] at none
      simpa [dispatch, Rejection.handler, none.1] using ih none.2

end Chain

namespace Settings

variable (settings : Settings) (input : Option Json)

/-- Whether one of the words applies to a message. -/
def rejects : Bool :=
  settings.rejections.any (Rejection.applies · input)

/-- The settings without words to reject. -/
def tolerant : Settings :=
  { settings with rejections := [] }

/-- The words come before everything else in the chain. -/
theorem drafts_eq :
    settings.pipeline.drafts =
      settings.rejections.map Rejection.handler ++ settings.tolerant.pipeline.drafts := rfl

theorem stopped_tolerant (draft : String) :
    (settings.tolerant.pipeline.drafts.dispatch input draft).stopped = false := by
  cases empty : settings.replacements.isEmpty <;> simp [pipeline, tolerant, empty, Chain.dispatch,
    Substitution.handler]

/-- The chain is stopped exactly for messages that are rejected. -/
theorem stopped_dispatch (draft : String) :
    (settings.pipeline.drafts.dispatch input draft).stopped = settings.rejects input := by
  rw [drafts_eq]
  cases rejected : settings.rejects input with
  | true => exact (Chain.dispatch_rejections_of_any _ draft rejected).2
  | false =>
      rw [(Chain.dispatch_rejections_of_none _ draft rejected).2]
      exact settings.stopped_tolerant input draft

/-- For a message that is rejected the draft is broken off. -/
theorem subject_of_rejects {input : Option Json} (rejected : settings.rejects input = true)
    (draft : String) :
    (settings.pipeline.drafts.dispatch input draft).subject = brokenDraft := by
  rw [drafts_eq]
  exact (Chain.dispatch_rejections_of_any _ draft rejected).1

/-- For any other message the draft is treated as without words. -/
theorem subject_of_not_rejects {input : Option Json} (passed : settings.rejects input = false)
    (draft : String) :
    (settings.pipeline.drafts.dispatch input draft).subject =
      (settings.tolerant.pipeline.drafts.dispatch input draft).subject := by
  rw [drafts_eq]
  exact (Chain.dispatch_rejections_of_none _ draft passed).1

/-! ## Engines with the handlers of settings -/

section

variable {State : Type} (engine : Engine) (answer : Answer State) (chance : Script.Chance)
  (given : Option String) (store : State)

/-- What an engine with the handlers of the settings puts out for a message, with the calls that it
makes and the store as it leaves it. -/
def outcome : Except EngineError String × Logged State :=
  let parsed :=
    { engine with pipeline := settings.pipeline }.parse answer.logged chance given input
      ⟨store, []⟩
  (parsed.1, parsed.2.2)

variable {given} {template : String} (sought : given.or engine.template = some template)

include sought

theorem outcome_eq :
    settings.outcome input engine answer chance given store =
      (Expansion.expand engine.options settings.pipeline chance input template).run
        answer.logged ⟨store, []⟩ :=
  let parsed := { engine with pipeline := settings.pipeline }.parse_eq_expand answer.logged chance
    sought input ⟨store, []⟩
  Prod.ext parsed.1 parsed.2

theorem outcome_of_rejects (rejected : settings.rejects input = true) :
    settings.outcome input engine answer chance given store = (.ok "", ⟨store, []⟩) := by
  have broken := settings.subject_of_rejects rejected template
  rw [outcome_eq settings input engine answer chance store sought, Expansion.run_expand, broken,
    if_pos rfl]

theorem outcome_of_not_rejects (passed : settings.rejects input = false) :
    settings.outcome input engine answer chance given store =
      settings.tolerant.outcome input engine answer chance given store := by
  have same := settings.subject_of_not_rejects passed template
  rw [outcome_eq settings input engine answer chance store sought, Expansion.run_expand, same,
    outcome_eq settings.tolerant input engine answer chance store sought, Expansion.run_expand]
  rfl

/-- Settings that reject the same messages, and are the same without the words to do so, have the
same outcome. -/
theorem outcome_congr {other : Settings} (rejects_eq : other.rejects input = settings.rejects input)
    (tolerant_eq : other.tolerant = settings.tolerant) :
    other.outcome input engine answer chance given store =
      settings.outcome input engine answer chance given store := by
  cases rejected : settings.rejects input with
  | true =>
      rw [outcome_of_rejects settings input engine answer chance store sought rejected,
        outcome_of_rejects other input engine answer chance store sought
          (rejects_eq.trans rejected)]
  | false =>
      rw [outcome_of_not_rejects settings input engine answer chance store sought rejected,
        outcome_of_not_rejects other input engine answer chance store sought
          (rejects_eq.trans rejected), tolerant_eq]

/-- Rejection is decided by the message.  An engine with the handlers of settings, one of whose
words applies to the message, puts out nothing and makes no call, whatever the template is; if none
applies, it does what it does without the words.  The chain is stopped for the same messages
whatever else is set for it, and the order of the words does not matter. -/
theorem rejection_decides :
    ((∃ word ∈ settings.rejections, Rejection.applies word input = true) →
      settings.outcome input engine answer chance given store = (.ok "", ⟨store, []⟩)) ∧
    ((∀ word ∈ settings.rejections, Rejection.applies word input = false) →
      settings.outcome input engine answer chance given store =
        settings.tolerant.outcome input engine answer chance given store) ∧
    (∀ replacements scope draft,
      ({ settings with replacements, scope }.pipeline.drafts.dispatch input draft).stopped = true ↔
        ∃ word ∈ settings.rejections, Rejection.applies word input = true) ∧
    ∀ words, words.Perm settings.rejections →
      { settings with rejections := words }.outcome input engine answer chance given store =
        settings.outcome input engine answer chance given store := by
  refine ⟨fun applies => ?_, fun noneApplies => ?_, fun replacements scope draft => ?_,
    fun words perm => ?_⟩
  · have rejected : settings.rejects input = true := List.any_eq_true.mpr applies
    exact outcome_of_rejects settings input engine answer chance store sought rejected
  · have passed : settings.rejects input = false := by
      simpa [rejects] using noneApplies
    exact outcome_of_not_rejects settings input engine answer chance store sought passed
  · rw [stopped_dispatch]
    exact List.any_eq_true
  · have rejects_eq : { settings with rejections := words }.rejects input =
        settings.rejects input :=
      perm.any_eq
    exact outcome_congr settings input engine answer chance store sought rejects_eq rfl

end

/-- A rejected message, with a replacement for the draft that breaks off. -/
theorem rejection_decides_spam :
    let settings : Settings :=
      { rejections := ["ads", "spam"], replacements := [("break", "\x7bn=1\x7d")] }
    let message : Option Json := some (.object [("text", .string "More Spam!")])
    let outcome :=
      settings.outcome message { template := none } (Store.answer true) (fun _ _ => 0)
        (some "BREAK \x7bn=2\x7d") (.memory .empty)
    (∃ word ∈ settings.rejections, Rejection.applies word message = true) ∧
      outcome.1 = .ok "" ∧ outcome.2.calls = [] := by
  intro settings message outcome
  have applies : ∃ word ∈ settings.rejections, Rejection.applies word message = true :=
    ⟨"spam", by decide, by decide +kernel⟩
  have sought : (some "BREAK \x7bn=2\x7d").or none = some "BREAK \x7bn=2\x7d" := rfl
  have decided := rejection_decides settings message { template := none } (Store.answer true)
    (fun _ _ => 0) (.memory .empty) sought
  have outcome_eq := decided.1 applies
  exact ⟨applies, congrArg Prod.fst outcome_eq, congrArg (fun ran => ran.2.calls) outcome_eq⟩

end Settings

end ChatMacro
