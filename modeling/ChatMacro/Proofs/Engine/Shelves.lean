import ChatMacro.Engine.Shelf
import ChatMacro.Proofs.Engine.Occasions
import Mathlib.Data.Finset.Card

/-!
# What a shelf keeps

Every engine of a shelf is what the shelf would build for its template, apart from the first output
that it keeps.  Parsing does not look at that, so a template is parsed by its engine on the shelf as
by an engine that is not on it, whatever the shelf has been asked for before.
-/

namespace ChatMacro

/-- What a shelf can be asked for. -/
inductive ShelfRequest where
  /-- For the engine of a template, which may then be asked for something itself. -/
  | get (template : String) (request : Option Request)
  /-- To parse a template with its engine. -/
  | parse (template : String) (input : Option Json)
  /-- For an engine off the shelf, which is then asked for something itself. -/
  | uncached (request : Request)

namespace ShelfRequest

/-- The template whose engine has to be on the shelf. -/
def template? : ShelfRequest → Option String
  | get template _ => some template
  | parse template _ => some template
  | uncached _ => none

end ShelfRequest

namespace Shelf

variable {State : Type}

/-- Ask the engine of a template for something. -/
def ask (shelf : Shelf) (answer : Answer State) (chance : Script.Chance) (template : String)
    (request : Request) (store : State) : Except EngineError String × Shelf × State :=
  let (output, engine, store) := (shelf.engine template).perform answer chance request store
  (output, shelf.put template engine, store)

/-- Parsing a template is asking its engine to parse without one. -/
theorem ask_parse (shelf : Shelf) (answer : Answer State) (chance : Script.Chance)
    (template : String) (input : Option Json) (store : State) :
    shelf.ask answer chance template (.parse none input) store =
      shelf.parse answer chance template input store := rfl

/-- The shelf and the store after a request. -/
def after (shelf : Shelf) (answer : Answer State) (chance : Script.Chance) (store : State) :
    ShelfRequest → Shelf × State
  | .get template none => (shelf.put template (shelf.engine template), store)
  | .get template (some request) => (shelf.ask answer chance template request store).2
  | .parse template input => (shelf.parse answer chance template input store).2
  | .uncached request => (shelf, (shelf.uncached.perform answer chance request store).2.2)

/-- The shelf and the store after requests that come one after the other. -/
def afterAll (shelf : Shelf) : List (Occasion ShelfRequest State) → State → Shelf × State
  | [], store => (shelf, store)
  | occasion :: later, store =>
      let (shelf, store) :=
        shelf.after occasion.answer occasion.chance (occasion.disturb store) occasion.request
      shelf.afterAll later store

/-- The templates for which a shelf has engines. -/
def templates (shelf : Shelf) : List String :=
  shelf.engines.map Prod.fst

/-! ## Engines on their places -/

theorem mem_place {template : String} {engine : Engine} {engines : List (String × Engine)}
    {entry : String × Engine} (member : entry ∈ place template engine engines) :
    entry = (template, engine) ∨ entry ∈ engines := by
  induction engines with
  | nil => simpa [place] using member
  | cons head tail ih =>
      obtain ⟨other, former⟩ := head
      simp only [place] at member
      split at member
      · rcases List.mem_cons.mp member with here | there
        · exact .inl here
        · exact .inr (List.mem_cons_of_mem _ there)
      · rcases List.mem_cons.mp member with here | there
        · exact .inr (here ▸ List.mem_cons_self)
        · exact (ih there).imp_right (List.mem_cons_of_mem _)

/-- A template gets a place of its own only if it has none. -/
theorem map_fst_place (template : String) (engine : Engine) (engines : List (String × Engine)) :
    (place template engine engines).map Prod.fst =
      if template ∈ engines.map Prod.fst then engines.map Prod.fst
      else engines.map Prod.fst ++ [template] := by
  induction engines with
  | nil => rfl
  | cons head tail ih =>
      obtain ⟨other, former⟩ := head
      by_cases same : template = other
      · simp [place, same]
      · simp only [place, same, if_false, List.map_cons, ih, List.mem_cons, false_or]
        split <;> rfl

/-! ## Uniform shelves -/

/-- The engine that a shelf builds for a template, with what it keeps. -/
def built (shelf : Shelf) (template : String) (first : Option String) : Engine :=
  { shelf.build (some template) with first }

/-- The engines of a shelf are those that it builds, apart from what they keep, and there is one for
each template. -/
structure Uniform (shelf : Shelf) : Prop where
  /-- An engine is built for the template under which it stands. -/
  engines_built : ∀ entry ∈ shelf.engines, ∃ first, entry.2 = shelf.built entry.1 first
  /-- No template has two engines. -/
  distinct : shelf.templates.Nodup

section

variable {shelf : Shelf}

theorem uniform_empty (options : Options) (pipeline : Pipeline) :
    ({ options, pipeline } : Shelf).Uniform :=
  ⟨nofun, List.nodup_nil⟩

/-- The engine for a template is the one that is built for it, whether it is on the shelf or not. -/
theorem Uniform.engine_eq (uniform : shelf.Uniform) (template : String) :
    ∃ first, shelf.engine template = shelf.built template first := by
  cases found : shelf.engines.lookup template with
  | none => exact ⟨none, by simp [engine, found, build, built]⟩
  | some engine =>
      obtain ⟨front, back, split, -⟩ := List.lookup_eq_some_iff.mp found
      have member : (template, engine) ∈ shelf.engines := by simp [split]
      obtain ⟨first, built_eq⟩ := uniform.engines_built _ member
      exact ⟨first, by simpa [Shelf.engine, found] using built_eq⟩

theorem templates_put (template : String) (engine : Engine) :
    (shelf.put template engine).templates =
      if template ∈ shelf.templates then shelf.templates else shelf.templates ++ [template] :=
  map_fst_place template engine shelf.engines

theorem mem_templates_put {template sought : String} {engine : Engine} :
    sought ∈ (shelf.put template engine).templates ↔
      sought ∈ shelf.templates ∨ sought = template := by
  rw [templates_put]
  split
  · next inside =>
    refine ⟨.inl, ?_⟩
    rintro (member | rfl)
    · exact member
    · exact inside
  · simp

theorem Uniform.put (uniform : shelf.Uniform) (template : String) (first : Option String) :
    (shelf.put template (shelf.built template first)).Uniform where
  engines_built entry member := by
    rcases mem_place member with rfl | there
    · exact ⟨first, rfl⟩
    · exact uniform.engines_built entry there
  distinct := by
    rw [templates_put]
    split
    · exact uniform.distinct
    · next outside =>
      refine List.nodup_append.mpr ⟨uniform.distinct, List.nodup_singleton template, ?_⟩
      rintro other member _ same rfl
      exact outside (List.mem_singleton.mp same ▸ member)

/-- Asking the engine of a template changes at most what this engine keeps. -/
theorem Uniform.exists_ask_eq (uniform : shelf.Uniform) (answer : Answer State)
    (chance : Script.Chance) (template : String) (request : Request) (store : State) :
    ∃ first, (shelf.ask answer chance template request store).2.1 =
      shelf.put template (shelf.built template first) := by
  obtain ⟨former, engine_eq⟩ := uniform.engine_eq template
  obtain ⟨first, performed⟩ :=
    (shelf.built template former).exists_perform_eq answer chance store request
  refine ⟨first, ?_⟩
  simp only [ask, engine_eq, performed]
  rfl

/-- A request concerns the engine of one template and changes at most what it keeps, or it concerns
no engine of the shelf. -/
theorem Uniform.after_cases (uniform : shelf.Uniform) (answer : Answer State)
    (chance : Script.Chance) (store : State) (request : ShelfRequest) :
    (request.template? = none ∧ (shelf.after answer chance store request).1 = shelf) ∨
      ∃ template first, request.template? = some template ∧
        (shelf.after answer chance store request).1 =
          shelf.put template (shelf.built template first) := by
  cases request with
  | get template request =>
      cases request with
      | none =>
          obtain ⟨first, engine_eq⟩ := uniform.engine_eq template
          exact .inr ⟨template, first, rfl, by simp only [after, engine_eq]⟩
      | some request =>
          obtain ⟨first, asked⟩ := uniform.exists_ask_eq answer chance template request store
          exact .inr ⟨template, first, rfl, asked⟩
  | parse template input =>
      obtain ⟨first, asked⟩ :=
        uniform.exists_ask_eq answer chance template (.parse none input) store
      rw [ask_parse] at asked
      exact .inr ⟨template, first, rfl, asked⟩
  | uncached request => exact .inl ⟨rfl, rfl⟩

end

/-- A shelf with the given options and handlers has the engines that it has been asked for. -/
structure Stocks (shelf : Shelf) (options : Options) (pipeline : Pipeline)
    (asked : List String) : Prop where
  uniform : shelf.Uniform
  options_eq : shelf.options = options
  pipeline_eq : shelf.pipeline = pipeline
  /-- There is an engine for each template that was asked for, and for no other. -/
  mem_templates_iff : ∀ template, template ∈ shelf.templates ↔ template ∈ asked

section

variable {shelf : Shelf} {options : Options} {pipeline : Pipeline} {asked : List String}

theorem stocks_empty (options : Options) (pipeline : Pipeline) :
    ({ options, pipeline } : Shelf).Stocks options pipeline [] :=
  ⟨uniform_empty options pipeline, rfl, rfl, fun _ => Iff.rfl⟩

theorem Stocks.after (stocks : shelf.Stocks options pipeline asked) (answer : Answer State)
    (chance : Script.Chance) (store : State) (request : ShelfRequest) :
    (shelf.after answer chance store request).1.Stocks options pipeline
      (asked ++ request.template?.toList) := by
  rcases stocks.uniform.after_cases answer chance store request with
    ⟨none_eq, same⟩ | ⟨template, first, some_eq, put_eq⟩
  · simpa [none_eq, same] using stocks
  · rw [some_eq, put_eq]
    refine ⟨stocks.uniform.put template first, stocks.options_eq, stocks.pipeline_eq,
      fun sought => ?_⟩
    simp [mem_templates_put, stocks.mem_templates_iff]

theorem Stocks.afterAll (stocks : shelf.Stocks options pipeline asked)
    (occasions : List (Occasion ShelfRequest State)) (store : State) :
    (shelf.afterAll occasions store).1.Stocks options pipeline
      (asked ++ occasions.filterMap fun occasion => occasion.request.template?) := by
  induction occasions generalizing shelf asked store with
  | nil => simpa [Shelf.afterAll] using stocks
  | cons occasion later ih =>
      have next := stocks.after occasion.answer occasion.chance (occasion.disturb store)
        occasion.request
      have followed := ih next (shelf.after occasion.answer occasion.chance
        (occasion.disturb store) occasion.request).2
      rw [List.append_assoc] at followed
      cases template : occasion.request.template? <;>
        simpa [Shelf.afterAll, template] using followed

/-- The engines of a shelf are as many as the templates that were asked for, each counted once. -/
theorem Stocks.size_eq (stocks : shelf.Stocks options pipeline asked) :
    shelf.size = asked.toFinset.card := by
  have same : shelf.templates.toFinset = asked.toFinset := by
    ext template
    simpa using stocks.mem_templates_iff template
  rw [← same, List.toFinset_card_of_nodup stocks.uniform.distinct, templates, List.length_map, size]

/-- The engine of a template parses it as an engine off the shelf does. -/
theorem Uniform.parse_eq_uncached (uniform : shelf.Uniform) (answer : Answer State)
    (chance : Script.Chance) (template : String) (input : Option Json) (store : State) :
    let kept := shelf.parse answer chance template input store
    let fresh := shelf.uncached.parse answer chance (some template) input store
    kept.1 = fresh.1 ∧ kept.2.2 = fresh.2.2 := by
  obtain ⟨first, engine_eq⟩ := uniform.engine_eq template
  have own : (shelf.built template first).template = some template := rfl
  simp only [parse, engine_eq, Engine.parse_none_eq _ _ _ own]
  exact ⟨rfl, rfl⟩

end

/-- A shelf cannot be told from no shelf.  Whatever it has been asked for, on stores that may fail
and that others change, it parses a template as a new engine does that is given this template: with
the same output, the same calls and the same store afterwards.  It has as many engines as there are
templates for whose engines it has been asked. -/
theorem parse_like_uncached (options : Options) (pipeline : Pipeline)
    (occasions : List (Occasion ShelfRequest State)) (store : State) :
    let shelf := (afterAll { options, pipeline } occasions store).1
    (∀ (answer : Answer State) (chance : Script.Chance) (template : String)
        (input : Option Json) (found : State),
      let kept := shelf.parse answer.logged chance template input ⟨found, []⟩
      let fresh := shelf.uncached.parse answer.logged chance (some template) input ⟨found, []⟩
      kept.1 = fresh.1 ∧ kept.2.2.calls = fresh.2.2.calls ∧
        kept.2.2.store = fresh.2.2.store) ∧
    shelf.size =
      (occasions.filterMap fun occasion => occasion.request.template?).toFinset.card := by
  intro shelf
  have stocks : shelf.Stocks options pipeline _ :=
    (stocks_empty options pipeline).afterAll occasions store
  refine ⟨fun answer chance template input found => ?_, stocks.size_eq⟩
  obtain ⟨output_eq, left_eq⟩ :=
    stocks.uniform.parse_eq_uncached answer.logged chance template input ⟨found, []⟩
  exact ⟨output_eq, congrArg Logged.calls left_eq, congrArg Logged.store left_eq⟩

end Shelf
end ChatMacro
