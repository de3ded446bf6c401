import ChatMacro.Proofs.Engine.Requests
import ChatMacro.Store.File

/-!
# Histories of requests

An engine with a template of its own is asked for one thing after the other, and others change the
store in between.  The first expansion of its own template that succeeds settles what is ready from
then on, which takes no call; every parse expands its template anew.
-/

namespace ChatMacro

/-- A request and the circumstances under which it comes. -/
structure Occasion (Asked State : Type) where
  /-- What is asked for. -/
  request : Asked
  /-- What others have made of the store since the request before. -/
  disturb : State → State
  /-- How the store answers while the request is met. -/
  answer : Answer State
  /-- The outcomes of chance for the request. -/
  chance : Script.Chance

/-- What has become of a request. -/
structure Service (State : Type) where
  /-- The request and its circumstances. -/
  occasion : Occasion Request State
  /-- The store as the request has found it. -/
  found : State
  /-- What the request has come to. -/
  output : Except EngineError String
  /-- The calls that were made. -/
  calls : List Call
  /-- The store as the request has left it. -/
  left : State
  /-- The first output that the engine keeps afterwards. -/
  first : Option String

namespace Service

variable {State : Type}

/-- The output of a request that can be the first one: its own template was asked for, and nothing
failed. -/
def candidate? (service : Service State) : Option String :=
  match service.occasion.request with
  | .parse (some _) _ => none
  | .parse none _ => service.output.toOption
  | .ready => service.output.toOption

/-- The earliest output that can be the first one. -/
def firstOutput? (services : List (Service State)) : Option String :=
  services.findSome? candidate?

theorem firstOutput?_cons (service : Service State) (services : List (Service State)) :
    firstOutput? (service :: services) = service.candidate?.or (firstOutput? services) := by
  cases candidate : service.candidate? <;> simp [firstOutput?, candidate]

/-- A request is met by one expansion of a template on the store that it has found. -/
def Expands (service : Service State) (engine : Engine) (template : String)
    (input : Option Json) : Prop :=
  engine.expand service.occasion.answer.logged service.occasion.chance input template
      ⟨service.found, []⟩ =
    (service.output, ⟨service.left, service.calls⟩)

/-- How an engine meets a request that comes after the first output has become known or not. -/
structure Accords (service : Service State) (engine : Engine) (template : String)
    (known : Option String) : Prop where
  /-- The engine keeps the first output as soon as there is one, and nothing else. -/
  first_eq : service.first = known.or service.candidate?
  /-- A known output is ready and takes no call. -/
  ready_known : service.occasion.request = .ready → ∀ output, known = some output →
    service.output = .ok output ∧ service.calls = [] ∧ service.left = service.found
  /-- Before it is known, the template is expanded without a message, and a failure leaves nothing
  to keep. -/
  ready_unknown : service.occasion.request = .ready → known = none →
    service.Expands engine template none ∧
      ∀ error, service.output = .error error → service.first = none
  /-- A parse without a template expands the one of the engine, whether an output is known or
  not. -/
  parse_own : ∀ input, service.occasion.request = .parse none input →
    service.Expands engine template input
  /-- A parse with a template expands that one, and it has no output to keep. -/
  parse_given : ∀ given input, service.occasion.request = .parse (some given) input →
    service.Expands engine given input ∧ service.first = known

end Service

namespace Engine

variable {State : Type}

/-- Meet a request. -/
def meet (engine : Engine) (occasion : Occasion Request State) (store : State) :
    Service State × Engine :=
  let found := occasion.disturb store
  let (output, engine, left) :=
    engine.perform occasion.answer.logged occasion.chance occasion.request ⟨found, []⟩
  ({ occasion, found, output, calls := left.calls, left := left.store, first := engine.first },
    engine)

/-- Meet requests one after the other. -/
def serve (engine : Engine) : List (Occasion Request State) → State → List (Service State)
  | [], _ => []
  | occasion :: later, store =>
      let (service, engine) := engine.meet occasion store
      service :: engine.serve later service.left

theorem length_serve (engine : Engine) (occasions : List (Occasion Request State))
    (store : State) : (engine.serve occasions store).length = occasions.length := by
  induction occasions generalizing engine store with
  | nil => rfl
  | cons occasion later ih => simp only [serve, List.length_cons, ih]

/-- What an engine keeps after the expansion of its own template. -/
theorem keep_eq (engine : Engine) (output : Except EngineError String) :
    engine.keep output = { engine with first := engine.first.or output.toOption } := by
  cases output with
  | error error => cases engine; simp [keep, Except.toOption]
  | ok output => cases first : engine.first <;> simp [keep, first, Except.toOption]

section

variable {engine : Engine} (answer : Answer State) (chance : Script.Chance) (store : State)

/-- A parse without a template expands the one of the engine and may settle its first output. -/
theorem parse_none_eq {template : String} (own : engine.template = some template)
    (input : Option Json) :
    engine.parse answer chance none input store =
      let (output, left) := engine.expand answer chance input template store
      (output, { engine with first := engine.first.or output.toOption }, left) := by
  have planned : engine.ownPlan chance input = engine.plan chance input template := by
    simp only [ownPlan, own]
  simp only [parse, expandOwn, expand, planned, keep_eq]

theorem ready_of_first {output : String} (first : engine.first = some output) :
    engine.ready answer chance store = (.ok output, engine, store) := by
  simp only [ready, first]

/-- Without a first output, getting it is a parse without a message. -/
theorem ready_of_no_first (noFirst : engine.first = none) :
    engine.ready answer chance store = engine.parse answer chance none none store := by
  simp only [ready, noFirst, parse]

/-- Whatever an engine is asked for, it changes in nothing but its first output. -/
theorem exists_perform_eq (engine : Engine) (request : Request) :
    ∃ first, (engine.perform answer chance request store).2.1 = { engine with first } := by
  have kept (output : Except EngineError String) :
      ∃ first, engine.keep output = { engine with first } :=
    ⟨_, engine.keep_eq output⟩
  cases request with
  | parse given input =>
      cases given with
      | some given => exact ⟨engine.first, rfl⟩
      | none => exact kept _
  | ready =>
      cases first : engine.first with
      | some output => exact ⟨engine.first, by simp only [perform, ready_of_first _ _ _ first]⟩
      | none =>
          simp only [perform, ready_of_no_first _ _ _ first]
          exact kept _

end

/-- An engine that is new apart from what it keeps meets a request in accord with that, and changes
in nothing else. -/
theorem accords_meet {new : Engine} {template : String} (own : new.template = some template)
    (known : Option String) (occasion : Occasion Request State) (store : State) :
    let met := { new with first := known }.meet occasion store
    met.1.Accords new template known ∧ met.2 = { new with first := met.1.first } := by
  have ownKept : ({ new with first := known } : Engine).template = some template := own
  obtain ⟨request, disturb, answer, chance⟩ := occasion
  cases request with
  | parse given input =>
      cases given with
      | some given =>
          refine ⟨⟨(Option.or_none).symm, nofun, nofun, nofun, ?_⟩, rfl⟩
          rintro _ _ ⟨⟩
          exact ⟨rfl, rfl⟩
      | none =>
          simp only [meet, perform, parse_none_eq _ _ _ ownKept]
          refine ⟨⟨rfl, nofun, nofun, ?_, nofun⟩, trivial⟩
          rintro _ ⟨⟩
          rfl
  | ready =>
      cases known with
      | some output =>
          refine ⟨⟨rfl, ?_, nofun, nofun, nofun⟩, rfl⟩
          rintro - _ ⟨⟩
          exact ⟨rfl, rfl, rfl⟩
      | none =>
          have noFirst : ({ new with first := none } : Engine).first = none := rfl
          simp only [meet, perform, ready_of_no_first _ _ _ noFirst,
            parse_none_eq _ _ _ ownKept]
          refine ⟨⟨rfl, nofun, ?_, nofun, nofun⟩, trivial⟩
          rintro - -
          exact ⟨rfl, fun error failed => congrArg (fun output => none.or output.toOption) failed⟩

/-- The requests of a history are met in accord with what is kept at its start and with the outputs
before. -/
theorem accords_serve {new : Engine} {template : String} (own : new.template = some template)
    (known : Option String) (occasions : List (Occasion Request State)) (store : State)
    (index : Nat) {service : Service State}
    (served : ({ new with first := known }.serve occasions store)[index]? = some service) :
    service.Accords new template
      (known.or (Service.firstOutput?
        (({ new with first := known }.serve occasions store).take index))) := by
  induction occasions generalizing known store index with
  | nil => simp [serve] at served
  | cons occasion later ih =>
      obtain ⟨accords, changed⟩ := accords_meet own known occasion store
      simp only [serve, changed] at served ⊢
      cases index with
      | zero =>
          obtain rfl : _ = service := by simpa using served
          simpa [Service.firstOutput?] using accords
      | succ index =>
          have followed := ih _ _ index served
          rw [List.take_succ_cons, Service.firstOutput?_cons, ← Option.or_assoc,
            ← accords.first_eq]
          exact followed

/-- The first output of an engine.  An engine is new and has a template, and is asked to parse and
for what is ready in any order, while others change the store.  Once it has parsed its own template
or got it ready with success, what is ready is the earliest output of these and takes no call.
Before that, asking for it expands the template once without a message, and a failure leaves nothing
to keep.  Parsing the own template always expands it again, and parsing another one keeps
nothing. -/
theorem ready_keeps_first_output (template : String) (options : Options) (pipeline : Pipeline)
    (occasions : List (Occasion Request State)) (store : State) (index : Nat)
    (inside : index <
      (serve { template := some template, options, pipeline } occasions store).length) :
    let services := serve { template := some template, options, pipeline } occasions store
    services[index].Accords { template := some template, options, pipeline } template
      (Service.firstOutput? (services.take index)) := by
  intro services
  have own : ({ template := some template, options, pipeline } : Engine).template =
      some template := rfl
  have accords := accords_serve own none occasions store index (List.getElem?_eq_getElem inside)
  rwa [Option.none_or] at accords

/-- A counter is asked for what is ready while the store fails, parses its template, and is asked
again after someone has changed the count. -/
theorem ready_keeps_first_output_counter :
    let asked : List (Occasion Request Store) := [
      ⟨.ready, id, (Store.answer true).failing fun _ => some .io, fun _ _ => 0⟩,
      ⟨.parse none none, id, Store.answer true, fun _ _ => 0⟩,
      ⟨.ready, fun _ => .memory .empty, Store.answer true, fun _ _ => 0⟩]
    let services := serve { template := some "count {n++}" } asked (.memory .empty)
    ∃ inside : 2 < services.length,
      services[2].output = .ok "count 1" ∧ services[2].calls = [] := by
  intro asked services
  have inside : 2 < services.length := by
    rw [length_serve]
    decide
  have accords := ready_keeps_first_output "count {n++}" {} {} asked (.memory .empty) 2 inside
  obtain ⟨output_eq, calls_eq, -⟩ := accords.ready_known rfl "count 1" (by decide +kernel)
  exact ⟨inside, output_eq, calls_eq⟩

end Engine
end ChatMacro
