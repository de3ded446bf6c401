import ChatMacro.Proofs.Engine.Blocks
import ChatMacro.Proofs.Resolution.Visits

/-!
# What a parse touches

A parse visits the store once for each of its blocks, from left to right, and makes no other calls.
So it reads and changes the variables of its blocks alone, and blocks that are references or fail on
their values change nothing.
-/

namespace ChatMacro

namespace Expansion

/-- The blocks in some regions as they stand before their variables are looked up. -/
def blocksIn (blocks : Chain Block) (input : Option Json) (regions : List Region) : List Block :=
  regions.filterMap fun region =>
    (Block.parse? (String.ofList region.inner)).map fun block =>
      (blocks.dispatch input block).subject

/-- The blocks of a template as they stand before their variables are looked up.  There are none if
the draft of the template is broken off. -/
def preparedBlocks (options : Options) (pipeline : Pipeline) (chance : Script.Chance)
    (input : Option Json) (template : String) : List Block :=
  let draft := (pipeline.drafts.dispatch input template).subject
  if draft = brokenDraft then
    []
  else
    blocksIn pipeline.blocks input (Region.blocks (scriptedText options chance draft))

variable {State : Type} {answer : Answer State} {find? : State → String → Option Datum}

/-- The blocks in some regions visit the store one after the other. -/
theorem visits_of_resolveAll (isLocal : answer.Local find?) (stage : Stage) {options : Options}
    {blocks : Chain Block} {input : Option Json} {regions : List Region} {state : State}
    (served : ((resolveAll stage options blocks input regions).run answer state).1.isOk = true) :
    (∀ visit ∈ Visit.all answer options.root (blocksIn blocks input regions) state,
      visit.Succeeds answer find? options.root) ∧
    (resolveAll stage options blocks input regions).calls answer state =
      (Visit.all answer options.root (blocksIn blocks input regions) state).flatMap
        (Visit.calls find? options.root) ∧
    ((resolveAll stage options blocks input regions).run answer state).2 =
      Visit.after answer options.root (blocksIn blocks input regions) state := by
  induction regions generalizing state with
  | nil => exact ⟨by simp [blocksIn, Visit.all], rfl, rfl⟩
  | cons region regions ih =>
      cases parsed : Block.parse? (String.ofList region.inner) with
      | none =>
          rw [resolveAll_of_none parsed] at served ⊢
          simpa [blocksIn, parsed] using ih served
      | some block =>
          have blocks_eq : blocksIn blocks input (region :: regions) =
              (blocks.dispatch input block).subject :: blocksIn blocks input regions := by
            simp [blocksIn, parsed]
          rw [blocks_eq, calls_resolveAll_of_some parsed,
            run_resolveAll_of_some parsed]
          rw [run_resolveAll_of_some parsed] at served
          generalize (blocks.dispatch input block).subject = prepared at served ⊢
          rcases resolved : (prepared.resolve options.root).run answer state with
            ⟨_ | block, middle⟩
          · simp [resolved, Except.isOk, Except.toBool] at served
          · simp only [resolved] at served ⊢
            rcases later : (resolveAll stage options blocks input regions).run answer middle with
              ⟨_ | replacements, after⟩
            · simp [later, Except.map, Except.isOk, Except.toBool] at served
            · have servedLater : ((resolveAll stage options blocks input regions).run answer
                  middle).1.isOk = true := by
                rw [later]
                rfl
              obtain ⟨succeed, calls_eq, after_eq⟩ := ih servedLater
              have resolved_eq : Visit.resolve answer options.root ⟨prepared, state⟩ =
                  (.ok block, middle) := resolved
              have first : Visit.Succeeds answer find? options.root ⟨prepared, state⟩ :=
                Visit.succeeds_of_isOk isLocal (by rw [resolved_eq]; rfl)
              rw [later] at after_eq
              refine ⟨?_, ?_, ?_⟩
              · rw [Visit.all, resolved_eq]
                exact List.forall_mem_cons.mpr ⟨first, succeed⟩
              · rw [Visit.all, resolved_eq, List.flatMap_cons, calls_eq]
                exact congrArg (· ++ _) first.calls_eq
              · rw [Visit.after, List.foldl_cons, resolved_eq]
                exact after_eq

/-- A template whose draft is broken off makes no calls, and the calls of any other are those of its
blocks. -/
theorem visits_of_expand (isLocal : answer.Local find?) {options : Options} {pipeline : Pipeline}
    {chance : Script.Chance} {input : Option Json} {template : String} {state : State}
    (served : ((expand options pipeline chance input template).run answer state).1.isOk = true) :
    (∀ visit ∈ Visit.all answer options.root
        (preparedBlocks options pipeline chance input template) state,
      visit.Succeeds answer find? options.root) ∧
    (expand options pipeline chance input template).calls answer state =
      (Visit.all answer options.root
        (preparedBlocks options pipeline chance input template) state).flatMap
          (Visit.calls find? options.root) ∧
    ((expand options pipeline chance input template).run answer state).2 =
      Visit.after answer options.root
        (preparedBlocks options pipeline chance input template) state := by
  rw [run_expand] at served ⊢
  rw [calls_expand]
  by_cases broken : (pipeline.drafts.dispatch input template).subject = brokenDraft
  · simp [preparedBlocks, broken, Visit.all, Visit.after]
  · simp only [preparedBlocks, broken, if_false] at served ⊢
    generalize Region.blocks (scriptedText options chance _) = regions at served ⊢
    rcases resolved : (resolveAll .blockScanning options pipeline.blocks input regions).run answer
      state with ⟨_ | replacements, after⟩
    · simp [resolved, Except.isOk, Except.toBool] at served
    · have servedAll : ((resolveAll .blockScanning options pipeline.blocks input regions).run answer
          state).1.isOk = true := by
        rw [resolved]
        rfl
      have visits := visits_of_resolveAll isLocal .blockScanning servedAll
      rw [resolved] at visits
      exact visits

end Expansion

namespace Engine

variable {State : Type} {answer : Answer State} {find? : State → String → Option Datum}

/-- A parse expands the template that it is given, or else the one of the engine. -/
theorem parse_eq_expand (engine : Engine) (answer : Answer State) (chance : Script.Chance)
    {given : Option String} {template : String} (sought : given.or engine.template = some template)
    (input : Option Json) (state : State) :
    let ran := (engine.plan chance input template).run answer state
    (engine.parse answer chance given input state).1 = ran.1 ∧
      (engine.parse answer chance given input state).2.2 = ran.2 := by
  cases given with
  | some other =>
      obtain rfl : other = template := by simpa using sought
      exact ⟨rfl, rfl⟩
  | none =>
      have own : engine.template = some template := by simpa using sought
      simp only [parse, expandOwn, ownPlan, own, and_self]

/-- A parse touches the variables of its blocks and nothing else.  On a store that fails none of its
calls it succeeds.  It makes no calls if its draft is broken off, and otherwise the calls of its
blocks from left to right: a deletion removes its variable, and any other block looks it up and then
puts its value there, unless it is a reference or fails on its value.  A block that fails on its
value is replaced by its fallback, or else by the zero of its kind, and keeps the store as it is.
What is found under other paths stays, and if all blocks only read, so does the whole store. -/
theorem parse_touches_blocks (isLocal : answer.Local find?) (engine : Engine)
    (chance : Script.Chance) {given : Option String} {template : String}
    (sought : given.or engine.template = some template) (input : Option Json) (state : State)
    (served : answer.serves
      (engine.parse answer.logged chance given input ⟨state, []⟩).2.2.calls state = true) :
    let root := engine.options.root
    let blocks :=
      Expansion.preparedBlocks engine.options engine.pipeline chance input template
    let visits := Visit.all answer root blocks state
    let parsed := engine.parse answer.logged chance given input ⟨state, []⟩
    parsed.1.isOk = true ∧
      ((engine.pipeline.drafts.dispatch input template).subject = brokenDraft →
        parsed.2.2.calls = []) ∧
      parsed.2.2.calls = visits.flatMap (Visit.calls find? root) ∧
      (∀ visit ∈ visits, visit.failsOnValue find? root = true →
        visit.resolve answer root =
          (.ok { visit.block with
            output := some (visit.block.fallback.getD visit.block.kind.zero) }, visit.state)) ∧
      (∀ path, (∀ block ∈ blocks, variablePath root block.name ≠ path) →
        find? parsed.2.2.store path = find? state path) ∧
      ((∀ visit ∈ visits, visit.readsOnly find? root = true) → parsed.2.2.store = state) := by
  intro root blocks visits parsed
  obtain ⟨outcome_eq, after_eq⟩ :=
    engine.parse_eq_expand answer.logged chance sought input ⟨state, []⟩
  rw [Plan.run_logged] at outcome_eq after_eq
  have calls_eq : parsed.2.2.calls =
      [] ++ (engine.plan chance input template).calls answer state :=
    congrArg Logged.calls after_eq
  have store_eq : parsed.2.2.store = ((engine.plan chance input template).run answer state).2 :=
    congrArg Logged.store after_eq
  have keeps :
      (engine.plan chance input template).KeepsTo (.store .blockScanning) Note.IsOfExpansion :=
    Expansion.keepsTo_expand engine.options chance engine.pipeline input template
  rw [List.nil_append] at calls_eq
  rw [calls_eq, keeps.serves_calls] at served
  obtain ⟨succeed, visited, final⟩ := Expansion.visits_of_expand isLocal served
  replace calls_eq := calls_eq.trans visited
  replace store_eq := store_eq.trans final
  refine ⟨outcome_eq ▸ served, ?_, calls_eq, ?_, ?_, ?_⟩
  · intro broken
    rw [calls_eq]
    simp only [Expansion.preparedBlocks, broken, if_true, Visit.all, List.flatMap_nil]
  · intro visit member fails
    exact (succeed visit member).resolve_of_failsOnValue fails
  · intro path elsewhere
    rw [store_eq]
    exact Visit.find?_after succeed elsewhere
  · intro read
    rw [store_eq]
    exact Visit.after_of_readsOnly succeed read

/-- A new variable is written, a value of another kind is only looked up, like a reference, and a
deletion removes. -/
theorem parse_touches_blocks_mixed :
    (scriptless.parse (Store.answer true).logged (fun _ _ => 0)
      (some "{n=5} {n+x|7} {m} {n=null}") none ⟨.memory .empty, []⟩).1.isOk = true ∧
    (scriptless.parse (Store.answer true).logged (fun _ _ => 0)
      (some "{n=5} {n+x|7} {m} {n=null}") none ⟨.memory .empty, []⟩).2.2.calls =
        [.get "variables/n", .set "variables/n" (.number 5.0), .get "variables/n",
          .get "variables/m", .remove "variables/n"] := by
  have served : (Store.answer true).serves
      (scriptless.parse (Store.answer true).logged (fun _ _ => 0)
        (some "{n=5} {n+x|7} {m} {n=null}") none ⟨.memory .empty, []⟩).2.2.calls
      (.memory .empty) = true := by
    decide +kernel
  have touched :=
    scriptless.parse_touches_blocks (Store.local_answer true) (fun _ _ => 0) rfl none
      (.memory .empty) served
  exact ⟨touched.1, touched.2.2.1.trans (by decide +kernel)⟩

end Engine
end ChatMacro
