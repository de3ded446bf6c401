import ChatMacro.Proofs.Engine.Frame
import ChatMacro.Proofs.Block.Parts

/-!
# Names in namespaces

In the namespace of a message every name has the scope and a dot in front of it.  Names may have
dots themselves, so two scopes are apart exactly if neither goes on where the other ends with
something that can be the start of a name.
-/

namespace ChatMacro

/-! ## Paths of calls -/

namespace Block

/-- A block calls for its own variable only. -/
theorem path_of_mem_calls {State : Type} {answer : Answer State} {root : String} {block : Block}
    {state : State} {call : Call} (member : call ∈ (block.resolve root).calls answer state) :
    call.path = variablePath root block.name := by
  rw [Visit.calls_resolve, apply] at member
  split at member
  · rw [Plan.calls, List.mem_cons] at member
    rcases member with rfl | later
    · rfl
    · split at later <;> cases later
  · rw [Plan.calls, List.mem_cons] at member
    rcases member with rfl | later
    · rfl
    · split at later
      · split at later
        · cases later
        · split at later
          · cases later
          · rw [Plan.calls, List.mem_cons] at later
            rcases later with rfl | last
            · rfl
            · split at last <;> cases last
      · cases later

end Block

namespace Expansion

variable {State : Type} {answer : Answer State}

theorem exists_block_of_mem_calls_resolveAll {stage : Stage} {options : Options}
    {blocks : Chain Block} {input : Option Json} {regions : List Region} {state : State}
    {call : Call}
    (member : call ∈ (resolveAll stage options blocks input regions).calls answer state) :
    ∃ block ∈ blocksIn blocks input regions, call.path = variablePath options.root block.name := by
  induction regions generalizing state with
  | nil => cases member
  | cons region regions ih =>
      cases parsed : Block.parse? (String.ofList region.inner) with
      | none =>
          rw [resolveAll_of_none parsed] at member
          simpa [blocksIn, parsed] using ih member
      | some block =>
          have blocks_eq : blocksIn blocks input (region :: regions) =
              (blocks.dispatch input block).subject :: blocksIn blocks input regions := by
            simp [blocksIn, parsed]
          rw [calls_resolveAll_of_some parsed] at member
          rw [blocks_eq]
          rcases List.mem_append.mp member with first | later
          · exact ⟨_, List.mem_cons_self, Block.path_of_mem_calls first⟩
          · split at later
            · obtain ⟨other, otherMember, path_eq⟩ := ih later
              exact ⟨other, List.mem_cons_of_mem _ otherMember, path_eq⟩
            · cases later

/-- Every call of an expansion is for the variable of one of its blocks. -/
theorem exists_block_of_mem_calls {options : Options} {pipeline : Pipeline}
    {chance : Script.Chance} {input : Option Json} {template : String} {state : State} {call : Call}
    (member : call ∈ (expand options pipeline chance input template).calls answer state) :
    ∃ inner block, Block.parse? inner = some block ∧
      call.path =
        variablePath options.root (pipeline.blocks.dispatch input block).subject.name := by
  rw [calls_expand] at member
  dsimp only at member
  split at member
  · cases member
  · obtain ⟨prepared, preparedMember, path_eq⟩ := exists_block_of_mem_calls_resolveAll member
    obtain ⟨region, -, made⟩ := List.mem_filterMap.mp preparedMember
    obtain ⟨block, parsed, rfl⟩ := Option.map_eq_some_iff.mp made
    exact ⟨_, block, parsed, path_eq⟩

end Expansion

namespace Engine

/-- Every call of a parse is for the variable of a block as the handlers leave it. -/
theorem exists_block_of_mem_calls {State : Type} {engine : Engine} {answer : Answer State}
    {chance : Script.Chance} {given : Option String} {input : Option Json} {state : State}
    {call : Call}
    (member : call ∈ (engine.parse answer.logged chance given input ⟨state, []⟩).2.2.calls) :
    ∃ inner block, Block.parse? inner = some block ∧ call.path =
      variablePath engine.options.root
        (engine.pipeline.blocks.dispatch input block).subject.name := by
  cases sought : given.or engine.template with
  | none =>
      obtain ⟨rfl, own⟩ := Option.or_eq_none_iff.mp sought
      simp [parse, expandOwn, ownPlan, own, Plan.run] at member
  | some template =>
      have after_eq := (engine.parse_eq_expand answer.logged chance sought input ⟨state, []⟩).2
      rw [after_eq, Plan.run_logged] at member
      exact Expansion.exists_block_of_mem_calls member

end Engine

/-! ## Scopes -/

namespace Namespace

/-- A block in the namespace of a message. -/
def moved (field : String) (input : Option Json) (block : Block) : Block :=
  (Chain.dispatch input [handler field] block).subject

/-- What stands in front of the names in a scope: the scope itself as far as a name can have it, and
a dot. -/
def front (scope : String) : String :=
  Block.normalizeName (scope ++ ".")

/-- Two scopes overlap if the front of one of them is the front of the other with something behind
it that a name can have. -/
def Overlap (one two : String) : Prop :=
  ∃ part : String, (∀ character ∈ part.toList, Block.isNameCharacter character = true) ∧
    (front two = front one ++ part ∨ front one = front two ++ part)

theorem name_moved {field : String} {input : Option Json} {scope : String}
    (inScope : scope? field input = some scope) {inner : String} {block : Block}
    (parsed : Block.parse? inner = some block) :
    (moved field input block).name = front scope ++ block.name := by
  have solid := Block.solid_of_isNameCharacter (Block.isNameCharacter_of_parse? parsed)
  have last : (scope ++ ".").toList.getLast? = some '.' := by
    rw [String.toList_append]
    exact List.getLast?_concat
  have name_eq : (moved field input block).name =
      Block.normalizeName (scope ++ "." ++ block.name) := by
    simp only [moved, Chain.dispatch, handler, inScope, Block.setName]
  rw [name_eq, Block.normalizeName_append last (by decide) solid, front]

theorem variablePath_injective (root : String) : Function.Injective (variablePath root) := by
  intro one two same
  unfold variablePath at same
  split at same
  · exact same
  · simpa using same

section

variable {field : String} {first second : Option Json} {one two : String}
  (firstScope : scope? field first = some one) (secondScope : scope? field second = some two)

include firstScope secondScope

/-- If the first front goes on as the second one does, and then with something that a name can have,
a block of the second scope has that in front of the name of a block of the first. -/
theorem exists_same_name_of_part {part : String}
    (characters : ∀ character ∈ part.toList, Block.isNameCharacter character = true)
    (front_eq : front two = front one ++ part) :
    ∃ inner other block otherBlock, Block.parse? inner = some block ∧
      Block.parse? other = some otherBlock ∧
      (moved field first block).name = (moved field second otherBlock).name := by
  obtain ⟨otherBlock, otherParsed, otherName⟩ :=
    Block.parse?_of_isNameCharacter (show "x" ≠ "" by decide)
      (List.all_eq_true.mp (by decide))
  have longer : ∀ character ∈ (part ++ "x").toList, Block.isNameCharacter character = true := by
    rw [String.toList_append]
    exact List.forall_mem_append.mpr ⟨characters, List.all_eq_true.mp (by decide)⟩
  obtain ⟨block, parsed, name⟩ := Block.parse?_of_isNameCharacter (by simp) longer
  refine ⟨_, _, block, otherBlock, parsed, otherParsed, ?_⟩
  rw [name_moved firstScope parsed, name_moved secondScope otherParsed, name, otherName, front_eq,
    String.append_assoc]

/-- Names of two scopes can be the same exactly if the scopes overlap. -/
theorem exists_same_name_iff :
    (∃ inner other block otherBlock, Block.parse? inner = some block ∧
      Block.parse? other = some otherBlock ∧
      (moved field first block).name = (moved field second otherBlock).name) ↔
    Overlap one two := by
  constructor
  · rintro ⟨inner, other, block, otherBlock, parsed, otherParsed, same⟩
    have named := Block.isNameCharacter_of_parse? parsed
    have otherNamed := Block.isNameCharacter_of_parse? otherParsed
    rw [name_moved firstScope parsed, name_moved secondScope otherParsed,
      ← String.toList_inj, String.toList_append, String.toList_append] at same
    rcases List.append_eq_append_iff.mp same with
      ⟨part, front_eq, name_eq⟩ | ⟨part, front_eq, name_eq⟩
    · refine ⟨String.ofList part, ?_, .inl ?_⟩
      · rw [name_eq] at named
        simpa using (List.forall_mem_append.mp named).1
      · rw [← String.toList_inj, front_eq]
        simp
    · refine ⟨String.ofList part, ?_, .inr ?_⟩
      · rw [name_eq] at otherNamed
        simpa using (List.forall_mem_append.mp otherNamed).1
      · rw [← String.toList_inj, front_eq]
        simp
  · rintro ⟨part, characters, front_eq | front_eq⟩
    · exact exists_same_name_of_part firstScope secondScope characters front_eq
    · obtain ⟨inner, other, block, otherBlock, parsed, otherParsed, same⟩ :=
        exists_same_name_of_part secondScope firstScope characters front_eq
      exact ⟨other, inner, otherBlock, block, otherParsed, parsed, same.symm⟩

/-- Scopes are apart exactly if they do not overlap: then no block of one has the path of a block of
the other, and no call that an engine makes for a message of one scope is for a path of which
another engine, or the same one, reads or changes anything for a message of the other scope. -/
theorem apart_iff_not_overlap (root : String) :
    ((∀ inner other block otherBlock, Block.parse? inner = some block →
        Block.parse? other = some otherBlock →
        variablePath root (moved field first block).name ≠
          variablePath root (moved field second otherBlock).name) ↔
      ¬ Overlap one two) ∧
    (¬ Overlap one two → ∀ {State OtherState : Type} (engine otherEngine : Engine)
      (answer : Answer State) (otherAnswer : Answer OtherState) (chance otherChance : Script.Chance)
      (given otherGiven : Option String) (state : State) (otherState : OtherState),
      engine.options.root = root → engine.pipeline.blocks = [handler field] →
      otherEngine.options.root = root → otherEngine.pipeline.blocks = [handler field] →
      ∀ call ∈ (engine.parse answer.logged chance given first ⟨state, []⟩).2.2.calls,
      ∀ otherCall ∈ (otherEngine.parse otherAnswer.logged otherChance otherGiven second
          ⟨otherState, []⟩).2.2.calls,
        call.path ≠ otherCall.path) := by
  have meets := exists_same_name_iff firstScope secondScope
  constructor
  · rw [← meets]
    constructor
    · rintro apart ⟨inner, other, block, otherBlock, parsed, otherParsed, same⟩
      exact apart inner other block otherBlock parsed otherParsed
        (congrArg (variablePath root) same)
    · intro none inner other block otherBlock parsed otherParsed same
      exact none ⟨inner, other, block, otherBlock, parsed, otherParsed,
        variablePath_injective root same⟩
  · intro disjoint State OtherState engine otherEngine answer otherAnswer chance otherChance given
      otherGiven state otherState root_eq blocks_eq otherRoot_eq otherBlocks_eq call member
      otherCall otherMember same
    obtain ⟨inner, block, parsed, path_eq⟩ := Engine.exists_block_of_mem_calls member
    obtain ⟨other, otherBlock, otherParsed, otherPath_eq⟩ :=
      Engine.exists_block_of_mem_calls otherMember
    rw [path_eq, otherPath_eq, root_eq, blocks_eq, otherRoot_eq, otherBlocks_eq] at same
    exact disjoint (meets.mp ⟨inner, other, block, otherBlock, parsed, otherParsed,
      variablePath_injective root same⟩)

end

/-- A message of a channel. -/
def channelMessage (channel : String) : Option Json :=
  some (.object [("channel", .string channel)])

/-- Channels that differ in their first letter are apart. -/
theorem apart_iff_not_overlap_general :
    scope? "channel" (channelMessage "general") = some "general" ∧
      scope? "channel" (channelMessage "random") = some "random" ∧
      ∀ inner other block otherBlock, Block.parse? inner = some block →
        Block.parse? other = some otherBlock →
        variablePath "variables" (moved "channel" (channelMessage "general") block).name ≠
          variablePath "variables" (moved "channel" (channelMessage "random") otherBlock).name := by
  have firstScope : scope? "channel" (channelMessage "general") = some "general" := by
    decide +kernel
  have secondScope : scope? "channel" (channelMessage "random") = some "random" := by
    decide +kernel
  have disjoint : ¬ Overlap "general" "random" := by
    have firstFront : front "general" = "general." := by decide +kernel
    have secondFront : front "random" = "random." := by decide +kernel
    rintro ⟨part, -, front_eq | front_eq⟩ <;>
    · rw [firstFront, secondFront, ← String.toList_inj, String.toList_append] at front_eq
      exact absurd (congrArg List.head? front_eq) (by simp)
  exact ⟨firstScope, secondScope,
    (apart_iff_not_overlap firstScope secondScope "variables").1.mpr disjoint⟩

/-- The second channel starts with the name of the first and a dot, and a variable of the first has
the rest in its name. -/
theorem not_apart_dotted :
    ∃ one two, scope? "channel" (channelMessage "a") = some one ∧
      scope? "channel" (channelMessage "a.b") = some two ∧
      Block.normalizeName one ≠ Block.normalizeName two ∧
      ∃ block otherBlock, Block.parse? "b.c" = some block ∧ Block.parse? "c" = some otherBlock ∧
        variablePath "variables" (moved "channel" (channelMessage "a") block).name =
          variablePath "variables" (moved "channel" (channelMessage "a.b") otherBlock).name := by
  refine ⟨"a", "a.b", by decide +kernel, by decide +kernel, by decide +kernel, ?_⟩
  obtain ⟨block, parsed, name_eq⟩ :=
    Block.parse?_of_isNameCharacter (show "b.c" ≠ "" by decide)
      (List.all_eq_true.mp (by decide))
  obtain ⟨otherBlock, otherParsed, otherName_eq⟩ :=
    Block.parse?_of_isNameCharacter (show "c" ≠ "" by decide)
      (List.all_eq_true.mp (by decide))
  refine ⟨block, otherBlock, parsed, otherParsed, ?_⟩
  have firstScope : scope? "channel" (channelMessage "a") = some "a" := by decide +kernel
  have secondScope : scope? "channel" (channelMessage "a.b") = some "a.b" := by decide +kernel
  rw [name_moved firstScope parsed, name_moved secondScope otherParsed, name_eq, otherName_eq]
  decide +kernel

end Namespace
end ChatMacro
