import ChatMacro.Proofs.Resolution.Effect
import ChatMacro.Proofs.Resolution.Failure
import ChatMacro.Proofs.Store.Trace

/-!
# Visits to a store

Blocks visit a store one after the other.  As long as the store does not fail, a visit either
removes the variable, or looks it up and perhaps writes it, and touches nothing else.
-/

namespace ChatMacro

variable {State : Type}

/-- Calls of a store concern one path each: a look-up finds what is there and keeps the store, and a
change leaves alone what is found elsewhere.  Calls that fail are free to do anything. -/
structure Answer.Local (answer : Answer State) (find? : State → String → Option Datum) : Prop where
  /-- A look-up changes nothing. -/
  get : ∀ {path state found after}, answer (.get path) state = (.ok found, after) →
    found = find? state path ∧ after = state
  /-- Data is put under one path. -/
  set : ∀ {path value state reply after}, answer (.set path value) state = (.ok reply, after) →
    ∀ sought, sought ≠ path → find? after sought = find? state sought
  /-- The data under one path is removed. -/
  remove : ∀ {path state reply after}, answer (.remove path) state = (.ok reply, after) →
    ∀ sought, sought ≠ path → find? after sought = find? state sought

/-- Stores in memory and in files are local, whether or not the file can be written. -/
theorem Store.local_answer (writable : Bool) :
    (Store.answer writable).Local fun store path => store.entries.find? path where
  get := by
    intro path store found after answered
    rw [answer_get] at answered
    cases valid : Entries.checkPath path with
    | error error => simp [valid, Except.map] at answered
    | ok =>
        simp only [valid, Except.map, Prod.mk.injEq, Except.ok.injEq] at answered
        exact ⟨answered.1.symm, answered.2.symm⟩
  set := by
    intro path value store reply after answered sought different
    rcases store.answer_set_cases writable path value with ⟨error, failed⟩ | ⟨other, done, inserted⟩
    · simp [failed] at answered
    · obtain ⟨_, rfl⟩ := Prod.mk.inj (done.symm.trans answered)
      rw [inserted, Entries.find?_insert_of_ne _ different]
  remove := by
    intro path store reply after answered sought different
    rcases store.answer_remove_cases writable path with ⟨error, failed⟩ | ⟨other, done, erased⟩
    · simp [failed] at answered
    · obtain ⟨_, rfl⟩ := Prod.mk.inj (done.symm.trans answered)
      rw [erased, Entries.find?_erase_of_ne _ different]

/-- A block and the store that it meets. -/
structure Visit (State : Type) where
  /-- The block. -/
  block : Block
  /-- The store. -/
  state : State

namespace Visit

/-- Resolve the block. -/
def resolve (answer : Answer State) (root : String) (visit : Visit State) :
    Except StoreError Block × State :=
  (visit.block.resolve root).run answer visit.state

/-- The visits of blocks one after the other. -/
def all (answer : Answer State) (root : String) : List Block → State → List (Visit State)
  | [], _ => []
  | block :: blocks, state =>
      ⟨block, state⟩ :: all answer root blocks (resolve answer root ⟨block, state⟩).2

/-- The store after the visits of blocks. -/
def after (answer : Answer State) (root : String) (blocks : List Block) (state : State) : State :=
  blocks.foldl (fun state block => (resolve answer root ⟨block, state⟩).2) state

section

variable (find? : State → String → Option Datum) (root : String) (visit : Visit State)

/-- The path of the variable. -/
def path : String :=
  variablePath root visit.block.name

/-- What the block finds under its path. -/
def found? : Option Datum :=
  find? visit.state (visit.path root)

/-- The block fails on its value: it is no deletion, and it has no value on what it finds. -/
def failsOnValue : Bool :=
  !visit.block.isDeletion && visit.block.fails (visit.found? find? root)

/-- The block only reads: it is a reference, or it fails on its value. -/
def readsOnly : Bool :=
  visit.block.operator = .reference || visit.failsOnValue find? root

/-- What the block puts out. -/
def output : Datum :=
  if visit.block.isDeletion then .text ""
  else
    match visit.block.valueOn (visit.found? find? root) with
    | .ok value => value
    | .error _ => visit.block.fallback.getD visit.block.kind.zero

/-- The calls of the visit. -/
def calls : List Call :=
  if visit.block.isDeletion then [.remove (visit.path root)]
  else if visit.readsOnly find? root then [.get (visit.path root)]
  else [.get (visit.path root), .set (visit.path root) (visit.output find? root)]

end

/-- What a visit does to a store that does not fail. -/
structure Succeeds (answer : Answer State) (find? : State → String → Option Datum) (root : String)
    (visit : Visit State) : Prop where
  /-- The calls. -/
  calls_eq : (visit.block.resolve root).calls answer visit.state = visit.calls find? root
  /-- The output. -/
  resolved_eq : (visit.resolve answer root).1 =
    .ok { visit.block with output := some (visit.output find? root) }
  /-- A block that only reads keeps the store. -/
  kept : visit.readsOnly find? root = true → (visit.resolve answer root).2 = visit.state
  /-- Other paths are left alone. -/
  elsewhere : ∀ sought, sought ≠ visit.path root →
    find? (visit.resolve answer root).2 sought = find? visit.state sought

/-- A resolution makes the calls of applying its block. -/
theorem calls_resolve (answer : Answer State) (root : String) (block : Block) (state : State) :
    (block.resolve root).calls answer state = (block.apply root).calls answer state := by
  rw [Block.resolve_eq, Plan.calls_andThen]
  rcases (block.apply root).run answer state with ⟨_ | outcome, after⟩
  · exact List.append_nil _
  · simp only [Plan.calls_andThen, Plan.calls_noteAll, Plan.run_noteAll, Plan.calls,
      List.append_nil]

section

variable (find? : State → String → Option Datum) (root : String) {visit : Visit State}

theorem readsOnly_of_deletion (deletion : visit.block.isDeletion = true) :
    visit.readsOnly find? root = false := by
  have assigns : visit.block.operator = .assign := by
    simpa using (Bool.and_eq_true_iff.mp deletion).1
  simp [readsOnly, failsOnValue, deletion, assigns]

theorem settle_valueOn (noDeletion : visit.block.isDeletion = false) :
    visit.block.settle (visit.block.valueOn (visit.found? find? root)) =
      { visit.block with output := some (visit.output find? root) } := by
  rw [output, noDeletion]
  cases visit.block.valueOn (visit.found? find? root) <;> rfl

/-- A block that is no deletion looks its variable up, and then it either has its outcome or writes
its value. -/
theorem apply_cases (noDeletion : visit.block.isDeletion = false) :
    ∃ next, visit.block.apply root = .ask (.get (visit.path root)) id next ∧
      next (visit.found? find? root) =
        if visit.readsOnly find? root then
          .done (visit.block.valueOn (visit.found? find? root))
        else
          .ask (.set (visit.path root) (visit.output find? root)) id fun _ =>
            .done (visit.block.valueOn (visit.found? find? root)) := by
  simp only [Block.apply, noDeletion, Bool.false_eq_true, if_false]
  refine ⟨_, rfl, ?_⟩
  have isOk := visit.block.valueOn_isOk (visit.found? find? root)
  simp only [readsOnly, failsOnValue, output, noDeletion]
  cases valued : visit.block.valueOn (visit.found? find? root) with
  | error error =>
      have fails : visit.block.fails (visit.found? find? root) = true := by
        simpa [valued, Except.isOk, Except.toBool] using isOk
      simp [fails]
  | ok value =>
      have succeeds : visit.block.fails (visit.found? find? root) = false := by
        simpa [valued, Except.isOk, Except.toBool] using isOk
      by_cases reference : visit.block.operator = .reference <;>
        simp [succeeds, reference, noDeletion, path]

end

variable {answer : Answer State} {find? : State → String → Option Datum}

/-- A visit goes well if applying its block does. -/
theorem succeeds_of_run {root : String} {visit : Visit State}
    (calls_eq : (visit.block.apply root).calls answer visit.state = visit.calls find? root)
    {outcome : Except ValueError Datum} {after : State}
    (ran : (visit.block.apply root).run answer visit.state = (.ok outcome, after))
    (settled : visit.block.settle outcome =
      { visit.block with output := some (visit.output find? root) })
    (kept : visit.readsOnly find? root = true → after = visit.state)
    (elsewhere : ∀ sought, sought ≠ visit.path root →
      find? after sought = find? visit.state sought) : visit.Succeeds answer find? root := by
  have resolved : visit.resolve answer root =
      (.ok { visit.block with output := some (visit.output find? root) }, after) := by
    rw [resolve, Block.run_resolve, ran, ← settled]
  constructor
  · rw [calls_resolve, calls_eq]
  · rw [resolved]
  · rw [resolved]
    exact kept
  · rw [resolved]
    exact elsewhere

/-- A visit goes well unless one of its calls fails. -/
theorem succeeds_of_isOk (isLocal : answer.Local find?) {root : String} {visit : Visit State}
    (served : (visit.resolve answer root).1.isOk = true) : visit.Succeeds answer find? root := by
  rw [resolve, Block.run_resolve] at served
  cases deletion : visit.block.isDeletion with
  | true =>
      have applied : visit.block.apply root =
          .ask (.remove (visit.path root)) id fun _ => .done (.ok (.text "")) := by
        simp only [Block.apply, deletion, if_true, path]
      rcases removed : answer (.remove (visit.path root)) visit.state with ⟨_ | reply, after⟩
      · simp [applied, Plan.run, removed, Except.isOk, Except.toBool] at served
      · refine succeeds_of_run ?_ (by simp only [applied, Plan.run, removed]; rfl) ?_ ?_
          (isLocal.remove removed)
        · simp only [applied, Plan.calls, removed, calls, deletion, if_true]
        · simp only [Block.settle, output, deletion, if_true]
        · simp [readsOnly_of_deletion find? root deletion]
  | false =>
      obtain ⟨next, applied, continued⟩ := apply_cases find? root deletion
      have settled := settle_valueOn find? root deletion
      rcases got : answer (.get (visit.path root)) visit.state with ⟨_ | found, middle⟩
      · simp [applied, Plan.run, got, Except.isOk, Except.toBool] at served
      obtain ⟨found_eq, rfl⟩ := isLocal.get got
      have found_eq : found = visit.found? find? root := found_eq
      subst found_eq
      cases readsOnly : visit.readsOnly find? root with
      | true =>
          rw [readsOnly, if_pos rfl] at continued
          refine succeeds_of_run ?_ (by simp only [applied, Plan.run, got, continued]) settled
            (fun _ => rfl) (fun _ _ => rfl)
          simp [applied, Plan.calls, got, continued, calls, deletion, readsOnly]
      | false =>
          rw [readsOnly, if_neg Bool.false_ne_true] at continued
          rcases set : answer (.set (visit.path root) (visit.output find? root)) visit.state with
            ⟨_ | reply, after⟩
          · simp [applied, Plan.run, got, continued, set, Except.isOk, Except.toBool] at served
          · refine succeeds_of_run ?_ (by simp only [applied, Plan.run, got, continued, set])
              settled (by simp [readsOnly]) (isLocal.set set)
            simp [applied, Plan.calls, got, continued, set, calls, deletion, readsOnly]

/-- A block that fails on its value is replaced by its fallback, or else by the zero of its kind. -/
theorem Succeeds.resolve_of_failsOnValue {root : String} {visit : Visit State}
    (succeeds : visit.Succeeds answer find? root)
    (fails : visit.failsOnValue find? root = true) :
    visit.resolve answer root =
      (.ok { visit.block with output := some (visit.block.fallback.getD visit.block.kind.zero) },
        visit.state) := by
  obtain ⟨noDeletion, noValue⟩ := Bool.and_eq_true_iff.mp fails
  have noDeletion : visit.block.isDeletion = false := by simpa using noDeletion
  have readsOnly : visit.readsOnly find? root = true := by
    simp [Visit.readsOnly, fails]
  have output_eq : visit.output find? root = visit.block.fallback.getD visit.block.kind.zero := by
    have isOk := visit.block.valueOn_isOk (visit.found? find? root)
    rw [output, noDeletion]
    cases valued : visit.block.valueOn (visit.found? find? root) with
    | error error => rfl
    | ok value => simp [valued, noValue, Except.isOk, Except.toBool] at isOk
  rw [← output_eq, ← succeeds.resolved_eq, ← succeeds.kept readsOnly]

/-- Visits leave alone what is found under other paths than theirs. -/
theorem find?_after {root : String} {blocks : List Block} {state : State}
    (succeed : ∀ visit ∈ all answer root blocks state, visit.Succeeds answer find? root)
    {sought : String} (elsewhere : ∀ block ∈ blocks, variablePath root block.name ≠ sought) :
    find? (after answer root blocks state) sought = find? state sought := by
  induction blocks generalizing state with
  | nil => rfl
  | cons block blocks ih =>
      obtain ⟨first, others⟩ := List.forall_mem_cons.mp succeed
      obtain ⟨here, there⟩ := List.forall_mem_cons.mp elsewhere
      exact (ih others there).trans (first.elsewhere sought here.symm)

/-- Visits that only read keep the store. -/
theorem after_of_readsOnly {root : String} {blocks : List Block} {state : State}
    (succeed : ∀ visit ∈ all answer root blocks state, visit.Succeeds answer find? root)
    (read : ∀ visit ∈ all answer root blocks state, visit.readsOnly find? root = true) :
    after answer root blocks state = state := by
  induction blocks generalizing state with
  | nil => rfl
  | cons block blocks ih =>
      obtain ⟨first, others⟩ := List.forall_mem_cons.mp succeed
      obtain ⟨firstReads, othersRead⟩ := List.forall_mem_cons.mp read
      exact (ih others othersRead).trans (first.kept firstReads)

end Visit
end ChatMacro
