import ChatMacro.Proofs.Resolution.Effect
import ChatMacro.Proofs.Resolution.Update
import ChatMacro.Proofs.Store.SetFree

/-!
# Kinds of stored data

A store keeps texts, numbers and sequences.  Whatever blocks are resolved, the data under a path
keeps its kind until a block removes it.
-/

namespace ChatMacro

namespace Block

/-- The value that a block works out on stored data is kept in the kind of that data. -/
theorem Updates.kind_persisted {block : Block} {stored value : Datum}
    (updates : block.Updates stored value) : value.persisted.kind = stored.persisted.kind := by
  have collection {items : List Atom} (stored_eq : stored.items? = some items) :
      stored.persisted.kind = .sequence := by
    cases stored <;> first | rfl | simp [Datum.items?] at stored_eq
  cases updates with
  | number => rfl
  | text => rfl
  | replaced _ _ stored_eq => exact (collection stored_eq).symm
  | appended _ _ stored_eq => exact (collection stored_eq).symm
  | dropped _ _ _ stored_eq => exact (collection stored_eq).symm
  | replacedSet _ _ stored_eq => exact (collection stored_eq).symm
  | united _ _ stored_eq => exact (collection stored_eq).symm
  | reduced _ _ stored_eq => exact (collection stored_eq).symm

/-- Data under a path keeps its kind through every effect but its removal. -/
theorem Effect.kind_persisted {root : String} {block : Block} {store after : Store}
    {outcome : Except StoreError Block} (effect : block.Effect root store (outcome, after))
    {path : String} {before : Datum} (found : store.entries.find? path = some before)
    (kept : block.isDeletion = true → variablePath root block.name = path →
      ∃ error, outcome = .error error) :
    ∃ later, after.entries.find? path = some later ∧
      later.persisted.kind = before.persisted.kind := by
  cases effect with
  | failed error => exact ⟨before, found, rfl⟩
  | kept output => exact ⟨before, found, rfl⟩
  | removed _ deletion erased =>
      by_cases here : variablePath root block.name = path
      · obtain ⟨error, failed⟩ := kept deletion here
        exact absurd failed (by simp)
      · rw [erased, Entries.find?_erase_of_ne _ (Ne.symm here)]
        exact ⟨before, found, rfl⟩
  | written value _ noReference valued inserted =>
      rw [inserted]
      by_cases here : variablePath root block.name = path
      · subst here
        rw [found] at valued
        have updates := updates_of_update (valueOn_some noReference valued).2
        refine ⟨value.persisted, Entries.find?_insert_self _ _ _, ?_⟩
        rw [← updates.kind_persisted]
        cases value <;> rfl
      · rw [Entries.find?_insert_of_ne _ (Ne.symm here)]
        exact ⟨before, found, rfl⟩

theorem Effect.setFree {root : String} {block : Block} {store after : Store}
    {outcome : Except StoreError Block} (effect : block.Effect root store (outcome, after))
    (free : store.entries.SetFree) : after.entries.SetFree := by
  cases effect with
  | failed error => exact free
  | kept output => exact free
  | removed _ _ erased => exact erased ▸ free.erase _
  | written value _ _ _ inserted =>
      exact inserted ▸ free.insert _ value.kind_persisted_ne_set

end Block

namespace Attempt

/-- Whether an attempt has removed the data under a path. -/
def removes (root path : String) (attempt : Attempt) (outcome : Except StoreError Block) : Bool :=
  attempt.block.isDeletion && variablePath root attempt.block.name = path && outcome.isOk

theorem setFree_runAll (root : String) (attempts : List Attempt) {store : Store}
    (free : store.entries.SetFree) : (runAll root attempts store).2.entries.SetFree := by
  induction attempts generalizing store with
  | nil => exact free
  | cons attempt attempts ih =>
      exact ih ((attempt.block.effect_resolve root attempt.writable store).setFree free)

theorem kind_persisted_runAll {root path : String} (attempts : List Attempt) {store : Store}
    {before : Datum} (found : store.entries.find? path = some before)
    (kept : ∀ result ∈ (runAll root attempts store).1,
      result.1.removes root path result.2 = false) :
    ∃ later, (runAll root attempts store).2.entries.find? path = some later ∧
      later.persisted.kind = before.persisted.kind := by
  induction attempts generalizing store before with
  | nil => exact ⟨before, found, rfl⟩
  | cons attempt attempts ih =>
      have effect := attempt.block.effect_resolve root attempt.writable store
      have notRemoved := kept (attempt, (attempt.run root store).1) List.mem_cons_self
      obtain ⟨middle, middleFound, middleKind⟩ := effect.kind_persisted found (by
        intro deletion here
        cases outcome : (attempt.run root store).1 with
        | error error => exact ⟨error, outcome⟩
        | ok block =>
            simp [removes, deletion, here, outcome, Except.isOk, Except.toBool] at notRemoved)
      obtain ⟨later, laterFound, laterKind⟩ := ih middleFound fun result member =>
        kept result (List.mem_cons_of_mem _ member)
      exact ⟨later, laterFound, laterKind.trans middleKind⟩

/-- Data keeps its kind.  From any store that can arise, however blocks are made up and whichever
writes of the file fail, no data ever is a set, and data under a path stays there in the kind that
it has until an attempt removes it. -/
theorem kind_stable_runAll (root : String) {store : Store} (arises : store.Arises)
    (attempts : List Attempt) :
    (runAll root attempts store).2.entries.SetFree ∧
      ∀ path before, store.entries.find? path = some before →
        (∀ result ∈ (runAll root attempts store).1, result.1.removes root path result.2 = false) →
        ∃ later, (runAll root attempts store).2.entries.find? path = some later ∧
          later.kind = before.kind := by
  have free := setFree_runAll root attempts arises.setFree
  refine ⟨free, ?_⟩
  intro path before found kept
  obtain ⟨later, laterFound, kinds⟩ := kind_persisted_runAll attempts found kept
  refine ⟨later, laterFound, ?_⟩
  rwa [Datum.persisted_of_kind_ne_set (free path later laterFound),
    Datum.persisted_of_kind_ne_set (arises.setFree path before found)] at kinds

/-- A store in a file with one sequence, which was put there as a set. -/
def sequenceStore : Store :=
  (Store.answer true (.set "v/q" (.set [.text "a", .text "a"])) (.file ⟨.empty, none⟩)).2

/-- A union with a set, an operand of another kind than declared, and a removal that cannot be
written. -/
def sequenceAttempts : List Attempt :=
  [{ block := { name := "q", operator := .add, value := .set [.text "a", .number 2.5], raw := "",
                kind := .set, fallback := none, output := none },
     writable := true },
   { block := { name := "q", operator := .assign, value := .set [.text "c"], raw := "[c]",
                kind := .number, fallback := none, output := none },
     writable := true },
   { block := { name := "q", operator := .assign, value := .text "null", raw := "null",
                kind := .text, fallback := none, output := none },
     writable := false }]

theorem kind_stable_sequence :
    (runAll "v" sequenceAttempts sequenceStore).2.entries.SetFree ∧
      ∃ later, (runAll "v" sequenceAttempts sequenceStore).2.entries.find? "v/q" = some later ∧
        later.kind = .sequence := by
  have arises : sequenceStore.Arises := .answered true _ (.opened (rfl : FileStore.load none = _))
  have stable := kind_stable_runAll "v" arises sequenceAttempts
  exact ⟨stable.1, stable.2 "v/q" (.sequence [.text "a"]) (by decide) (by decide)⟩

end Attempt
end ChatMacro
