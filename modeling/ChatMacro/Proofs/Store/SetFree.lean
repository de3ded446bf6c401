import ChatMacro.Proofs.Outcome
import ChatMacro.Proofs.Store.Answer

/-!
# Stores without sets

A store keeps texts, numbers and sequences: sets are kept as sequences, and a file has no sets to be
read.
-/

namespace ChatMacro

theorem Datum.kind_persisted_ne_set (value : Datum) : value.persisted.kind ≠ .set := by
  cases value <;> simp [persisted, kind]

theorem Datum.persisted_of_kind_ne_set {value : Datum} (noSet : value.kind ≠ .set) :
    value.persisted = value := by
  cases value with
  | set items => exact absurd rfl noSet
  | _ => rfl

namespace Entries

/-- No data is a set. -/
def SetFree (entries : Entries) : Prop :=
  entries.All fun value => value.kind ≠ .set

theorem setFree_ofList (entries : List (String × Datum)) : (ofList entries).SetFree := by
  have stepwise : ofList entries = (entries.map fun entry => (entry.1, entry.2.persisted)).foldl
      (fun kept field => kept.insert field.1 field.2) empty := by
    rw [List.foldl_map]
    rfl
  rw [stepwise]
  refine all_foldl_insert _ all_empty ?_
  intro entry member
  obtain ⟨former, _, rfl⟩ := List.mem_map.mp member
  exact former.2.kind_persisted_ne_set

end Entries

namespace Document

theorem kind_of_toDatum {path : String} {json : Json} {value : Datum}
    (read : toDatum path json = .ok value) : value.kind ≠ .set := by
  cases json with
  | string text => cases read; simp [Datum.kind]
  | integer number => cases read; simp [Datum.kind]
  | real number => cases read; simp [Datum.kind]
  | array items =>
      obtain ⟨atoms, _, made⟩ := Outcome.exists_of_bind_eq_ok read
      cases made
      simp [Datum.kind]
  | _ => simp [toDatum] at read

theorem setFree_decode {text : String} {entries : Entries} (decoded : decode text = .ok entries) :
    entries.SetFree := by
  unfold decode at decoded
  split at decoded
  · exact absurd decoded (by simp)
  · next fields _ =>
    obtain ⟨read, mapped, made⟩ := Outcome.exists_of_bind_eq_ok decoded
    cases made
    refine Entries.all_foldl_insert read Entries.all_empty ?_
    intro entry member
    obtain ⟨field, _, converted⟩ := Outcome.exists_of_mem_of_mapM_eq_ok mapped member
    obtain ⟨value, valued, made⟩ := Outcome.exists_of_bind_eq_ok converted
    cases made
    exact kind_of_toDatum valued
  · exact absurd decoded (by simp)

end Document

namespace Store

/-- The stores that can arise: entries are put into memory or loaded from a file, and calls are
answered, whether or not the file can be written. -/
inductive Arises : Store → Prop where
  /-- A store in memory is filled. -/
  | filled (entries : List (String × Datum)) : Arises (.memory (.ofList entries))
  /-- A store in a file is opened. -/
  | opened {text : Option String} {store : FileStore} (loaded : FileStore.load text = .ok store) :
      Arises (.file store)
  /-- A store has answered a call. -/
  | answered {store : Store} (writable : Bool) (call : Call) (arises : Arises store) :
      Arises (answer writable call store).2

theorem setFree_answer {store : Store} (free : store.entries.SetFree) (writable : Bool)
    (call : Call) : (answer writable call store).2.entries.SetFree := by
  cases call with
  | get path => simpa [answer_get] using free
  | set path value =>
      rcases store.answer_set_cases writable path value with
        ⟨error, answered⟩ | ⟨after, answered, inserted⟩
      · simpa [answered] using free
      · rw [answered, inserted]
        exact free.insert path value.kind_persisted_ne_set
  | remove path =>
      rcases store.answer_remove_cases writable path with
        ⟨error, answered⟩ | ⟨after, answered, erased⟩
      · simpa [answered] using free
      · rw [answered, erased]
        exact free.erase path

theorem setFree_load {text : Option String} {store : FileStore}
    (loaded : FileStore.load text = .ok store) : store.entries.SetFree := by
  unfold FileStore.load at loaded
  split at loaded
  · cases loaded
    exact Entries.all_empty
  · next content =>
    split at loaded
    · cases loaded
      exact Entries.all_empty
    · cases decoded : Document.decode content with
      | error error => simp [decoded, Except.map] at loaded
      | ok entries =>
          simp only [decoded, Except.map, Except.ok.injEq] at loaded
          subst loaded
          exact Document.setFree_decode decoded

/-- No store that can arise holds a set. -/
theorem Arises.setFree {store : Store} (arises : store.Arises) : store.entries.SetFree := by
  induction arises with
  | filled entries => exact Entries.setFree_ofList entries
  | opened loaded => exact setFree_load loaded
  | answered writable call _ ih => exact setFree_answer ih writable call

end Store

end ChatMacro
