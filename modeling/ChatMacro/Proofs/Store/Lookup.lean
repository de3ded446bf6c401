import ChatMacro.Store.Entries

/-!
# Looking up entries

Inserting and erasing act on one path and leave what is under every other path alone.
-/

namespace ChatMacro

namespace Keyed

universe u

variable {Value : Type u}

@[simp]
theorem find?_insert_self (key : String) (value : Value) (entries : List (String × Value)) :
    find? key (insert key value entries) = some value := by
  induction entries with
  | nil => simp [insert, find?]
  | cons head tail ih =>
      obtain ⟨other, former⟩ := head
      simp only [insert]
      split
      · simp [find?]
      · next different =>
        split
        · simp [find?]
        · simp [find?, different, ih]

theorem find?_insert_of_ne {key sought : String} (different : sought ≠ key) (value : Value)
    (entries : List (String × Value)) :
    find? sought (insert key value entries) = find? sought entries := by
  induction entries with
  | nil => simp [insert, find?, different]
  | cons head tail ih =>
      obtain ⟨other, former⟩ := head
      simp only [insert]
      split
      · next same => simp [find?, ← same, different]
      · split
        · simp [find?, different]
        · simp [find?, ih]

/-- Keys above all keys of a list are not in it. -/
theorem find?_eq_none_of_below {key : String} {entries : List (String × Value)}
    (below : ∀ entry ∈ entries, key < entry.1) : find? key entries = none := by
  induction entries with
  | nil => rfl
  | cons head tail ih =>
      obtain ⟨other, former⟩ := head
      have headBelow : key < other := below _ List.mem_cons_self
      have different : key ≠ other := by
        intro same
        exact String.lt_irrefl other (same ▸ headBelow)
      simpa [find?, different] using ih fun entry member =>
        below entry (List.mem_cons_of_mem _ member)

theorem find?_erase_self {entries : List (String × Value)} (ordered : Ordered entries)
    (key : String) : find? key (erase key entries) = none := by
  induction entries with
  | nil => rfl
  | cons head tail ih =>
      obtain ⟨other, former⟩ := head
      obtain ⟨headBelow, tailOrdered⟩ := List.pairwise_cons.mp ordered
      simp only [erase]
      split
      · next same => exact find?_eq_none_of_below fun entry member => same ▸ headBelow entry member
      · next different => simpa [find?, different] using ih tailOrdered

theorem find?_erase_of_ne {key sought : String} (different : sought ≠ key)
    (entries : List (String × Value)) :
    find? sought (erase key entries) = find? sought entries := by
  induction entries with
  | nil => rfl
  | cons head tail ih =>
      obtain ⟨other, former⟩ := head
      simp only [erase]
      split
      · next same => simp [find?, ← same, different]
      · simp [find?, ih]

theorem erase_of_find?_eq_none {key : String} {entries : List (String × Value)}
    (absent : find? key entries = none) : erase key entries = entries := by
  induction entries with
  | nil => rfl
  | cons head tail ih =>
      obtain ⟨other, former⟩ := head
      by_cases same : key = other
      · simp [find?, same] at absent
      · simp only [find?, same, if_false] at absent
        simp [erase, same, ih absent]

theorem mem_of_find?_eq_some {key : String} {value : Value} {entries : List (String × Value)}
    (found : find? key entries = some value) : (key, value) ∈ entries := by
  induction entries with
  | nil => simp [find?] at found
  | cons head tail ih =>
      obtain ⟨other, former⟩ := head
      by_cases same : key = other
      · simp only [find?, same, if_true, Option.some.injEq] at found
        simp [same, found]
      · simp only [find?, same, if_false] at found
        exact List.mem_cons_of_mem _ (ih found)

theorem find?_of_mem {key : String} {value : Value} {entries : List (String × Value)}
    (ordered : Ordered entries) (member : (key, value) ∈ entries) :
    find? key entries = some value := by
  induction entries with
  | nil => simp at member
  | cons head tail ih =>
      obtain ⟨headBelow, tailOrdered⟩ := List.pairwise_cons.mp ordered
      rcases List.mem_cons.mp member with rfl | later
      · simp [find?]
      · have below := headBelow _ later
        have different : key ≠ head.1 := by
          intro same
          rw [same] at below
          exact String.lt_irrefl _ below
        simpa [find?, different] using ih tailOrdered later

theorem insert_of_above {key : String} (value : Value) {entries : List (String × Value)}
    (above : ∀ entry ∈ entries, entry.1 < key) :
    insert key value entries = entries ++ [(key, value)] := by
  induction entries with
  | nil => rfl
  | cons head tail ih =>
      obtain ⟨other, former⟩ := head
      have headBelow : other < key := above _ List.mem_cons_self
      have different : key ≠ other := by
        intro same
        exact String.lt_irrefl other (same ▸ headBelow)
      have notBelow : ¬ key < other := fun below =>
        String.lt_irrefl other (String.lt_trans headBelow below)
      simp only [insert, different, notBelow, if_false, List.cons_append]
      rw [ih fun entry member => above entry (List.mem_cons_of_mem _ member)]

theorem foldl_insert_of_ordered (kept entries : List (String × Value))
    (ordered : Ordered (kept ++ entries)) :
    entries.foldl (fun kept entry => insert entry.1 entry.2 kept) kept = kept ++ entries := by
  induction entries generalizing kept with
  | nil => simp
  | cons entry entries ih =>
      have above : ∀ former ∈ kept, former.1 < entry.1 := fun former member =>
        (List.pairwise_append.mp ordered).2.2 former member entry List.mem_cons_self
      have shifted : kept ++ entry :: entries = kept ++ [entry] ++ entries := by simp
      rw [List.foldl_cons, insert_of_above entry.2 above, ih _ (shifted ▸ ordered), shifted]

/-- A list that is ordered already is its own keyed list. -/
theorem ofList_of_ordered {entries : List (String × Value)} (ordered : Ordered entries) :
    ofList entries = entries :=
  foldl_insert_of_ordered [] entries ordered

/-! ## Values changed under their keys -/

variable {Other : Type u} (change : Value → Other)

/-- Change all values. -/
def mapValues (entries : List (String × Value)) : List (String × Other) :=
  entries.map fun entry => (entry.1, change entry.2)

theorem find?_mapValues (key : String) (entries : List (String × Value)) :
    find? key (mapValues change entries) = (find? key entries).map change := by
  induction entries with
  | nil => rfl
  | cons head tail ih =>
      simp only [mapValues, List.map_cons, find?] at ih ⊢
      split
      · rfl
      · exact ih

theorem insert_mapValues (key : String) (value : Value) (entries : List (String × Value)) :
    insert key (change value) (mapValues change entries) =
      mapValues change (insert key value entries) := by
  induction entries with
  | nil => rfl
  | cons head tail ih =>
      simp only [mapValues, List.map_cons, insert] at ih ⊢
      split
      · rfl
      · split
        · rfl
        · simp only [List.map_cons, ih]

theorem erase_mapValues (key : String) (entries : List (String × Value)) :
    erase key (mapValues change entries) = mapValues change (erase key entries) := by
  induction entries with
  | nil => rfl
  | cons head tail ih =>
      simp only [mapValues, List.map_cons, erase] at ih ⊢
      split
      · rfl
      · simp only [List.map_cons, ih]

theorem Ordered.mapValues {entries : List (String × Value)} (ordered : Ordered entries) :
    Ordered (mapValues change entries) :=
  List.pairwise_map.mpr ordered

end Keyed

namespace Entries

@[simp]
theorem find?_insert_self (entries : Entries) (path : String) (value : Datum) :
    (entries.insert path value).find? path = some value :=
  Keyed.find?_insert_self path value entries.toList

theorem find?_insert_of_ne (entries : Entries) {path sought : String}
    (different : sought ≠ path) (value : Datum) :
    (entries.insert path value).find? sought = entries.find? sought :=
  Keyed.find?_insert_of_ne different value entries.toList

@[simp]
theorem find?_erase_self (entries : Entries) (path : String) :
    (entries.erase path).find? path = none :=
  Keyed.find?_erase_self entries.ordered path

theorem find?_erase_of_ne (entries : Entries) {path sought : String}
    (different : sought ≠ path) :
    (entries.erase path).find? sought = entries.find? sought :=
  Keyed.find?_erase_of_ne different entries.toList

@[ext]
theorem ext {left right : Entries} (same : left.toList = right.toList) : left = right := by
  cases left
  cases right
  congr

theorem erase_of_find?_eq_none {entries : Entries} {path : String}
    (absent : entries.find? path = none) : entries.erase path = entries :=
  ext (Keyed.erase_of_find?_eq_none absent)

theorem checkPath_of_noNul {path : String} (named : path ≠ "") (noNul : '\x00' ∉ path.toList) :
    checkPath path = .ok () := by
  simp [checkPath, named, noNul]

/-! ## Properties of all data -/

/-- All data has a property. -/
def All (property : Datum → Prop) (entries : Entries) : Prop :=
  ∀ path value, entries.find? path = some value → property value

section

variable {property : Datum → Prop} {entries : Entries}

theorem all_empty : empty.All property := by
  rintro path value ⟨⟩

theorem All.insert (all : entries.All property) (path : String) {value : Datum}
    (holds : property value) : (entries.insert path value).All property := by
  intro sought other found
  by_cases same : sought = path
  · subst same
    rw [find?_insert_self] at found
    exact Option.some.inj found ▸ holds
  · rw [find?_insert_of_ne entries same] at found
    exact all sought other found

theorem All.erase (all : entries.All property) (path : String) :
    (entries.erase path).All property := by
  intro sought other found
  by_cases same : sought = path
  · subst same
    simp at found
  · rw [find?_erase_of_ne entries same] at found
    exact all sought other found

theorem All.of_mem (all : entries.All property) {entry : String × Datum}
    (member : entry ∈ entries.toList) : property entry.2 :=
  all entry.1 entry.2 (Keyed.find?_of_mem entries.ordered member)

theorem all_foldl_insert (fields : List (String × Datum)) (all : entries.All property)
    (holds : ∀ field ∈ fields, property field.2) :
    (fields.foldl (fun kept field => kept.insert field.1 field.2) entries).All property := by
  induction fields generalizing entries with
  | nil => exact all
  | cons field fields ih =>
      exact ih (all.insert field.1 (holds field List.mem_cons_self)) fun other member =>
        holds other (List.mem_cons_of_mem _ member)

end

theorem toList_foldl_insert (fields : List (String × Datum)) (entries : Entries) :
    (fields.foldl (fun kept field => kept.insert field.1 field.2) entries).toList =
      fields.foldl (fun kept field => Keyed.insert field.1 field.2 kept) entries.toList := by
  induction fields generalizing entries with
  | nil => rfl
  | cons field fields ih => exact ih (entries.insert field.1 field.2)

end Entries
end ChatMacro
