import ChatMacro.Proofs.Json.Reading
import ChatMacro.Proofs.Number.Whole
import ChatMacro.Proofs.Store.SetFree

/-!
# Written documents

The text of a store file is decoded to the entries that it was written for.  Zero loses its sign on
the way, because whole numbers are written as integers.
-/

namespace ChatMacro

/-! ## Data with one sign for zero -/

/-- An element with one sign for zero. -/
def Atom.plainZero : Atom → Atom
  | text value => .text value
  | number value => .number (Number.plainZero value)

theorem Atom.plainZero_plainZero (atom : Atom) : atom.plainZero.plainZero = atom.plainZero := by
  cases atom with
  | text value => rfl
  | number value => exact congrArg number (Number.plainZero_plainZero value)

namespace Datum

/-- Data with one sign for zero. -/
def plainZero : Datum → Datum
  | text value => .text value
  | number value => .number (Number.plainZero value)
  | sequence items => .sequence (items.map Atom.plainZero)
  | set items => .set (items.map Atom.plainZero)

theorem plainZero_plainZero (value : Datum) : value.plainZero.plainZero = value.plainZero := by
  cases value with
  | text value => rfl
  | number value => exact congrArg number (Number.plainZero_plainZero value)
  | sequence items => simp [plainZero, Atom.plainZero_plainZero]
  | set items => simp [plainZero, Atom.plainZero_plainZero]

theorem kind_plainZero (value : Datum) : value.plainZero.kind = value.kind := by
  cases value <;> rfl

end Datum

namespace Entries

/-- Entries with one sign for zero. -/
def plainZero (entries : Entries) : Entries :=
  ⟨Keyed.mapValues Datum.plainZero entries.toList, entries.ordered.mapValues _⟩

theorem find?_plainZero (entries : Entries) (path : String) :
    entries.plainZero.find? path = (entries.find? path).map Datum.plainZero :=
  Keyed.find?_mapValues Datum.plainZero path entries.toList

theorem plainZero_insert (entries : Entries) (path : String) (value : Datum) :
    (entries.insert path value).plainZero = entries.plainZero.insert path value.plainZero :=
  ext (Keyed.insert_mapValues Datum.plainZero path value entries.toList).symm

theorem plainZero_erase (entries : Entries) (path : String) :
    (entries.erase path).plainZero = entries.plainZero.erase path :=
  ext (Keyed.erase_mapValues Datum.plainZero path entries.toList).symm

theorem plainZero_plainZero (entries : Entries) :
    entries.plainZero.plainZero = entries.plainZero := by
  apply ext
  simp [plainZero, Keyed.mapValues, Datum.plainZero_plainZero]

end Entries

/-! ## Numbers -/

namespace Document

/-- A number is written as an integer, or as a real that is not zero. -/
theorem ofNumber_cases {path : String} {value : Float} {json : Json}
    (written : ofNumber path value = .ok json) :
    (∃ number, Binary.ofFloat? value = some number ∧ number.fraction = 0 ∧
        number.whole < 2 ^ 53 ∧
        json = .integer (if number.negative then -(number.whole : Int) else number.whole)) ∨
      (json = .real value ∧ (value == 0.0) = false) := by
  unfold ofNumber at written
  cases represented : Binary.ofFloat? value with
  | none =>
      rw [represented] at written
      exact absurd written (by simp)
  | some number =>
      rw [represented] at written
      dsimp only at written
      split at written
      · next whole =>
        cases written
        rw [Bool.and_eq_true, decide_eq_true_iff, decide_eq_true_iff] at whole
        exact .inl ⟨number, rfl, whole.1, whole.2, rfl⟩
      · next real =>
        cases written
        refine .inr ⟨rfl, ?_⟩
        have nonzero : number.significand ≠ 0 := by
          intro zero
          apply real
          simp [Binary.fraction, Binary.whole, zero]
        simp [Packing.beq_zero_of_ofFloat? represented, nonzero]

/-- Exactly the finite numbers have a place in a file. -/
theorem ofNumber_isOk (path : String) (value : Float) :
    (ofNumber path value).isOk = value.isFinite := by
  rw [← Packing.ofFloat?_isSome]
  unfold ofNumber
  cases Binary.ofFloat? value with
  | none => rfl
  | some number =>
      dsimp only
      split <;> rfl

/-- A number is legible if its text is read back wherever it is written as a real. -/
def Legible (value : Float) : Prop :=
  ∀ path, ofNumber path value = .ok (.real value) →
    Json.parse? (Json.realText value) = some (.real value)

/-- Zeros are never written as reals. -/
theorem legible_of_zero {value : Float} (zero : (value == 0.0) = true) : Legible value := by
  intro path written
  rcases ofNumber_cases written with ⟨number, _, _, _, integer⟩ | ⟨_, nonzero⟩
  · cases integer
  · exact absurd (zero.symm.trans nonzero) (by decide)

/-- What is not finite is never written at all. -/
theorem legible_of_not_finite {value : Float} (notFinite : value.isFinite = false) :
    Legible value := by
  intro path written
  have refused := ofNumber_isOk path value
  rw [written, notFinite] at refused
  cases refused

theorem legible_plainZero {value : Float} (legible : Legible value) :
    Legible (Number.plainZero value) := by
  by_cases zero : (value == 0.0) = true
  · simp only [Number.plainZero, zero, if_true]
    exact legible_of_zero (by rfl)
  · simpa only [Number.plainZero, zero, if_false, Bool.false_eq_true] using legible

theorem toAtom_ofNumber {path : String} {value : Float} {json : Json}
    (written : ofNumber path value = .ok json) :
    toAtom path json = .ok (.number (Number.plainZero value)) := by
  rcases ofNumber_cases written with
    ⟨number, represented, noFraction, small, rfl⟩ | ⟨rfl, nonzero⟩
  · simp only [toAtom, Number.ofInt_of_whole represented noFraction small]
  · simp [toAtom, Number.plainZero, nonzero]

theorem toDatum_ofNumber {path : String} {value : Float} {json : Json}
    (written : ofNumber path value = .ok json) :
    toDatum path json = .ok (.number (Number.plainZero value)) := by
  rcases ofNumber_cases written with
    ⟨number, represented, noFraction, small, rfl⟩ | ⟨rfl, nonzero⟩
  · simp only [toDatum, Number.ofInt_of_whole represented noFraction small]
  · simp [toDatum, Number.plainZero, nonzero]

/-- What is written for a legible number is read back. -/
theorem readsBack_ofNumber {path : String} {value : Float} {json : Json} (levels : Nat)
    (written : ofNumber path value = .ok json) (legible : Legible value) :
    json.ReadsBack levels := by
  rcases ofNumber_cases written with ⟨number, _, _, small, rfl⟩ | ⟨rfl, _⟩
  · have limit : Json.significandLimit = 2 ^ 64 - 1 := rfl
    apply Json.readsBack_integer
    · split <;> omega
    · split <;> omega
  · exact Json.readsBack_real levels (legible path written)

end Document

/-! ## Data -/

/-- The numbers in an element. -/
def Atom.numbers : Atom → List Float
  | text _ => []
  | number value => [value]

namespace Datum

/-- The numbers in data. -/
def numbers : Datum → List Float
  | text _ => []
  | number value => [value]
  | sequence items | set items => items.flatMap Atom.numbers

/-- All numbers in data are legible. -/
def Legible (value : Datum) : Prop :=
  ∀ number ∈ value.numbers, Document.Legible number

theorem Legible.plainZero {value : Datum} (legible : value.Legible) : value.plainZero.Legible := by
  have items_legible {items : List Atom}
      (itemsLegible : ∀ number ∈ items.flatMap Atom.numbers, Document.Legible number) :
      ∀ number ∈ (items.map Atom.plainZero).flatMap Atom.numbers, Document.Legible number := by
    intro number member
    obtain ⟨atom, atomMember, numberMember⟩ := List.mem_flatMap.mp member
    obtain ⟨former, formerMember, rfl⟩ := List.mem_map.mp atomMember
    cases former with
    | text value => simp [Atom.plainZero, Atom.numbers] at numberMember
    | number value =>
        rw [List.mem_singleton.mp numberMember]
        exact Document.legible_plainZero
          (itemsLegible value (List.mem_flatMap.mpr ⟨_, formerMember, List.mem_cons_self⟩))
  cases value with
  | text value => exact legible
  | number value =>
      intro number member
      rw [List.mem_singleton.mp member]
      exact Document.legible_plainZero (legible value List.mem_cons_self)
  | sequence items => exact items_legible legible
  | set items => exact items_legible legible

end Datum

namespace Document

theorem toAtom_ofAtom {path : String} {atom : Atom} {json : Json}
    (written : ofAtom path atom = .ok json) : toAtom path json = .ok atom.plainZero := by
  cases atom with
  | text value =>
      cases written
      rfl
  | number value => exact toAtom_ofNumber written

theorem readsBack_ofAtom {path : String} {atom : Atom} {json : Json} (levels : Nat)
    (written : ofAtom path atom = .ok json) (legible : ∀ number ∈ atom.numbers, Legible number) :
    json.ReadsBack levels := by
  cases atom with
  | text value =>
      cases written
      exact Json.readsBack_string levels value
  | number value => exact readsBack_ofNumber levels written (legible value List.mem_cons_self)

theorem mapM_toAtom_of_mapM_ofAtom {path : String} {atoms : List Atom} {values : List Json}
    (written : atoms.mapM (ofAtom path) = .ok values) :
    values.mapM (toAtom path) = .ok (atoms.map Atom.plainZero) := by
  induction atoms generalizing values with
  | nil =>
      cases written
      rfl
  | cons atom atoms ih =>
      obtain ⟨head, tail, headWritten, tailWritten, rfl⟩ :=
        Outcome.exists_of_mapM_cons_eq_ok written
      rw [List.mapM_cons, toAtom_ofAtom headWritten, ih tailWritten]
      rfl

/-- Data that is no set is read from what is written for it. -/
theorem toDatum_ofDatum {path : String} {value : Datum} {json : Json}
    (noSet : value.kind ≠ .set) (written : ofDatum path value = .ok json) :
    toDatum path json = .ok value.plainZero := by
  cases value with
  | text text =>
      cases written
      rfl
  | number number => exact toDatum_ofNumber written
  | sequence items =>
      obtain ⟨values, itemsWritten, made⟩ := Outcome.exists_of_bind_eq_ok written
      cases made
      simp only [toDatum, mapM_toAtom_of_mapM_ofAtom itemsWritten]
      rfl
  | set items => exact absurd rfl noSet

theorem readsBack_ofDatum {path : String} {value : Datum} {json : Json} (levels : Nat)
    (written : ofDatum path value = .ok json) (legible : value.Legible) :
    json.ReadsBack (levels + 1) := by
  have items_readBack {items : List Atom} {values : List Json}
      (itemsLegible : ∀ number ∈ items.flatMap Atom.numbers, Legible number)
      (itemsWritten : items.mapM (ofAtom path) = .ok values) :
      (Json.array values).ReadsBack (levels + 1) := by
    apply Json.readsBack_array
    intro part member
    obtain ⟨atom, atomMember, atomWritten⟩ :=
      Outcome.exists_of_mem_of_mapM_eq_ok itemsWritten member
    exact readsBack_ofAtom levels atomWritten fun number numberMember =>
      itemsLegible number (List.mem_flatMap.mpr ⟨atom, atomMember, numberMember⟩)
  cases value with
  | text text =>
      cases written
      exact Json.readsBack_string _ text
  | number number => exact readsBack_ofNumber _ written (legible number List.mem_cons_self)
  | sequence items =>
      obtain ⟨values, itemsWritten, made⟩ := Outcome.exists_of_bind_eq_ok written
      cases made
      exact items_readBack legible itemsWritten
  | set items =>
      obtain ⟨values, itemsWritten, made⟩ := Outcome.exists_of_bind_eq_ok written
      cases made
      exact items_readBack legible itemsWritten

/-! ## Entries -/

theorem toEntry_ofEntry {entry : String × Datum} {field : String × Json}
    (noSet : entry.2.kind ≠ .set) (written : ofEntry entry = .ok field) :
    field.1 = entry.1 ∧ toEntry field = .ok (entry.1, entry.2.plainZero) := by
  obtain ⟨value, valueWritten, made⟩ := Outcome.exists_of_bind_eq_ok written
  cases made
  refine ⟨rfl, ?_⟩
  simp only [toEntry, toDatum_ofDatum noSet valueWritten]
  rfl

theorem mapM_toEntry_of_mapM_ofEntry {entries : List (String × Datum)}
    {fields : List (String × Json)} (noSets : ∀ entry ∈ entries, entry.2.kind ≠ .set)
    (written : entries.mapM ofEntry = .ok fields) :
    fields.map (·.1) = entries.map (·.1) ∧
      fields.mapM toEntry = .ok (Keyed.mapValues Datum.plainZero entries) := by
  induction entries generalizing fields with
  | nil =>
      cases written
      exact ⟨rfl, rfl⟩
  | cons entry entries ih =>
      obtain ⟨head, tail, headWritten, tailWritten, rfl⟩ :=
        Outcome.exists_of_mapM_cons_eq_ok written
      obtain ⟨path_eq, headRead⟩ := toEntry_ofEntry (noSets entry List.mem_cons_self) headWritten
      obtain ⟨paths_eq, tailRead⟩ := ih (fun other member =>
        noSets other (List.mem_cons_of_mem _ member)) tailWritten
      refine ⟨by rw [List.map_cons, List.map_cons, path_eq, paths_eq], ?_⟩
      rw [List.mapM_cons, headRead, tailRead]
      rfl

/-- The document that is written for entries decodes to these entries. -/
theorem decode_of_encode {entries : Entries} {text : String} (free : entries.SetFree)
    (legible : entries.All Datum.Legible) (encoded : encode entries = .ok text) :
    decode text = .ok entries.plainZero := by
  obtain ⟨fields, written, made⟩ := Outcome.exists_of_bind_eq_ok encoded
  cases made
  obtain ⟨paths_eq, read⟩ := mapM_toEntry_of_mapM_ofEntry (fun entry member => free.of_mem member)
    written
  have ordered : Keyed.Ordered fields := by
    have paths := List.pairwise_map.mpr entries.ordered
    rw [← paths_eq] at paths
    exact List.pairwise_map.mp paths
  have readsBack : ∀ field ∈ fields, field.2.ReadsBack 126 := by
    intro field member
    obtain ⟨entry, entryMember, entryWritten⟩ := Outcome.exists_of_mem_of_mapM_eq_ok written member
    obtain ⟨value, valueWritten, made⟩ := Outcome.exists_of_bind_eq_ok entryWritten
    cases made
    exact readsBack_ofDatum 125 valueWritten (legible.of_mem entryMember)
  have parsed := Json.parse?_pretty (Json.readsBack_object ordered readsBack)
  have sorted := Keyed.ofList_of_ordered (entries.ordered.mapValues Datum.plainZero)
  unfold decode
  rw [String.toList_ofList, parsed]
  simp only [read]
  refine congrArg Except.ok (Entries.ext ?_)
  rw [Entries.toList_foldl_insert]
  exact sorted

end Document
end ChatMacro
