import ChatMacro.Proofs.Json.Finite
import ChatMacro.Proofs.Store.Finite

/-!
# The round trip through a file

Entries without sets are encoded exactly if their numbers are finite, and decoded to themselves.
What is decoded has no sets and finite numbers only, so it can be encoded again, and the second
text holds the same entries as the first.
-/

namespace ChatMacro

/-! ## Decoded data is finite -/

namespace Document

variable {path : String} {json : Json}

theorem isFinite_of_toAtom {atom : Atom} (finite : json.Finite)
    (read : toAtom path json = .ok atom) : atom.isFinite = true := by
  cases finite with
  | string value =>
      cases read
      rfl
  | integer bounded =>
      cases read
      exact Packing.isFinite_ofInt (Nat.lt_of_le_of_lt bounded (by decide))
  | real valueFinite =>
      cases read
      exact valueFinite
  | _ => cases read

theorem isFinite_of_toDatum {value : Datum} (finite : json.Finite)
    (read : toDatum path json = .ok value) : value.isFinite = true := by
  cases finite with
  | string text =>
      cases read
      rfl
  | integer bounded =>
      cases read
      exact Packing.isFinite_ofInt (Nat.lt_of_le_of_lt bounded (by decide))
  | real numberFinite =>
      cases read
      exact numberFinite
  | array itemsFinite =>
      obtain ⟨atoms, mapped, made⟩ := Outcome.exists_of_bind_eq_ok read
      cases made
      refine List.all_eq_true.mpr fun atom member => ?_
      obtain ⟨item, itemMember, itemRead⟩ := Outcome.exists_of_mem_of_mapM_eq_ok mapped member
      exact isFinite_of_toAtom (itemsFinite item itemMember) itemRead
  | _ => cases read

theorem finite_decode {text : String} {entries : Entries} (decoded : decode text = .ok entries) :
    entries.Finite := by
  unfold decode at decoded
  split at decoded
  · cases decoded
  · next fields parsed =>
    obtain ⟨read, mapped, made⟩ := Outcome.exists_of_bind_eq_ok decoded
    cases made
    refine Entries.all_foldl_insert read Entries.all_empty ?_
    intro entry member
    obtain ⟨field, fieldMember, converted⟩ := Outcome.exists_of_mem_of_mapM_eq_ok mapped member
    obtain ⟨value, valued, made⟩ := Outcome.exists_of_bind_eq_ok converted
    cases made
    cases Json.finite_of_parse? parsed with
    | object finite => exact isFinite_of_toDatum (finite field fieldMember) valued
  · cases decoded

end Document

/-! ## Numbers that are not finite -/

namespace Datum

theorem isFinite_eq_all_numbers (value : Datum) :
    value.isFinite = value.numbers.all Float.isFinite := by
  have items_eq (items : List Atom) :
      items.all Atom.isFinite = (items.flatMap Atom.numbers).all Float.isFinite := by
    rw [List.all_flatMap]
    refine congrArg items.all (funext fun atom => ?_)
    cases atom with
    | text value => rfl
    | number value => exact (Bool.and_true _).symm
  cases value with
  | text text => rfl
  | number number => exact (Bool.and_true _).symm
  | sequence items => exact items_eq items
  | set items => exact items_eq items

theorem isFinite_eq_false_iff (value : Datum) :
    value.isFinite = false ↔ ∃ number ∈ value.numbers, number.isFinite = false := by
  rw [isFinite_eq_all_numbers, List.all_eq_false]
  simp only [Bool.not_eq_true]

end Datum

namespace Document

variable {entries : Entries}

theorem encode_of_finite (finite : entries.Finite) : ∃ text, encode entries = .ok text := by
  have encoded := entries.encode_isOk_iff.mpr finite
  cases outcome : encode entries with
  | error error =>
      rw [outcome] at encoded
      cases encoded
  | ok text => exact ⟨text, rfl⟩

/-- Some number is refused exactly if one is not finite. -/
theorem encode_fails_iff :
    (∃ error, encode entries = .error error) ↔
      ∃ path value, entries.find? path = some value ∧
        ∃ number ∈ value.numbers, number.isFinite = false := by
  constructor
  · rintro ⟨error, failed⟩
    by_contra allFinite
    have finite : entries.Finite := by
      intro path value found
      by_contra notFinite
      exact allFinite ⟨path, value, found,
        value.isFinite_eq_false_iff.mp (Bool.not_eq_true _ ▸ notFinite)⟩
    obtain ⟨text, encoded⟩ := encode_of_finite finite
    rw [failed] at encoded
    cases encoded
  · rintro ⟨path, value, found, number⟩
    cases outcome : encode entries with
    | error error => exact ⟨error, rfl⟩
    | ok text =>
        have finite := (entries.encode_isOk_iff.mp (by rw [outcome]; rfl)).find? found
        rw [value.isFinite_eq_false_iff.mpr number] at finite
        cases finite

/-- Finite entries without sets make a round trip through a text. -/
theorem exists_encode_decode (free : entries.SetFree) (finite : entries.Finite)
    (legible : entries.All Datum.Legible) :
    ∃ text, encode entries = .ok text ∧ decode text = .ok entries.plainZero := by
  obtain ⟨text, encoded⟩ := encode_of_finite finite
  exact ⟨text, encoded, decode_of_encode free legible encoded⟩

/-- Texts, finite numbers and sequences of them are decoded as they were encoded, up to the sign of
zero, and nothing is refused but numbers that are not finite.  What was decoded from any text is
encoded and decoded again to the same. -/
theorem round_trip :
    (∀ entries : Entries, entries.SetFree → entries.Finite → entries.All Datum.Legible →
      ∃ text, encode entries = .ok text ∧ decode text = .ok entries.plainZero) ∧
    (∀ entries : Entries, (∃ error, encode entries = .error error) ↔
      ∃ path value, entries.find? path = some value ∧
        ∃ number ∈ value.numbers, number.isFinite = false) ∧
    (∀ text entries, decode text = .ok entries → entries.All Datum.Legible →
      ∃ again, encode entries = .ok again ∧ decode again = .ok entries.plainZero) := by
  refine ⟨fun entries free finite legible => exists_encode_decode free finite legible,
    fun entries => encode_fails_iff, ?_⟩
  intro text entries decoded legible
  exact exists_encode_decode (setFree_decode decoded) (finite_decode decoded) legible

/-- A number with a fraction, and a sequence with an escaped text, a zero with a sign and a number
too great to be written as an integer. -/
def mixedEntries : Entries :=
  (Entries.empty.insert "a" (.number 2.5)).insert "b"
    (.sequence [.text "\"x\"\n", .number (-0.0), .number 1e16])

/-- Another text of these entries. -/
def mixedText : String :=
  "\x7b\"b\": [\"\\u0022x\\\"\\n\", -0, 1e16], \"a\": 25e-1\x7d"

theorem round_trip_mixed :
    (∃ text, encode mixedEntries = .ok text ∧ decode text = .ok mixedEntries.plainZero) ∧
      decode mixedText = .ok mixedEntries ∧
      ∃ again, encode mixedEntries = .ok again ∧ decode again = .ok mixedEntries.plainZero := by
  have fraction : (Datum.number 2.5).Legible := by
    intro number member
    cases List.mem_singleton.mp member
    exact fun _ _ => by rfl
  have sequence : (Datum.sequence
      [.text "\"x\"\n", .number (-0.0), .number 1e16]).Legible := by
    have numbers : ∀ number ∈ [-0.0, 1e16], Legible number :=
      List.forall_mem_cons.mpr
        ⟨legible_of_zero (by decide), List.forall_mem_singleton.mpr fun _ _ => by rfl⟩
    exact numbers
  have legible : mixedEntries.All Datum.Legible :=
    (Entries.all_empty.insert "a" fraction).insert "b" sequence
  have decoded : decode mixedText = .ok mixedEntries := by
    have found : (decode mixedText).toOption.map Entries.toList = some mixedEntries.toList := by
      decide +kernel
    cases outcome : decode mixedText with
    | error error =>
        rw [outcome] at found
        cases found
    | ok entries =>
        rw [outcome] at found
        exact congrArg Except.ok (Entries.ext (Option.some.inj found))
  obtain ⟨encodes, _, encodesAgain⟩ := round_trip
  exact ⟨encodes mixedEntries (setFree_decode decoded) (finite_decode decoded) legible, decoded,
    encodesAgain mixedText mixedEntries decoded legible⟩

end Document
end ChatMacro
