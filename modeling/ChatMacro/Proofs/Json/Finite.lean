import ChatMacro.Proofs.Json.Numbers
import ChatMacro.Proofs.Number.Range

/-!
# Finite documents

A number that is out of range is refused, so a document that is read has finite numbers only.
Numerals with more digits than fit 64 bits are scaled by powers of ten, and these keep a number
finite.
-/

namespace ChatMacro
namespace Json

open Float.Model (totalExponent)

/-! ## Powers of ten -/

/-- Powers of ten with a long numeral are rounded, and stay at two or more. -/
theorem powerOfTen_long {exponent : Nat} (long : 22 < exponent) (listed : exponent < 308) :
    ∃ number, Binary.ofFloat? (powerOfTen exponent) = some number ∧ 0 < number.significand ∧
      2 ≤ totalExponent number.significand number.exponent := by
  have decimal : powerOfTen exponent = Float.ofScientific 1 false exponent := by
    have low : ¬ (400 : Int) < exponent := by omega
    have high : ¬ (exponent : Int) + Nat.log2 1 + 1 < -400 := by omega
    have unsigned : decide ((exponent : Int) < 0) = false := by simp
    simp only [powerOfTen, Decimal.toFloat, Nat.one_ne_zero, low, high, unsigned, if_false,
      Int.natAbs_natCast]
  have power_log2 : 1 ≤ (10 ^ exponent).log2 ∧ (10 ^ exponent).log2 < 1020 := by
    have nonzero : 10 ^ exponent ≠ 0 := Nat.ne_of_gt (Nat.pow_pos (by decide))
    refine ⟨(Nat.le_log2 nonzero).mpr ?_, (Nat.log2_lt nonzero).mpr ?_⟩
    · exact le_trans (by decide : 2 ^ 1 ≤ 10 ^ 1) (Nat.pow_le_pow_right (by decide) (by omega))
    · exact lt_of_le_of_lt (Nat.pow_le_pow_right (by decide) (Nat.le_of_lt_succ listed))
        (by decide +kernel : 10 ^ 307 < 2 ^ 1020)
  have product_log2 : (1 * 2 ^ 53 * 10 ^ exponent).log2 = (10 ^ exponent).log2 + 53 := by
    rw [Nat.one_mul, Nat.mul_comm]
    exact Packing.log2_mul_two_pow (Nat.pow_pos (by decide)) 53
  have total : totalExponent (1 * 2 ^ 53 * 10 ^ exponent) (-53) =
      ((10 ^ exponent).log2 : Int) + 1 := by
    rw [totalExponent, product_log2]
    omega
  have significant : 52 ≤ (1 * 2 ^ 53 * 10 ^ exponent).log2 := by omega
  have above : -1021 ≤ totalExponent (1 * 2 ^ 53 * 10 ^ exponent) (-53) := by omega
  obtain ⟨rounded, place, positive, rounded_eq, normal, place_ge, place_le⟩ :=
    Packing.roundWithAccuracy_normal significant above .positive .exact
  have unpacked_eq : Packing.unpacked (powerOfTen exponent) =
      .finite .positive rounded place positive := by
    rw [decimal, Packing.unpacked_ofScientific (by decide) (by omega) (by omega), rounded_eq,
      Packing.unpack_pack_normal .positive positive normal (by omega) (by omega)]
  refine ⟨⟨false, rounded, place⟩, ?_, positive, ?_⟩
  · rw [Packing.ofFloat?_eq_binary?, unpacked_eq]
    rfl
  · change 2 ≤ totalExponent rounded place
    rw [totalExponent, normal]
    omega

/-- The powers of ten that numbers are scaled by are at least two. -/
theorem powerOfTen_bounds {exponent : Nat} (positive : 0 < exponent) (listed : exponent ≤ 308) :
    ∃ number, Binary.ofFloat? (powerOfTen exponent) = some number ∧ 0 < number.significand ∧
      2 ≤ totalExponent number.significand number.exponent := by
  have short : ∀ exponent ∈ 308 :: List.range' 1 22, (Binary.ofFloat? (powerOfTen exponent)).any
      (fun number => decide (0 < number.significand) &&
        decide (2 ≤ totalExponent number.significand number.exponent)) = true := by
    decide +kernel
  by_cases long : 22 < exponent ∧ exponent < 308
  · exact powerOfTen_long long.1 long.2
  · have member : exponent ∈ 308 :: List.range' 1 22 := by
      simp only [List.mem_cons, List.mem_range'_1]
      omega
    obtain ⟨number, exact, bounds⟩ := (Option.any_eq_true _ _).mp (short exponent member)
    rw [Bool.and_eq_true, decide_eq_true_eq, decide_eq_true_eq] at bounds
    exact ⟨number, exact, bounds⟩

theorem isFinite_powerOfTen {exponent : Nat} (listed : exponent ≤ 308) :
    (powerOfTen exponent).isFinite = true := by
  rcases Nat.eq_zero_or_pos exponent with rfl | positive
  · rfl
  · obtain ⟨number, exact, _⟩ := powerOfTen_bounds positive listed
    rw [← Packing.ofFloat?_isSome, exact]
    rfl

/-- Dividing by a power of ten keeps a number finite. -/
theorem isFinite_div_powerOfTen {value : Float} (finite : value.isFinite = true) {exponent : Nat}
    (positive : 0 < exponent) (listed : exponent ≤ 308) :
    (value / powerOfTen exponent).isFinite = true := by
  obtain ⟨number, exact, significant, large⟩ := powerOfTen_bounds positive listed
  exact Packing.isFinite_div finite exact significant large

/-- What is scaled without being refused is finite. -/
theorem isFinite_of_scale? {significand : Nat} (bounded : significand ≤ significandLimit)
    {exponent : Int} {value : Float} (scaled : scale? significand exponent = some value) :
    value.isFinite = true := by
  have finite : (Float.ofNat significand).isFinite = true :=
    Packing.isFinite_ofNat (Nat.lt_of_le_of_lt bounded (by decide))
  unfold scale? at scaled
  dsimp only at scaled
  split_ifs at scaled with zero tooGreat whole infinite single double
  · cases scaled
    exact finite
  · cases scaled
    exact Packing.isFinite_mul finite (isFinite_powerOfTen (by omega))
      (Bool.not_eq_true _ ▸ infinite)
  · cases scaled
    exact isFinite_div_powerOfTen finite (by omega) (by omega)
  · cases scaled
    exact isFinite_div_powerOfTen (isFinite_div_powerOfTen finite (by decide) (by decide))
      (by omega) (by omega)
  · cases scaled
    rfl

/-! ## Numbers -/

/-- Every number of a document is finite, and its integers fit 64 bits. -/
inductive Finite : Json → Prop where
  | null : Finite null
  | bool (value : Bool) : Finite (bool value)
  | integer {value : Int} (bounded : value.natAbs ≤ significandLimit) : Finite (integer value)
  | real {value : Float} (finite : value.isFinite = true) : Finite (real value)
  | string (value : String) : Finite (string value)
  | array {items : List Json} (finite : ∀ item ∈ items, Finite item) : Finite (array items)
  | object {fields : List (String × Json)} (finite : ∀ field ∈ fields, Finite field.2) :
      Finite (object fields)

theorem addWhole_le {significand : Nat} (bounded : significand ≤ significandLimit)
    (digits : List Char) : (addWhole significand digits).1 ≤ significandLimit := by
  induction digits generalizing significand with
  | nil => exact bounded
  | cons digit digits ih =>
      rw [addWhole]
      split
      next fits => exact ih fits
      next => exact bounded

theorem addFraction_le {significand : Nat} (bounded : significand ≤ significandLimit)
    (digits : List Char) : (addFraction significand digits).1 ≤ significandLimit := by
  induction digits generalizing significand with
  | nil => exact bounded
  | cons digit digits ih =>
      rw [addFraction]
      split
      next fits => exact ih fits
      next => exact bounded

theorem finite_signedReal (negative : Bool) {value : Float} (finite : value.isFinite = true) :
    (signedReal negative value).Finite := by
  apply Finite.real
  cases negative with
  | false => exact finite
  | true => exact (Packing.isFinite_neg value).trans finite

section

variable {negative : Bool} {significand : Nat} (bounded : significand ≤ significandLimit)

include bounded

theorem finite_ofInteger : (ofInteger negative significand).Finite := by
  unfold ofInteger
  split_ifs
  · exact .integer bounded
  · exact finite_signedReal true (Packing.isFinite_ofNat (Nat.lt_of_le_of_lt bounded (by decide)))
  · apply Finite.integer
    rwa [Int.natAbs_neg]

variable {text rest : List Char} {json : Json}

theorem finite_of_readScaled {exponent : Int}
    (read : readScaled negative significand exponent text = some (json, rest)) : json.Finite := by
  obtain ⟨⟨shift, after⟩, _, scaledRead⟩ := Option.bind_eq_some_iff.mp read
  obtain ⟨value, scaled, made⟩ := Option.bind_eq_some_iff.mp scaledRead
  cases made
  exact finite_signedReal negative (isFinite_of_scale? bounded scaled)

theorem finite_of_readFraction {dropped : Nat}
    (read : readFraction negative significand dropped text = some (json, rest)) :
    json.Finite := by
  unfold readFraction at read
  split at read
  · cases read
  · exact finite_of_readScaled (addFraction_le bounded _) read

theorem finite_of_readRest {dropped : Nat}
    (read : readRest negative significand dropped text = some (json, rest)) : json.Finite := by
  unfold readRest at read
  split at read
  · exact finite_of_readFraction bounded read
  · exact finite_of_readScaled bounded read
  · exact finite_of_readScaled bounded read
  · split at read
    · cases read
      exact finite_ofInteger bounded
    · exact finite_of_readScaled bounded read

end

section

variable {text rest : List Char} {json : Json}

theorem finite_of_readUnsigned {negative : Bool}
    (read : readUnsigned negative text = some (json, rest)) : json.Finite := by
  rw [readUnsigned_of_span rfl (leading_of_readUnsigned read)] at read
  exact finite_of_readRest (addWhole_le (Nat.zero_le _) _) read

theorem finite_of_readNumber (read : readNumber text = some (json, rest)) : json.Finite := by
  unfold readNumber at read
  split at read
  · exact finite_of_readUnsigned read
  · exact finite_of_readUnsigned read

/-! ## Values with parts -/

/-- Everything that a reader reads is finite. -/
def ReadsFinite (item : Reader Json) : Prop :=
  ∀ {text rest : List Char} {json : Json}, item text = some (json, rest) → json.Finite

variable {item : Reader Json} (readsFinite : ReadsFinite item)

include readsFinite

theorem finite_of_readItems {limit : Nat} {items : List Json}
    (read : readItems item limit text = some (items, rest)) : ∀ part ∈ items, part.Finite := by
  induction limit generalizing text items rest with
  | zero => cases read
  | succ limit ih =>
      obtain ⟨⟨value, afterValue⟩, valueRead, followed⟩ := Option.bind_eq_some_iff.mp read
      obtain ⟨⟨more, afterMore⟩, _, itemsRead⟩ := Option.bind_eq_some_iff.mp followed
      have valueFinite := readsFinite valueRead
      cases more with
      | false =>
          cases itemsRead
          exact List.forall_mem_singleton.mpr valueFinite
      | true =>
          obtain ⟨⟨values, afterValues⟩, valuesRead, made⟩ := Option.bind_eq_some_iff.mp itemsRead
          cases made
          exact List.forall_mem_cons.mpr ⟨valueFinite, ih valuesRead⟩

theorem finite_of_readField {field : String × Json}
    (read : readField item text = some (field, rest)) : field.2.Finite := by
  unfold readField at read
  split at read
  · obtain ⟨⟨name, afterName⟩, _, named⟩ := Option.bind_eq_some_iff.mp read
    dsimp only at named
    split at named
    · obtain ⟨⟨value, afterValue⟩, valueRead, made⟩ := Option.bind_eq_some_iff.mp named
      cases made
      exact readsFinite valueRead
    · cases named
  · cases read

theorem finite_of_readFields {limit : Nat} {fields : List (String × Json)}
    (read : readFields item limit text = some (fields, rest)) :
    ∀ field ∈ fields, field.2.Finite := by
  induction limit generalizing text fields rest with
  | zero => cases read
  | succ limit ih =>
      obtain ⟨⟨field, afterField⟩, fieldRead, followed⟩ := Option.bind_eq_some_iff.mp read
      obtain ⟨⟨more, afterMore⟩, _, fieldsRead⟩ := Option.bind_eq_some_iff.mp followed
      have fieldFinite := finite_of_readField readsFinite fieldRead
      cases more with
      | false =>
          cases fieldsRead
          exact List.forall_mem_singleton.mpr fieldFinite
      | true =>
          obtain ⟨⟨others, afterOthers⟩, othersRead, made⟩ := Option.bind_eq_some_iff.mp fieldsRead
          cases made
          exact List.forall_mem_cons.mpr ⟨fieldFinite, ih othersRead⟩

theorem finite_of_readArray (read : readArray item text = some (json, rest)) : json.Finite := by
  unfold readArray at read
  split at read
  · cases read
    exact .array (List.forall_mem_nil _)
  · obtain ⟨⟨items, after⟩, itemsRead, made⟩ := Option.map_eq_some_iff.mp read
    cases made
    exact .array (finite_of_readItems readsFinite itemsRead)

theorem finite_of_readObject (read : readObject item text = some (json, rest)) : json.Finite := by
  unfold readObject at read
  split at read
  · cases read
    exact .object (List.forall_mem_nil _)
  · obtain ⟨⟨fields, after⟩, fieldsRead, made⟩ := Option.map_eq_some_iff.mp read
    cases made
    have finite := finite_of_readFields readsFinite fieldsRead
    exact .object fun field member => finite field (Keyed.mem_of_mem_ofList member)

end

theorem readsFinite_readWith {inner : Option (Reader Json)}
    (readsFinite : ∀ item, inner = some item → ReadsFinite item) :
    ReadsFinite (readWith inner) := by
  intro text rest json read
  unfold readWith at read
  split at read
  · cases read
    exact .null
  · cases read
    exact .bool true
  · cases read
    exact .bool false
  · obtain ⟨⟨value, after⟩, _, made⟩ := Option.map_eq_some_iff.mp read
    cases made
    exact .string _
  · obtain ⟨item, found, arrayRead⟩ := Option.bind_eq_some_iff.mp read
    exact finite_of_readArray (readsFinite item found) arrayRead
  · obtain ⟨item, found, objectRead⟩ := Option.bind_eq_some_iff.mp read
    exact finite_of_readObject (readsFinite item found) objectRead
  · exact finite_of_readNumber read

theorem readsFinite_readLevels (levels : Nat) : ReadsFinite (readLevels levels) := by
  induction levels with
  | zero => exact readsFinite_readWith (by simp)
  | succ levels ih =>
      apply readsFinite_readWith
      intro item found
      cases found
      exact ih

/-- A document that is read is finite. -/
theorem finite_of_parse? {text : List Char} {json : Json} (parsed : parse? text = some json) :
    json.Finite := by
  unfold parse? at parsed
  split at parsed
  · next document rest read =>
    split at parsed
    · cases parsed
      exact readsFinite_readLevels maxLevels read
    · cases parsed
  · cases parsed

end Json
end ChatMacro
