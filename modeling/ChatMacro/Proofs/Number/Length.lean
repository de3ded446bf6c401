import ChatMacro.Number.Numeral
import ChatMacro.Proofs.Number.Packing

/-!
# Lengths of numerals

Outputs write numbers without exponents, so the text of a number is as long as its decimal has
digits and zeros.  Doubles are neither so great nor so small that many of them are needed.
-/

namespace ChatMacro

theorem Binary.bounds_of_ofFloat? {value : Float} {number : Binary}
    (exact : Binary.ofFloat? value = some number) :
    number.significand < 2 ^ 53 ∧ -1074 ≤ number.exponent ∧ number.exponent ≤ 971 := by
  rw [ofFloat?_eq] at exact
  have biasedBelow : value.toBits.toNat / 2 ^ 52 % 2 ^ 11 < 2 ^ 11 := Nat.mod_lt _ (by decide)
  have fractionBelow : value.toBits.toNat % 2 ^ 52 < 2 ^ 52 := Nat.mod_lt _ (by decide)
  split_ifs at exact with full subnormal <;> cases exact <;> dsimp only <;> omega

/-- In units of its last binary place a magnitude has at most as many digits as this. -/
theorem Binary.numerator_lt {number : Binary} (significand_lt : number.significand < 2 ^ 53) :
    number.significand * Nat.pow 2 number.exponent.toNat < 2 ^ (53 + number.exponent.toNat) := by
  rw [Nat.pow_add]
  exact Nat.mul_lt_mul_of_pos_right significand_lt (Nat.two_pow_pos _)

namespace Numeral

theorem length_digitsOf_le {number places : Nat} (positive : 0 < places)
    (below : number < 10 ^ places) : (digitsOf number).length ≤ places :=
  Nat.toDigits_length 10 number places positive below

theorem length_integerDigits_le {number : Int} (places : Nat) (positive : 0 < places)
    (below : number.natAbs < 10 ^ places) : (integerDigits number).length ≤ places + 1 := by
  have digits_le := length_digitsOf_le positive below
  rw [integerDigits]
  split
  · exact Nat.succ_le_succ digits_le
  · exact Nat.le_succ_of_le digits_le

end Numeral

namespace Decimal

/-- A decimal whose digits and exponent stay within what doubles need. -/
structure IsNarrow (decimal : Decimal) : Prop where
  digits_le : (Numeral.digitsOf decimal.digits).length ≤ 2100
  exponent_ge : -1100 ≤ decimal.exponent
  exponent_le : decimal.exponent ≤ 400

theorem onGrid?_bounds {tie : Tie} {value : Float} {numerator denominator : Nat} {exponent : Int}
    {decimal : Decimal}
    (found : onGrid? tie value numerator denominator exponent = some decimal) :
    decimal.exponent = exponent ∧
      decimal.digits ≤ numerator * 10 ^ (-exponent).toNat + 1 := by
  have quotient_le : numerator * Nat.pow 10 (-exponent).toNat /
      (denominator * Nat.pow 10 exponent.toNat) ≤ numerator * 10 ^ (-exponent).toNat :=
    Nat.div_le_self _ _
  simp only [onGrid?] at found
  split at found
  · cases found
    split
    · exact ⟨rfl, Nat.le_succ_of_le quotient_le⟩
    · exact ⟨rfl, Nat.succ_le_succ quotient_le⟩
  · cases found
    exact ⟨rfl, Nat.le_succ_of_le quotient_le⟩
  · cases found
    exact ⟨rfl, Nat.succ_le_succ quotient_le⟩
  · cases found

/-- What a search over grids finds is narrow if its first and its last grid are. -/
theorem search_isNarrow {tie : Tie} {value : Float} {numerator denominator places : Nat}
    (numerator_lt : numerator < 10 ^ places) (few : places ≤ 1024) {decimal : Decimal}
    {grids : Nat} {first : Int} (low : -400 ≤ first - grids) (high : first ≤ 400)
    (found : search tie value numerator denominator grids first = some decimal) :
    decimal.IsNarrow := by
  induction grids generalizing first with
  | zero => cases found
  | succ grids ih =>
      simp only [search] at found
      split at found
      next other onGrid =>
        cases found
        obtain ⟨exponent_eq, digits_le⟩ := onGrid?_bounds onGrid
        have digits_lt : decimal.digits < 10 ^ (places + (-first).toNat + 1) :=
          calc decimal.digits ≤ numerator * 10 ^ (-first).toNat + 1 := digits_le
            _ ≤ numerator * 10 ^ (-first).toNat + 10 ^ (-first).toNat :=
              Nat.add_le_add_left (Nat.pow_pos (by decide)) _
            _ = (numerator + 1) * 10 ^ (-first).toNat := (Nat.succ_mul _ _).symm
            _ ≤ 10 ^ places * 10 ^ (-first).toNat := Nat.mul_le_mul_right _ numerator_lt
            _ = 10 ^ (places + (-first).toNat) := (Nat.pow_add _ _ _).symm
            _ < 10 ^ (places + (-first).toNat + 1) :=
              Nat.pow_lt_pow_right (by decide) (Nat.lt_succ_self _)
        have length_le := Numeral.length_digitsOf_le (Nat.succ_pos _) digits_lt
        exact ⟨by omega, by omega, by omega⟩
      next => exact ih (by omega) (by omega) found

section

variable {number : Binary} (significand_lt : number.significand < 2 ^ 53)
  (exponent_ge : -1074 ≤ number.exponent) (exponent_le : number.exponent ≤ 971)

include significand_lt exponent_ge exponent_le

theorem exact_isNarrow : (exact number).IsNarrow := by
  have places_eq : number.places = (-number.exponent).toNat := rfl
  have digits_lt : (exact number).digits < 10 ^ (53 + number.exponent.toNat + number.places) := by
    rw [Nat.pow_add]
    exact Nat.mul_lt_mul_of_lt_of_le
      ((Binary.numerator_lt significand_lt).trans_le (Nat.pow_le_pow_left (by decide) _))
      (Nat.pow_le_pow_left (by decide) _) (Nat.pow_pos (by decide))
  have length_le := Numeral.length_digitsOf_le (by omega) digits_lt
  have exponent_eq : (exact number).exponent = -(number.places : Int) := rfl
  exact ⟨by omega, by omega, by omega⟩

/-- The shortest decimals of doubles are narrow. -/
theorem shortest_isNarrow (tie : Tie) (value : Float) : (shortest tie value number).IsNarrow := by
  have places_eq : number.places = (-number.exponent).toNat := rfl
  have narrow := exact_isNarrow significand_lt exponent_ge exponent_le
  have numerator_lt := Binary.numerator_lt significand_lt
  have denominator_log2 : (Nat.pow 2 number.places).log2 = number.places := Nat.log2_two_pow
  simp only [shortest, denominator_log2]
  generalize number.significand * Nat.pow 2 number.exponent.toNat = numerator at numerator_lt ⊢
  have numerator_log2 : numerator.log2 < 53 + number.exponent.toNat := by
    by_cases zero : numerator = 0
    · simp [zero]
    · exact (Nat.log2_lt zero).mpr numerator_lt
  cases found : search tie value numerator (Nat.pow 2 number.places) 25
      (((numerator.log2 : Int) - number.places + 1) * 30103 / 100000 + 1) with
  | none => exact narrow
  | some decimal =>
      exact search_isNarrow (numerator_lt.trans_le (Nat.pow_le_pow_left (by decide) _)) (by omega)
        (by omega) (by omega) found

end

end Decimal

namespace Numeral

theorem length_pointed_le (layout : Layout) (digits : List Char) (place : Int) :
    (pointed layout digits place).length ≤ digits.length + place.natAbs + 2 := by
  rw [pointed]
  split_ifs <;> simp <;> omega

theorem length_ofDecimal_plain_le {decimal : Decimal} (narrow : decimal.IsNarrow) :
    (ofDecimal plain decimal).length ≤ 5000 := by
  have trimmed_le : ((digitsOf decimal.digits).reverse.dropWhile (· = '0')).reverse.length ≤
      (digitsOf decimal.digits).length := by
    rw [List.length_reverse]
    exact (List.length_dropWhile_le _ _).trans_eq (List.length_reverse)
  have pointed_le := length_pointed_le plain
    ((digitsOf decimal.digits).reverse.dropWhile (· = '0')).reverse
    (decimal.exponent + (digitsOf decimal.digits).length - 1 + 1)
  obtain ⟨digits_le, exponent_ge, exponent_le⟩ := narrow
  simp only [ofDecimal, plain, Option.all_none, Bool.and_self, if_true] at pointed_le ⊢
  omega

theorem length_write_plain_le {value : Float} {number : Binary}
    (exact : Binary.ofFloat? value = some number) : (write plain value).length ≤ 5001 := by
  obtain ⟨significand_lt, exponent_ge, exponent_le⟩ := Binary.bounds_of_ofFloat? exact
  have decimal_le := length_ofDecimal_plain_le <|
    Decimal.shortest_isNarrow significand_lt exponent_ge exponent_le plain.tie
      (Number.magnitude value)
  have front_le : (if number.negative then ['-'] else []).length ≤ 1 := by
    split <;> decide
  have digits_le : (if number.significand = 0 then
        if plain.pointZero then ['0', '.', '0'] else ['0']
      else ofDecimal plain
        (Decimal.shortest plain.tie (Number.magnitude value) number)).length ≤ 5000 := by
    split
    · decide
    · exact decimal_le
  rw [write, exact]
  simp only [String.length_ofList, List.length_append]
  exact Nat.add_le_add front_le digits_le

/-- The text of a number has at most some thousand characters. -/
theorem length_display_le (value : Float) : (display value).length ≤ 5001 := by
  rw [display]
  cases exact : Binary.ofFloat? value with
  | none =>
      dsimp only
      split_ifs <;> decide
  | some number =>
      dsimp only
      split
      next whole =>
        have whole_lt : number.whole < 10 ^ 15 := by
          simpa using (Bool.and_eq_true_iff.mp whole).2
        rw [String.length_ofList]
        refine (length_integerDigits_le 15 (by decide) ?_).trans (by decide)
        split <;> simpa using whole_lt
      next => exact length_write_plain_le exact

end Numeral
end ChatMacro
