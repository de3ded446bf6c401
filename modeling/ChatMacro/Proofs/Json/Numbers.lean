import ChatMacro.Json.Reader
import Mathlib

/-!
# Reading numbers

A number is read up to the first character that cannot belong to it.  So what follows a number in a
document is left as it is, and the digits of an integer are read back as that integer.
-/

namespace ChatMacro
namespace Json

/-- A text that does not go on with a number. -/
def Ended (rest : List Char) : Prop :=
  ∀ character tail, rest = character :: tail →
    character.isDigit = false ∧ character ≠ '.' ∧ character ≠ 'e' ∧ character ≠ 'E'

theorem ended_nil : Ended [] := by
  intro character tail empty
  cases empty

theorem ended_cons {character : Char} {tail : List Char}
    (apart : character.isDigit = false ∧ character ≠ '.' ∧ character ≠ 'e' ∧ character ≠ 'E') :
    Ended (character :: tail) := by
  intro other rest same
  cases same
  exact apart

/-! ## Numbers and what follows them -/

theorem spanDigits_append (text : List Char) {rest : List Char} (ended : Ended rest) :
    Numeral.spanDigits (text ++ rest) =
      ((Numeral.spanDigits text).1, (Numeral.spanDigits text).2 ++ rest) := by
  simp only [Numeral.spanDigits]
  induction text with
  | nil =>
      cases rest with
      | nil => rfl
      | cons character tail => simp [ended character tail rfl]
  | cons character tail ih =>
      cases digit : character.isDigit with
      | true => simpa [digit] using ih
      | false => simp [digit]

/-- The digits of an exponent after its sign. -/
def readExponentDigits (negative : Bool) : Reader Int := fun unsigned =>
  match Numeral.spanDigits unsigned with
  | ([], _) => none
  | (digits, rest) =>
      let value : Int := Numeral.valueOf digits
      some (if negative then -value else value, rest)

theorem readExponent_of_ne {character : Char} (noMinus : character ≠ '-')
    (noPlus : character ≠ '+') (text : List Char) :
    readExponent (character :: text) = readExponentDigits false (character :: text) := by
  unfold readExponent
  split
  next signed =>
    split at signed
    · next same => exact absurd (List.cons.inj same).1 noMinus
    · next same => exact absurd (List.cons.inj same).1 noPlus
    · cases signed
      rfl

theorem readShift_of_ne {character : Char} (notSmall : character ≠ 'e')
    (notLarge : character ≠ 'E') (text : List Char) :
    readShift (character :: text) = some (0, character :: text) := by
  simp [readShift, notSmall, notLarge]

theorem readNumber_of_ne {character : Char} (noMinus : character ≠ '-') (text : List Char) :
    readNumber (character :: text) = readUnsigned false (character :: text) := by
  simp [readNumber, noMinus]

theorem readExponentDigits_append {negative : Bool} {text tail rest : List Char} {exponent : Int}
    (ended : Ended rest) (read : readExponentDigits negative text = some (exponent, tail)) :
    readExponentDigits negative (text ++ rest) = some (exponent, tail ++ rest) := by
  unfold readExponentDigits at read ⊢
  rw [spanDigits_append text ended]
  cases spanned : Numeral.spanDigits text with
  | mk digits after =>
      rw [spanned] at read
      cases digits with
      | nil => exact absurd read (by simp)
      | cons digit digits =>
          simp only [Option.some.injEq, Prod.mk.injEq] at read ⊢
          exact ⟨read.1, by rw [read.2]⟩

theorem readExponent_append {text tail rest : List Char} {exponent : Int} (ended : Ended rest)
    (read : readExponent text = some (exponent, tail)) :
    readExponent (text ++ rest) = some (exponent, tail ++ rest) := by
  cases text with
  | nil => exact absurd read (by simp [readExponent, Numeral.spanDigits])
  | cons character after =>
      by_cases minus : character = '-'
      · subst minus
        exact readExponentDigits_append ended read
      · by_cases plus : character = '+'
        · subst plus
          exact readExponentDigits_append ended read
        · rw [readExponent_of_ne minus plus] at read
          rw [List.cons_append, readExponent_of_ne minus plus]
          exact readExponentDigits_append ended read

theorem readShift_append {text tail rest : List Char} {exponent : Int} (ended : Ended rest)
    (read : readShift text = some (exponent, tail)) :
    readShift (text ++ rest) = some (exponent, tail ++ rest) := by
  cases text with
  | nil =>
      cases read
      cases rest with
      | nil => rfl
      | cons character after =>
          obtain ⟨_, _, notSmall, notLarge⟩ := ended character after rfl
          exact readShift_of_ne notSmall notLarge after
  | cons character after =>
      by_cases small : character = 'e'
      · subst small
        exact readExponent_append ended read
      · by_cases large : character = 'E'
        · subst large
          exact readExponent_append ended read
        · rw [readShift_of_ne small large] at read
          cases read
          exact readShift_of_ne small large _

theorem readScaled_append {negative : Bool} {significand : Nat} {exponent : Int}
    {text tail rest : List Char} {json : Json} (ended : Ended rest)
    (read : readScaled negative significand exponent text = some (json, tail)) :
    readScaled negative significand exponent (text ++ rest) = some (json, tail ++ rest) := by
  unfold readScaled at read ⊢
  cases shifted : readShift text with
  | none => simp [shifted] at read
  | some shift =>
      obtain ⟨shift, after⟩ := shift
      rw [readShift_append ended shifted]
      simp only [shifted, Option.bind_eq_bind, Option.bind_some] at read ⊢
      cases scaled : scale? significand (exponent + shift) with
      | none => simp [scaled] at read
      | some value =>
          simp only [scaled, Option.bind_some, Option.pure_def, Option.some.injEq,
            Prod.mk.injEq] at read ⊢
          exact ⟨read.1, by rw [read.2]⟩

/-- Digits of an integer without a needless zero in front. -/
def Leading (digits : List Char) : Prop :=
  digits ≠ [] ∧ ∀ next more, digits ≠ '0' :: next :: more

/-- The fraction of a number after its point. -/
def readFraction (negative : Bool) (significand dropped : Nat) : Reader Json := fun text =>
  match Numeral.spanDigits text with
  | ([], _) => none
  | (fraction, rest) =>
      let (grown, used) := addFraction significand fraction
      readScaled negative grown ((dropped : Int) - used) rest

/-- A number after its whole digits, some of which may not fit 64 bits. -/
def readRest (negative : Bool) (significand dropped : Nat) : Reader Json := fun text =>
  match text with
  | '.' :: tail => readFraction negative significand dropped tail
  | 'e' :: _ => readScaled negative significand dropped text
  | 'E' :: _ => readScaled negative significand dropped text
  | _ =>
      if dropped = 0 then some (ofInteger negative significand, text)
      else readScaled negative significand dropped text

theorem readRest_of_ne {negative : Bool} {significand dropped : Nat} {character : Char}
    (noPoint : character ≠ '.') (notSmall : character ≠ 'e') (notLarge : character ≠ 'E')
    (tail : List Char) :
    readRest negative significand dropped (character :: tail) =
      if dropped = 0 then some (ofInteger negative significand, character :: tail)
      else readScaled negative significand dropped (character :: tail) := by
  simp [readRest, noPoint, notSmall, notLarge]

theorem readRest_of_ended {negative : Bool} {significand dropped : Nat} {text : List Char}
    (ended : Ended text) :
    readRest negative significand dropped text =
      if dropped = 0 then some (ofInteger negative significand, text)
      else readScaled negative significand dropped text := by
  cases text with
  | nil => rfl
  | cons character tail =>
      obtain ⟨_, noPoint, notSmall, notLarge⟩ := ended character tail rfl
      exact readRest_of_ne noPoint notSmall notLarge tail

/-- An unsigned number is read digits first. -/
theorem readUnsigned_of_span {negative : Bool} {text digits after : List Char}
    (spanned : Numeral.spanDigits text = (digits, after)) (leading : Leading digits) :
    readUnsigned negative text =
      readRest negative (addWhole 0 digits).1 (addWhole 0 digits).2 after := by
  unfold readUnsigned
  rw [spanned]
  split
  · next same => exact absurd (Prod.mk.inj same).1 leading.1
  · next same => exact absurd (Prod.mk.inj same).1 (leading.2 _ _)
  · next same =>
    cases same
    cases addWhole 0 digits
    rfl

theorem leading_of_readUnsigned {negative : Bool} {text tail : List Char} {json : Json}
    (read : readUnsigned negative text = some (json, tail)) :
    Leading (Numeral.spanDigits text).1 := by
  unfold readUnsigned at read
  split at read
  · exact absurd read (by simp)
  · exact absurd read (by simp)
  · next digits _ notEmpty noZero spanned =>
    rw [spanned]
    exact ⟨notEmpty, noZero⟩

theorem readFraction_append {negative : Bool} {significand dropped : Nat}
    {text tail rest : List Char} {json : Json} (ended : Ended rest)
    (read : readFraction negative significand dropped text = some (json, tail)) :
    readFraction negative significand dropped (text ++ rest) = some (json, tail ++ rest) := by
  unfold readFraction at read ⊢
  rw [spanDigits_append text ended]
  cases spanned : Numeral.spanDigits text with
  | mk digits after =>
      rw [spanned] at read
      cases digits with
      | nil => exact absurd read (by simp)
      | cons digit digits => exact readScaled_append ended read

theorem readRest_append {negative : Bool} {significand dropped : Nat}
    {text tail rest : List Char} {json : Json} (ended : Ended rest)
    (read : readRest negative significand dropped text = some (json, tail)) :
    readRest negative significand dropped (text ++ rest) = some (json, tail ++ rest) := by
  have plain (after : List Char)
      (found : (if dropped = 0 then some (ofInteger negative significand, after)
        else readScaled negative significand dropped after) = some (json, tail)) :
      (if dropped = 0 then some (ofInteger negative significand, after ++ rest)
        else readScaled negative significand dropped (after ++ rest)) =
          some (json, tail ++ rest) := by
    split at found
    · next whole =>
      cases found
      rw [if_pos whole]
    · next tooLong =>
      rw [if_neg tooLong]
      exact readScaled_append ended found
  cases text with
  | nil =>
      rw [List.nil_append, readRest_of_ended ended]
      exact plain [] read
  | cons character after =>
      by_cases point : character = '.'
      · subst point
        exact readFraction_append ended read
      · by_cases small : character = 'e'
        · subst small
          exact readScaled_append ended read
        · by_cases large : character = 'E'
          · subst large
            exact readScaled_append ended read
          · rw [readRest_of_ne point small large] at read
            rw [List.cons_append, readRest_of_ne point small large]
            exact plain (character :: after) read

/-- A number stays the same in front of a text that does not go on with it. -/
theorem readUnsigned_append {negative : Bool} {text tail rest : List Char} {json : Json}
    (ended : Ended rest) (read : readUnsigned negative text = some (json, tail)) :
    readUnsigned negative (text ++ rest) = some (json, tail ++ rest) := by
  have leading := leading_of_readUnsigned read
  rw [readUnsigned_of_span rfl leading] at read
  rw [readUnsigned_of_span (spanDigits_append text ended) leading]
  exact readRest_append ended read

theorem readNumber_append {text tail rest : List Char} {json : Json} (ended : Ended rest)
    (read : readNumber text = some (json, tail)) :
    readNumber (text ++ rest) = some (json, tail ++ rest) := by
  cases text with
  | nil => exact absurd read (by simp [readNumber, readUnsigned, Numeral.spanDigits])
  | cons character after =>
      by_cases minus : character = '-'
      · subst minus
        exact readUnsigned_append ended read
      · rw [readNumber_of_ne minus] at read
        rw [List.cons_append, readNumber_of_ne minus]
        exact readUnsigned_append ended read

/-! ## Integers -/

theorem valueOf_toDigits (number : Nat) :
    Numeral.valueOf (Numeral.digitsOf number) = number := by
  have value := Nat.ofDigitChars_ten_toDigits (n := number)
  rwa [Nat.ofDigitChars_eq_foldl] at value

theorem spanDigits_of_digits {digits : List Char}
    (all : ∀ digit ∈ digits, digit.isDigit = true) : Numeral.spanDigits digits = (digits, []) := by
  simp only [Numeral.spanDigits, Prod.mk.injEq]
  induction digits with
  | nil => simp
  | cons digit digits ih =>
      have digit_eq := all digit List.mem_cons_self
      simpa [digit_eq] using ih fun other member => all other (List.mem_cons_of_mem _ member)

theorem spanDigits_digitsOf (number : Nat) :
    Numeral.spanDigits (Numeral.digitsOf number) = (Numeral.digitsOf number, []) :=
  spanDigits_of_digits fun _ member => Nat.isDigit_of_mem_toDigits (by decide) (by decide) member

/-- The numeral of a positive number does not start with a zero. -/
theorem digitsOf_ne_zero_cons {number : Nat} (positive : 0 < number) (more : List Char) :
    Numeral.digitsOf number ≠ '0' :: more := by
  induction number using Nat.strongRecOn generalizing more with
  | ind number ih =>
      unfold Numeral.digitsOf at ih ⊢
      rw [Nat.toDigits_eq_if (by decide)]
      split
      · next small =>
        intro zero
        have digit := (List.cons.inj zero).1
        rw [Nat.digitChar_eq_zero] at digit
        omega
      · next large =>
        intro zero
        cases front : Nat.toDigits 10 (number / 10) with
        | nil => exact Nat.toDigits_ne_nil front
        | cons digit digits =>
            rw [front, List.cons_append] at zero
            have digit_eq := (List.cons.inj zero).1
            subst digit_eq
            exact ih (number / 10) (by omega) (by omega) digits front

theorem leading_digitsOf (number : Nat) : Leading (Numeral.digitsOf number) := by
  refine ⟨Nat.toDigits_ne_nil, ?_⟩
  intro next more zero
  rcases Nat.eq_zero_or_pos number with rfl | positive
  · exact absurd zero (by simp [Numeral.digitsOf, Nat.toDigits_zero])
  · exact digitsOf_ne_zero_cons positive _ zero

theorem le_foldl_digits (digits : List Char) (significand : Nat) :
    significand ≤
      digits.foldl (fun value digit => 10 * value + Numeral.digitValue digit) significand := by
  induction digits generalizing significand with
  | nil => exact Nat.le_refl _
  | cons digit digits ih =>
      have grown := ih (10 * significand + Numeral.digitValue digit)
      simp only [List.foldl_cons]
      omega

theorem addWhole_of_le (digits : List Char) (significand : Nat)
    (fits : digits.foldl (fun value digit => 10 * value + Numeral.digitValue digit) significand ≤
      significandLimit) :
    addWhole significand digits =
      (digits.foldl (fun value digit => 10 * value + Numeral.digitValue digit) significand, 0) := by
  induction digits generalizing significand with
  | nil => rfl
  | cons digit digits ih =>
      have grown := le_foldl_digits digits (10 * significand + Numeral.digitValue digit)
      rw [List.foldl_cons] at fits ⊢
      rw [addWhole, if_pos (Nat.le_trans grown fits), ih _ fits]

theorem readUnsigned_digitsOf {number : Nat} (fits : number ≤ significandLimit) (negative : Bool)
    {rest : List Char} (ended : Ended rest) :
    readUnsigned negative (Numeral.digitsOf number ++ rest) =
      some (ofInteger negative number, rest) := by
  have spanned := spanDigits_append (Numeral.digitsOf number) ended
  rw [spanDigits_digitsOf] at spanned
  have value : (Numeral.digitsOf number).foldl
      (fun value digit => 10 * value + Numeral.digitValue digit) 0 = number :=
    valueOf_toDigits number
  have counted : addWhole 0 (Numeral.digitsOf number) = (number, 0) := by
    rw [addWhole_of_le _ _ (by rwa [value]), value]
  rw [readUnsigned_of_span spanned (leading_digitsOf number), counted]
  exact readRest_of_ended ended

/-- The digits of an integer that fits 64 bits are read back as this integer. -/
theorem readNumber_integerText {value : Int} (aboveLeast : -(2 ^ 63) ≤ value)
    (belowGreatest : value ≤ significandLimit) {rest : List Char} (ended : Ended rest) :
    readNumber (integerText value ++ rest) = some (integer value, rest) := by
  have limit : significandLimit = 2 ^ 64 - 1 := rfl
  unfold integerText Numeral.integerDigits
  split
  · next below =>
    have nonzero : value.natAbs ≠ 0 := by omega
    have above : ¬ Nat.pow 2 63 < value.natAbs := by
      change ¬ 2 ^ 63 < value.natAbs
      omega
    have value_eq : -(value.natAbs : Int) = value := by omega
    change readUnsigned true (Numeral.digitsOf value.natAbs ++ rest) = _
    rw [readUnsigned_digitsOf (by omega) true ended]
    simp only [ofInteger, nonzero, above, value_eq, Bool.not_true, Bool.false_eq_true, if_false,
      decide_false, Bool.or_self]
  · next notBelow =>
    have value_eq : (value.natAbs : Int) = value := by omega
    have fits : value.natAbs ≤ significandLimit := by omega
    have read := readUnsigned_digitsOf fits false ended
    cases digits : Numeral.digitsOf value.natAbs with
    | nil => exact absurd digits Nat.toDigits_ne_nil
    | cons digit more =>
        have member : digit ∈ Numeral.digitsOf value.natAbs := by
          rw [digits]
          exact List.mem_cons_self
        have digit_isDigit := Nat.isDigit_of_mem_toDigits (by decide) (by decide) member
        have noMinus : digit ≠ '-' := by
          intro minus
          rw [minus] at digit_isDigit
          exact absurd digit_isDigit (by decide)
        rw [digits] at read
        rw [List.cons_append, readNumber_of_ne noMinus, ← List.cons_append, read]
        simp [ofInteger, value_eq]

end Json
end ChatMacro
