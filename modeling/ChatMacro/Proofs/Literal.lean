import ChatMacro.Literal
import ChatMacro.Proofs.Text.Trim

/-!
# Kinds of literals

The kind of a literal is read off its text before the literal is read.  The value that is read is of
that kind, since every numeral can be read as a number.
-/

namespace ChatMacro

namespace Numeral

variable {text digits rest : List Char} {digit : Char}

theorem toLower_of_isDigit (isDigit : digit.isDigit = true) : digit.toLower = digit := by
  have small : digit.toNat ≤ '9'.toNat := (Char.isDigit_iff_toNat.mp isDigit).2
  refine dif_neg ?_
  rintro ⟨large, -⟩
  exact absurd (Nat.le_trans large small) (by decide)

theorem isDigit_of_span (span : spanDigits text = (digit :: digits, rest)) :
    digit.isDigit = true := by
  have taken : text.takeWhile Char.isDigit = digit :: digits := congrArg Prod.fst span
  exact List.mem_takeWhile_imp (taken ▸ List.mem_cons_self)

theorem eq_of_span (span : spanDigits text = (digits, rest)) : text = digits ++ rest := by
  rw [← List.takeWhile_append_dropWhile (p := Char.isDigit) (l := text)]
  exact congrArg₂ _ (congrArg Prod.fst span) (congrArg Prod.snd span)

/-- A text that starts with a digit is no word, so its digits are read, with a fraction and an
exponent behind them. -/
theorem readUnsigned?_of_span (span : spanDigits text = (digit :: digits, rest)) :
    readUnsigned? text =
      let (fraction, afterFraction) := match rest with
        | '.' :: tail => spanDigits tail
        | _ => ([], rest)
      (readExponent? afterFraction).map (valueWith (digit :: digits) fraction) := by
  have noWord (first : Char) (word : List Char) (letter : first.isDigit = false) :
      text.map Char.toLower ≠ first :: word := by
    rw [eq_of_span span, List.cons_append, List.map_cons, toLower_of_isDigit (isDigit_of_span span)]
    intro same
    rw [← (List.cons.inj same).1, isDigit_of_span span] at letter
    cases letter
  simp only [readUnsigned?, noWord 'i' _ (by decide), noWord 'n' _ (by decide), span]
  rfl

/-- Whether a text is a numeral without sign. -/
def isUnsigned (text : List Char) : Bool :=
  match spanDigits text with
  | ([], _) => false
  | (_ :: _, []) => true
  | (_ :: _, '.' :: fraction) => !fraction.isEmpty && fraction.all Char.isDigit
  | (_ :: _, _ :: _) => false

theorem isNumeral_eq (text : List Char) :
    isNumeral text =
      isUnsigned (match text with
        | '-' :: tail => tail
        | _ => text) := rfl

theorem exists_readUnsigned? (unsigned : isUnsigned text = true) :
    ∃ value, readUnsigned? text = some value := by
  rw [isUnsigned] at unsigned
  split at unsigned
  next => cases unsigned
  next digit digits span => exact ⟨_, readUnsigned?_of_span span⟩
  next digit digits fraction span =>
    have all := List.all_eq_true.mp (Bool.and_eq_true_iff.mp unsigned).2
    have nothing : (spanDigits fraction).2 = [] := List.dropWhile_eq_nil_iff.mpr all
    rw [readUnsigned?_of_span span]
    exact ⟨_, congrArg (fun rest => (readExponent? rest).map (valueWith _ _)) nothing⟩
  next => cases unsigned

/-- Every numeral can be read as a number. -/
theorem exists_read?_of_isNumeral (numeral : isNumeral text = true) :
    ∃ value, read? text = some value := by
  rw [read?.eq_def]
  split
  next tail =>
    have unsigned : isUnsigned tail = true := numeral
    obtain ⟨value, found⟩ := exists_readUnsigned? unsigned
    exact ⟨-value, by rw [found, Option.map_some]⟩
  next => cases numeral
  next noMinus _ =>
    rw [isNumeral_eq] at numeral
    split at numeral
    · exact absurd rfl (noMinus _)
    · exact exists_readUnsigned? numeral

end Numeral

namespace Literal

open Text

theorem number?_isSome (text : List Char) : (number? text).isSome = Numeral.isNumeral text := by
  rw [number?]
  split
  next numeral =>
    obtain ⟨value, found⟩ := Numeral.exists_read?_of_isNumeral numeral
    rw [found, numeral, Option.isSome_some]
  next noNumeral => rw [Bool.not_eq_true] at noNumeral; rw [noNumeral, Option.isSome_none]

theorem kind_ofTrimmed (text : List Char) : (ofTrimmed text).kind = kindOfTrimmed text := by
  rw [ofTrimmed, kindOfTrimmed, ← number?_isSome]
  cases bracketed? '[' ']' text with
  | some inner => rfl
  | none =>
      cases bracketed? '(' ')' text with
      | some inner => rfl
      | none => cases number? text <;> rfl

/-- The value of a literal is of the kind of the literal. -/
theorem kind_datum (raw : String) : (datum raw).kind = kind raw :=
  kind_ofTrimmed (trim raw.toList)

end Literal
end ChatMacro
