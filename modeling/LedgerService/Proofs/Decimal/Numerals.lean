import LedgerService.Decimal.Numeral
import Mathlib.Data.List.TakeDrop
import Mathlib.Data.List.TakeWhile

/-!
# Decimal numerals

An integer is printed in canonical form: its digits with no zero in front of others, and a minus sign if it is negative
(`Decimal.Canonical`). A canonical numeral is read as the integer that is printed so (`Decimal.integer?_toString`), and
every other one is printed in another way than it was written (`Decimal.toString_eq_iff`). Whatever is read as a number
is made of letters, digits, signs and points (`Decimal.isNumeralCharacter_of_binary64?`).
-/

namespace LedgerService.Decimal

/-! ### Digits -/

theorem toDigits_ten_cons (number : Nat) :
    ∃ first others, Nat.toDigits 10 number = first :: others ∧ first.isDigit = true := by
  cases digits : Nat.toDigits 10 number with
  | nil => exact absurd digits Nat.toDigits_ne_nil
  | cons first others =>
      refine ⟨first, others, rfl, Nat.isDigit_of_mem_toDigits (b := 10) (n := number) (by decide) (by decide) ?_⟩
      rw [digits]
      exact List.mem_cons_self

theorem toDigits_of_leading_zero {number : Nat} {others : List Char}
    (leading : Nat.toDigits 10 number = '0' :: others) :
    others = [] := by
  induction number using Nat.strongRecOn generalizing others with
  | ind number ih =>
      rw [Nat.toDigits_eq_if (by decide)] at leading
      split at leading
      · exact (List.cons.inj leading).2.symm
      · rename_i large
        rcases List.append_eq_cons_iff.mp leading with ⟨none, -⟩ | ⟨middle, front, -⟩
        · exact absurd none Nat.toDigits_ne_nil
        · have alone := ih (number / 10) (by omega) front
          have zero := Nat.ofDigitChars_ten_toDigits (n := number / 10)
          rw [front, alone] at zero
          exact absurd zero (by simp [Nat.ofDigitChars]; omega)

/-- Decimal digits, with no zero in front of others. -/
structure Trimmed (digits : List Char) : Prop where
  nonempty : digits ≠ []
  decimal : ∀ digit ∈ digits, digit.isDigit = true
  unpadded : ∀ others, digits = '0' :: others → others = []

theorem trimmed_toDigits (number : Nat) : Trimmed (Nat.toDigits 10 number) where
  nonempty := Nat.toDigits_ne_nil
  decimal := fun _ member => Nat.isDigit_of_mem_toDigits (by decide) (by decide) member
  unpadded := fun _ => toDigits_of_leading_zero

theorem digitsValue_toDigits (number : Nat) : digitsValue (Nat.toDigits 10 number) = number := by
  have read := Nat.ofDigitChars_ten_toDigits (n := number)
  simp only [Nat.ofDigitChars, Nat.mul_comm 10] at read
  exact read

theorem digitChar_digit {digit : Char} (decimal : digit.isDigit = true) :
    digit.toNat - '0'.toNat < 10 ∧ (digit.toNat - '0'.toNat).digitChar = digit := by
  have bounds : 48 ≤ digit.toNat ∧ digit.toNat ≤ 57 := by
    simpa [Char.isDigit, UInt32.le_iff_toNat_le] using decimal
  have small : digit.toNat - '0'.toNat < 10 := by
    change digit.toNat - 48 < 10
    omega
  refine ⟨small, Char.toNat_inj.mp ?_⟩
  rw [Nat.toNat_digitChar_of_lt_ten small]
  change 48 + (digit.toNat - 48) = _
  omega

/-- A number that is not zero is continued by further digits. -/
theorem toDigits_append_digits {digits : List Char} (decimal : ∀ digit ∈ digits, digit.isDigit = true) {number : Nat}
    (positive : 0 < number) :
    Nat.toDigits 10 number ++ digits =
      Nat.toDigits 10 (digits.foldl (fun value digit => value * 10 + (digit.toNat - '0'.toNat)) number) := by
  induction digits generalizing number with
  | nil => exact List.append_nil _
  | cons digit others ih =>
      rcases List.forall_mem_cons.mp decimal with ⟨first, rest⟩
      rcases digitChar_digit first with ⟨small, same⟩
      have longer := Nat.toDigits_append_toDigits (by decide : 1 < 10) positive small
      rw [Nat.toDigits_of_lt_base small, same, Nat.mul_comm] at longer
      rw [List.foldl_cons, ← ih rest (by omega), ← longer, List.append_assoc, List.singleton_append]

theorem toDigits_digitsValue {digits : List Char} (trimmed : Trimmed digits) :
    Nat.toDigits 10 (digitsValue digits) = digits := by
  rcases digits with _ | ⟨first, others⟩
  · exact absurd rfl trimmed.nonempty
  · rcases List.forall_mem_cons.mp trimmed.decimal with ⟨digit, rest⟩
    rcases digitChar_digit digit with ⟨small, same⟩
    by_cases zero : first = '0'
    · subst zero
      rw [trimmed.unpadded others rfl]
      rfl
    · have positive : 0 < first.toNat - '0'.toNat := by
        apply Nat.pos_of_ne_zero
        intro none
        rw [none] at same
        exact zero same.symm
      have parts := toDigits_append_digits rest positive
      rw [Nat.toDigits_of_lt_base small, same] at parts
      rw [digitsValue, List.foldl_cons, Nat.zero_mul, Nat.zero_add, ← parts, List.singleton_append]

/-! ### Integers -/

/-- An integer as it is printed: a minus sign stands before no zero. -/
inductive Canonical : List Char → Prop
  | plain {digits : List Char} (trimmed : Trimmed digits) : Canonical digits
  | minus {digits : List Char} (trimmed : Trimmed digits) (nonzero : digits ≠ ['0']) : Canonical ('-' :: digits)

theorem toList_toString (value : Int) :
    (toString value).toList = (if value < 0 then ['-'] else []) ++ Nat.toDigits 10 value.natAbs := by
  cases value with
  | ofNat magnitude =>
      rw [if_neg (by simp)]
      exact String.toList_ofList
  | negSucc less =>
      rw [if_pos (Int.negSucc_lt_zero less)]
      exact (String.toList_append).trans (congrArg _ String.toList_ofList)

theorem splitSign_of_digit {first : Char} (digit : first.isDigit = true) (others : List Char) :
    splitSign (first :: others) = (false, first :: others) := by
  unfold splitSign
  split
  · rename_i minus
    cases minus
    cases digit
  · rename_i plus
    cases plus
    cases digit
  · rfl

/-- The integer that digits behind a sign denote. -/
theorem integer?_of_digits {text digits : List Char} {negative : Bool} (signed : splitSign text = (negative, digits))
    (trimmed : Trimmed digits) :
    integer? text = some (if negative then -(digitsValue digits : Int) else digitsValue digits) := by
  have given : digits.isEmpty = false := by simpa using trimmed.nonempty
  have decimal : digits.all Char.isDigit = true := List.all_eq_true.mpr trimmed.decimal
  simp [integer?, signed, given, decimal]

/-- An integer that is printed is read again. -/
theorem integer?_toString (value : Int) : integer? (toString value).toList = some value := by
  have trimmed := trimmed_toDigits value.natAbs
  rw [toList_toString]
  split
  case isTrue negative =>
    have signed : splitSign (['-'] ++ Nat.toDigits 10 value.natAbs) = (true, Nat.toDigits 10 value.natAbs) := rfl
    rw [integer?_of_digits signed trimmed, digitsValue_toDigits, if_pos rfl]
    congr 1
    omega
  case isFalse =>
    rcases toDigits_ten_cons value.natAbs with ⟨first, others, parts, digit⟩
    have signed : splitSign ([] ++ Nat.toDigits 10 value.natAbs) = (false, Nat.toDigits 10 value.natAbs) := by
      rw [List.nil_append, parts, splitSign_of_digit digit]
    rw [integer?_of_digits signed trimmed, digitsValue_toDigits, if_neg Bool.false_ne_true]
    congr 1
    omega

theorem canonical_toString (value : Int) : Canonical (toString value).toList := by
  rw [toList_toString]
  split
  case isTrue negative =>
    rw [List.singleton_append]
    refine .minus (trimmed_toDigits _) ?_
    intro zero
    have same := digitsValue_toDigits value.natAbs
    rw [zero] at same
    change 0 = _ at same
    omega
  case isFalse => exact .plain (trimmed_toDigits _)

theorem Canonical.exists_toString {text : List Char} (canonical : Canonical text) :
    ∃ value : Int, (toString value).toList = text := by
  cases canonical with
  | plain trimmed =>
      refine ⟨(digitsValue text : Nat), ?_⟩
      rw [toList_toString, if_neg (by omega), Int.natAbs_natCast, toDigits_digitsValue trimmed, List.nil_append]
  | @minus digits trimmed nonzero =>
      have positive : 0 < digitsValue digits := by
        apply Nat.pos_of_ne_zero
        intro zero
        have same := toDigits_digitsValue trimmed
        rw [zero] at same
        exact nonzero same.symm
      refine ⟨-(digitsValue digits : Nat), ?_⟩
      rw [toList_toString, if_pos (by omega), Int.natAbs_neg, Int.natAbs_natCast, toDigits_digitsValue trimmed,
        List.singleton_append]

/-- What is read as an integer is printed as it was written just if it is canonical. -/
theorem toString_eq_iff {text : List Char} {value : Int} (read : integer? text = some value) :
    (toString value).toList = text ↔ Canonical text := by
  constructor
  · rintro rfl
    exact canonical_toString value
  · intro canonical
    rcases canonical.exists_toString with ⟨own, rfl⟩
    rw [integer?_toString, Option.some.injEq] at read
    rw [read]

/-! ### Characters of numerals -/

/-- An ASCII letter, a digit, a sign or a point. -/
def isNumeralCharacter (character : Char) : Bool :=
  character.isAlphanum || character = '+' || character = '-' || character = '.'

theorem isNumeralCharacter_of_isAlphanum {character : Char} (letter : character.isAlphanum = true) :
    isNumeralCharacter character = true := by
  simp [isNumeralCharacter, letter]

theorem isNumeralCharacter_of_isDigit {character : Char} (digit : character.isDigit = true) :
    isNumeralCharacter character = true :=
  isNumeralCharacter_of_isAlphanum (by simp [Char.isAlphanum, digit])

theorem isAlphanum_of_toLower {character : Char} (letter : character.toLower.isAlphanum = true) :
    character.isAlphanum = true := by
  unfold Char.toLower at letter
  split at letter
  case isTrue capital =>
    have upper : character.isUpper = true := decide_eq_true capital
    change (character.isUpper || character.isLower || character.isDigit) = true
    rw [upper, Bool.true_or, Bool.true_or]
  case isFalse => exact letter

variable {text : List Char}

theorem isNumeralCharacter_of_splitSign
    (others : ∀ character ∈ (splitSign text).2, isNumeralCharacter character = true) :
    ∀ character ∈ text, isNumeralCharacter character = true := by
  intro character member
  unfold splitSign at others
  split at others
  · rcases List.mem_cons.mp member with rfl | later
    · rfl
    · exact others character later
  · rcases List.mem_cons.mp member with rfl | later
    · rfl
    · exact others character later
  · exact others character member

theorem isNumeralCharacter_of_integer? {value : Int} (read : integer? text = some value) :
    ∀ character ∈ text, isNumeralCharacter character = true := by
  apply isNumeralCharacter_of_splitSign
  intro character member
  have decimal : (splitSign text).2.all Char.isDigit = true := by
    cases digits : (splitSign text).2.all Char.isDigit with
    | true => rfl
    | false => simp [integer?, digits] at read
  exact isNumeralCharacter_of_isDigit (List.all_eq_true.mp decimal character member)

theorem special?_cases {negative : Bool} {value : Binary64} (read : special? negative text = some value) :
    text.map Char.toLower = "inf".toList ∨ text.map Char.toLower = "infinity".toList ∨
      text.map Char.toLower = "nan".toList := by
  unfold special? at read
  generalize text.map Char.toLower = lower at read ⊢
  -- which words they are makes no difference here
  generalize "inf".toList = infinite, "infinity".toList = infinity, "nan".toList = special at read ⊢
  dsimp only at read
  by_cases large : lower = infinite || lower = infinity
  · rw [Bool.or_eq_true, decide_eq_true_eq, decide_eq_true_eq] at large
    exact large.elim .inl fun same => .inr (.inl same)
  · rw [if_neg large] at read
    by_cases same : lower = special
    · exact .inr (.inr same)
    · rw [if_neg same] at read
      cases read

theorem isNumeralCharacter_of_special? {negative : Bool} {value : Binary64} (read : special? negative text = some value) :
    ∀ character ∈ text, isNumeralCharacter character = true := by
  have letters : ∀ letter ∈ text.map Char.toLower, letter.isAlphanum = true := by
    rcases special?_cases read with same | same | same
    · rw [same]
      exact List.all_eq_true.mp (by decide)
    · rw [same]
      exact List.all_eq_true.mp (by decide)
    · rw [same]
      exact List.all_eq_true.mp (by decide)
  intro character member
  exact isNumeralCharacter_of_isAlphanum (isAlphanum_of_toLower (letters _ (List.mem_map_of_mem member)))

theorem isNumeralCharacter_of_power? {power : Int} (read : power? text = some power) :
    ∀ character ∈ text, isNumeralCharacter character = true := by
  rcases text with _ | ⟨mark, rest⟩
  · exact fun _ => nofun
  · simp only [power?] at read
    split at read
    case isTrue letter =>
      simp only [Bool.or_eq_true, decide_eq_true_eq] at letter
      intro character member
      rcases List.mem_cons.mp member with rfl | later
      · rcases letter with rfl | rfl
        · rfl
        · rfl
      · exact isNumeralCharacter_of_integer? read character later
    case isFalse => cases read

theorem isNumeralCharacter_of_splitDigits
    (others : ∀ character ∈ (splitDigits text).2, isNumeralCharacter character = true) :
    ∀ character ∈ text, isNumeralCharacter character = true := by
  intro character member
  rw [splitDigits, List.span_eq_takeWhile_dropWhile] at others
  rw [← List.takeWhile_append_dropWhile (p := Char.isDigit) (l := text)] at member
  rcases List.mem_append.mp member with digit | later
  · exact isNumeralCharacter_of_isDigit (List.mem_takeWhile_imp digit)
  · exact others character later

theorem isNumeralCharacter_of_splitFraction
    (others : ∀ character ∈ (splitFraction text).2, isNumeralCharacter character = true) :
    ∀ character ∈ text, isNumeralCharacter character = true := by
  unfold splitFraction at others
  split at others
  · intro character member
    rcases List.mem_cons.mp member with rfl | later
    · rfl
    · exact isNumeralCharacter_of_splitDigits others character later
  · exact others

/-- What is read as a number is made of the characters of numerals. -/
theorem isNumeralCharacter_of_binary64? {number : Binary64} (read : binary64? text = some number) :
    ∀ character ∈ text, isNumeralCharacter character = true := by
  apply isNumeralCharacter_of_splitSign
  cases special : special? (splitSign text).1 (splitSign text).2 with
  | some value => exact isNumeralCharacter_of_special? special
  | none =>
      apply isNumeralCharacter_of_splitDigits
      apply isNumeralCharacter_of_splitFraction
      cases power : power? (splitFraction (splitDigits (splitSign text).2).2).2 with
      | some power => exact isNumeralCharacter_of_power? power
      | none => simp [binary64?, special, power] at read

end LedgerService.Decimal
