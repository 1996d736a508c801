import LedgerService.Proofs.Decimal.Numerals
import LedgerService.Proofs.Settings.Gathering
import LedgerService.Settings.Adapt

/-!
# Texts from the environment

A text from the environment is taken for what it looks like: a truth value, an integer, a number, or a text. Where a
text is wanted, it is printed again, and is then no longer what was written unless it was written as it is printed
(`Setting.reprinted_eq_iff`): `007` becomes `7`, `1.50` becomes `1.5` and `True` becomes `true`. A text with an ASCII
character that belongs to no word and no numeral, such as a blank, a colon or a slash, stays as it is
(`Setting.verbatim_of_mem`).
-/

namespace LedgerService.Setting

open Decimal (Canonical isNumeralCharacter)
open Text (lowerCase)

/-- What a text from the environment becomes where a text is wanted. -/
def reprinted (text : String) : String := (ofVariable text).text?.getD text

/-- A spelling of a truth value, whatever the case of its letters. -/
def IsWord (text : String) : Prop := lowerCase text = "true" ∨ lowerCase text = "false"

/-- The integer fits into 64 bits. -/
def Fits (value : Int) : Prop := Word.least64 ≤ value ∧ value ≤ Word.most64

/-- The text is written as what it is taken for is printed. -/
structure Verbatim (text : String) : Prop where
  word : IsWord text → lowerCase text = text
  integer : ∀ value, Decimal.integer? text.toList = some value → Fits value → Canonical text.toList
  number : ∀ number, Decimal.binary64? text.toList = some number →
    (∀ value, Decimal.integer? text.toList = some value → ¬Fits value) → number.toPlain = text

/-- What a text from the environment is taken for: the first of these that it can be. -/
inductive TakenFor (text : String) : Setting → Prop
  | truth (word : lowerCase text = "true") : TakenFor text (.boolean true)
  | falsehood (word : lowerCase text = "false") : TakenFor text (.boolean false)
  | integer {value : Int} (noWord : ¬IsWord text) (read : Decimal.integer? text.toList = some value)
      (fits : Fits value) : TakenFor text (.integer value)
  | number {number : Binary64} (noWord : ¬IsWord text)
      (noInteger : ∀ value, Decimal.integer? text.toList = some value → ¬Fits value)
      (read : Decimal.binary64? text.toList = some number) : TakenFor text (.real number)
  | text (noWord : ¬IsWord text) (noInteger : ∀ value, Decimal.integer? text.toList = some value → ¬Fits value)
      (noNumber : Decimal.binary64? text.toList = none) : TakenFor text (.text text)

variable {text : String}

theorem takenFor_numberOrText (noWord : ¬IsWord text)
    (noInteger : ∀ value, Decimal.integer? text.toList = some value → ¬Fits value) :
    TakenFor text (((Decimal.binary64? text.toList).map Setting.real).getD (.text text)) := by
  cases read : Decimal.binary64? text.toList with
  | none => exact .text noWord noInteger read
  | some number => exact .number noWord noInteger read

theorem takenFor_ofVariable (text : String) : TakenFor text (ofVariable text) := by
  by_cases truth : lowerCase text = "true"
  · simp only [ofVariable, truth, if_true]
    exact .truth truth
  · by_cases falsehood : lowerCase text = "false"
    · simpa [ofVariable, falsehood] using TakenFor.falsehood falsehood
    · have noWord : ¬IsWord text := not_or.mpr ⟨truth, falsehood⟩
      simp only [ofVariable, truth, falsehood, if_false]
      cases read : Decimal.integer? text.toList with
      | none => exact takenFor_numberOrText noWord (by simp [read])
      | some value =>
          dsimp only
          split
          case isTrue fits => exact .integer noWord read (by simpa [Fits] using fits)
          case isFalse large => exact takenFor_numberOrText noWord (by simpa [read, Fits] using large)

theorem text?_ofVariable (text : String) : (ofVariable text).text? = some (reprinted text) := by
  have taken := takenFor_ofVariable text
  rw [reprinted]
  generalize ofVariable text = setting at taken ⊢
  cases taken with
  | _ => rfl

/-- The spellings of truth values in lower case are no numerals. -/
theorem verbatim_of_lower (word : IsWord text) (lower : lowerCase text = text) : Verbatim text := by
  have noNumeral : Decimal.integer? text.toList = none ∧ Decimal.binary64? text.toList = none := by
    rw [← lower]
    rcases word with same | same
    · rw [same]
      exact ⟨by decide, by decide⟩
    · rw [same]
      exact ⟨by decide, by decide⟩
  exact ⟨fun _ => lower, by simp [noNumeral.1], by simp [noNumeral.2]⟩

/-- A text from the environment stays as it is just if it is written as it is printed. -/
theorem reprinted_eq_iff : reprinted text = text ↔ Verbatim text := by
  have taken := takenFor_ofVariable text
  rw [reprinted]
  generalize ofVariable text = setting at taken ⊢
  cases taken with
  | truth word =>
      change "true" = text ↔ _
      rw [← word]
      exact ⟨verbatim_of_lower (.inl word), fun verbatim => verbatim.word (.inl word)⟩
  | falsehood word =>
      change "false" = text ↔ _
      rw [← word]
      exact ⟨verbatim_of_lower (.inr word), fun verbatim => verbatim.word (.inr word)⟩
  | integer noWord read fits =>
      have printed := Decimal.toString_eq_iff read
      rw [String.toList_inj] at printed
      constructor
      · intro same
        exact ⟨fun word => absurd word noWord, fun _ _ _ => printed.mp same,
          fun _ _ noInteger => absurd fits (noInteger _ read)⟩
      · intro verbatim
        exact printed.mpr (verbatim.integer _ read fits)
  | number noWord noInteger read =>
      constructor
      · intro same
        refine ⟨fun word => absurd word noWord, fun value found inside => absurd inside (noInteger value found), ?_⟩
        intro number found _
        rw [read, Option.some.injEq] at found
        rw [← found]
        exact same
      · intro verbatim
        exact verbatim.number _ read noInteger
  | text noWord noInteger noNumber =>
      refine ⟨fun _ => ?_, fun _ => rfl⟩
      exact ⟨fun word => absurd word noWord, fun value found inside => absurd inside (noInteger value found),
        by simp [noNumber]⟩

theorem mem_lowerCase {character : Char} (member : character ∈ text.toList) (ascii : character.toNat < 0x80) :
    character.toLower ∈ (lowerCase text).toList := by
  rw [lowerCase, String.toList_ofList, List.mem_flatMap]
  exact ⟨character, member, by simp [Text.toLowerCase, ascii]⟩

/-- A text with an ASCII character that belongs to no word and no numeral stays as it is. -/
theorem verbatim_of_mem {character : Char} (member : character ∈ text.toList) (ascii : character.toNat < 0x80)
    (foreign : isNumeralCharacter character = false) : Verbatim text := by
  have noWord : ¬IsWord text := by
    intro word
    have letters : ∀ letter ∈ (lowerCase text).toList, letter.isAlphanum = true := by
      rcases word with same | same
      · rw [same]
        exact List.all_eq_true.mp (by decide)
      · rw [same]
        exact List.all_eq_true.mp (by decide)
    have letter := Decimal.isAlphanum_of_toLower (letters _ (mem_lowerCase member ascii))
    rw [Decimal.isNumeralCharacter_of_isAlphanum letter] at foreign
    cases foreign
  have noInteger : ∀ value, Decimal.integer? text.toList ≠ some value := by
    intro value read
    rw [Decimal.isNumeralCharacter_of_integer? read character member] at foreign
    cases foreign
  have noNumber : ∀ number, Decimal.binary64? text.toList ≠ some number := by
    intro number read
    rw [Decimal.isNumeralCharacter_of_binary64? read character member] at foreign
    cases foreign
  exact ⟨fun word => absurd word noWord, fun value read => absurd read (noInteger value),
    fun number read => absurd read (noNumber number)⟩

end LedgerService.Setting
