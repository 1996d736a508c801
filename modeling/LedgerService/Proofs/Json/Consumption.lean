import LedgerService.Json.Printer
import LedgerService.Json.Reading
import LedgerService.Proofs.Decimal.Numerals

/-!
# What a reading consumes

A reading consumes a text and gives a value if it does so whatever stands before the text, and whatever follows it
as long as this is allowed to follow. Readings put one after the other consume one text after the other
(`Consumes.bind`), so a reading is followed through a text by naming the part that each of its steps consumes.
-/

namespace LedgerService.Json.Reading

open Decimal (toDigits_ten_cons toDigits_of_leading_zero)

variable {α β σ : Type}

/-- The outcome of a reading, and the cursor where it ends. -/
def runOn (reading : Reading α) (cursor : Cursor) : Except DecodeError α × Cursor := reading.run.run cursor

theorem runOn_bind {reading : Reading α} {next : α → Reading β} {cursor reached : Cursor} {value : α}
    (done : reading.runOn cursor = (.ok value, reached)) :
    (reading >>= next).runOn cursor = (next value).runOn reached := by
  unfold runOn at done ⊢
  simp only [ExceptT.run_bind, StateT.run_bind]
  rw [done]
  rfl

theorem runOn_get {next : Cursor → Reading β} (cursor : Cursor) :
    (get >>= next).runOn cursor = (next cursor).runOn cursor :=
  rfl

theorem runOn_set {next : PUnit → Reading β} (reached cursor : Cursor) :
    (set reached >>= next).runOn cursor = (next ⟨⟩).runOn reached :=
  rfl

theorem runOn_modify {next : PUnit → Reading β} (change : Cursor → Cursor) (cursor : Cursor) :
    (modify change >>= next).runOn cursor = (next ⟨⟩).runOn (change cursor) :=
  rfl

theorem runOn_attempt (reading : Reading α) (cursor : Cursor) :
    (attempt reading).runOn cursor = (.ok (reading.runOn cursor).1, (reading.runOn cursor).2) := rfl

/--
From every cursor at the text, a reading gives the value and ends behind the text, if the rest may follow and fewer
than so many levels are open.
-/
def Consumes (reading : Reading α) (text : List Char) (follow : List Char → Prop) (depth : Nat) (value : α) : Prop :=
  ∀ cursor rest, cursor.rest = text ++ rest → follow rest → cursor.rest.length ≤ cursor.size →
    depth < cursor.levels → ∃ place, reading.runOn cursor = (.ok value, { cursor with rest, place })

/-- Anything may follow. -/
def Anything (_ : List Char) : Prop := True

/-- The character is next. -/
def StartsWith (character : Char) (rest : List Char) : Prop := rest.head? = some character

namespace Consumes

variable {reading : Reading α} {next : α → Reading β} {text before after : List Char}
  {follow between : List Char → Prop} {depth : Nat} {value : α} {result : β}

theorem pure (value : α) : Consumes (Pure.pure value) [] follow depth value := by
  intro cursor rest start follows fits deep
  refine ⟨cursor.place, ?_⟩
  rw [List.nil_append] at start
  rw [← start]
  rfl

theorem mono (consumes : Consumes reading text between depth value) {deeper : Nat}
    (allowed : ∀ rest, follow rest → between rest) (least : depth ≤ deeper) :
    Consumes reading text follow deeper value := by
  intro cursor rest start follows fits deep
  exact consumes cursor rest start (allowed rest follows) fits (Nat.lt_of_le_of_lt least deep)

theorem bind (first : Consumes reading before between depth value)
    (second : Consumes (next value) after follow depth result)
    (meets : ∀ rest, follow rest → between (after ++ rest)) :
    Consumes (reading >>= next) (before ++ after) follow depth result := by
  intro cursor rest start follows fits deep
  rw [List.append_assoc] at start
  rcases first cursor (after ++ rest) start (meets rest follows) fits deep with ⟨place, done⟩
  have shorter : (after ++ rest).length ≤ cursor.size := by
    rw [start, List.length_append] at fits
    omega
  rcases second { cursor with rest := after ++ rest, place } rest rfl follows shorter deep with ⟨last, finished⟩
  exact ⟨last, (runOn_bind done).trans finished⟩

/-- A first step after which anything may follow. -/
theorem andThen (first : Consumes reading before Anything depth value)
    (second : Consumes (next value) after follow depth result) :
    Consumes (reading >>= next) (before ++ after) follow depth result :=
  first.bind second fun _ _ => trivial

/-- A last step that consumes nothing. -/
theorem lastly (first : Consumes reading text between depth value)
    (second : Consumes (next value) [] follow depth result) (meets : ∀ rest, follow rest → between rest) :
    Consumes (reading >>= next) text follow depth result := by
  rw [← List.append_nil text]
  exact first.bind second meets

/-- A first step that looks at the next character and consumes nothing. -/
theorem seeing {character : Char} (first : Consumes reading [] (StartsWith character) depth value)
    (second : Consumes (next value) (character :: text) follow depth result) :
    Consumes (reading >>= next) (character :: text) follow depth result :=
  first.bind second fun _ _ => rfl

theorem locate (consumes : Consumes reading text follow depth value) :
    Consumes (Reading.locate reading) text follow depth value := by
  intro cursor rest start follows fits deep
  rcases consumes cursor rest start follows fits deep with ⟨place, done⟩
  have tried : (attempt reading).runOn cursor = (.ok (.ok value), { cursor with rest, place }) := by
    rw [runOn_attempt, done]
  exact ⟨place, runOn_bind tried⟩

/-- There is always fuel for more steps than characters. -/
theorem fuel {next : Nat → Reading β}
    (enough : ∀ steps, text.length < steps → Consumes (next steps) text follow depth result) :
    Consumes (Reading.fuel >>= next) text follow depth result := by
  intro cursor rest start follows fits deep
  have less : text.length < cursor.size + 1 := by
    rw [start, List.length_append] at fits
    omega
  rcases enough (cursor.size + 1) less cursor rest start follows fits deep with ⟨place, done⟩
  exact ⟨place, (runOn_bind rfl).trans done⟩

/-- Between brackets one level more is open. -/
theorem delimited {ending : Reading Unit} {opening : Char} (inner : Consumes reading before between depth value)
    (close : Consumes ending after follow depth ()) (meets : ∀ rest, follow rest → between (after ++ rest)) :
    Consumes (Reading.delimited reading ending) (opening :: (before ++ after)) follow (depth + 1) value := by
  intro cursor rest start follows fits deep
  have entered : cursor.next =
      { cursor with rest := before ++ (after ++ rest), place := cursor.place.after opening } := by
    unfold Cursor.next
    rw [start, List.cons_append, List.append_assoc]
  have shorter : (before ++ (after ++ rest)).length ≤ cursor.size := by
    rw [start, List.cons_append, List.append_assoc, List.length_cons] at fits
    omega
  have shortest : (after ++ rest).length ≤ cursor.size := by
    rw [List.length_append] at shorter
    omega
  have room : ¬cursor.levels ≤ 1 := by omega
  have deepInside : depth < cursor.levels - 1 := by omega
  rcases inner { cursor.next with levels := cursor.levels - 1 } (after ++ rest) (by rw [entered]) (meets rest follows)
    (by rw [entered]; exact shorter) deepInside with ⟨middle, read⟩
  rcases close { cursor with rest := after ++ rest, place := middle, levels := cursor.levels - 1 } rest rfl follows
    shortest deepInside with ⟨last, closed⟩
  refine ⟨last, ?_⟩
  have outcome : (attempt reading).runOn { cursor.next with levels := cursor.levels - 1 } =
    (.ok (.ok value), { cursor with rest := after ++ rest, place := middle, levels := cursor.levels - 1 }) := by
    rw [runOn_attempt, read, entered]
  have closing : (attempt ending).runOn
      { cursor with rest := after ++ rest, place := middle, levels := cursor.levels - 1 } =
    (.ok (.ok ()), { cursor with rest := rest, place := last, levels := cursor.levels - 1 }) := by
    rw [runOn_attempt, closed]
  unfold Reading.delimited
  rw [runOn_get, if_neg room, runOn_set, runOn_bind outcome, runOn_bind closing, runOn_modify]
  rfl

end Consumes

section

variable {follow : List Char → Prop} {depth : Nat}

theorem consumes_peek (character : Char) : Consumes peek [] (StartsWith character) depth (some character) := by
  intro cursor rest start follows fits deep
  rw [List.nil_append] at start
  refine ⟨cursor.place, ?_⟩
  rw [← start] at follows ⊢
  exact congrArg (fun next => (Except.ok next, cursor)) follows

theorem consumes_bump (character : Char) : Consumes bump [character] Anything depth () := by
  intro cursor rest start follows fits deep
  refine ⟨cursor.place.after character, ?_⟩
  have moved : cursor.next = { cursor with rest, place := cursor.place.after character } := by
    unfold Cursor.next
    rw [start]
    rfl
  rw [← moved]
  rfl

/-- A character that is no blank is seen without reading anything. -/
theorem consumes_peekToken {character : Char} (visible : isBlank character = false) :
    Consumes peekToken [] (StartsWith character) depth (some character) := by
  intro cursor rest start follows fits deep
  have nothing : cursor.rest.takeWhile isBlank = [] := by
    rw [start, List.nil_append]
    cases rest with
    | nil => rfl
    | cons first others =>
        rw [Option.some.inj follows, List.takeWhile_cons_of_neg]
        rw [visible]
        exact Bool.false_ne_true
  rcases consumes_peek character cursor rest start follows fits deep with ⟨place, done⟩
  refine ⟨place, ?_⟩
  unfold peekToken
  rw [runOn_get, runOn_set, nothing]
  exact done

theorem consumes_word (text : List Char) : Consumes (word text) text Anything depth () := by
  induction text with
  | nil => exact .pure ()
  | cons character others ih =>
      apply (consumes_peek character).seeing
      dsimp only
      rw [if_pos rfl]
      exact (consumes_bump character).andThen ih

theorem consumes_colon : Consumes colon [':'] Anything depth () :=
  (consumes_peekToken rfl).seeing (consumes_bump ':')

theorem consumes_listEnd : Consumes listEnd [']'] Anything depth () :=
  (consumes_peekToken rfl).seeing (consumes_bump ']')

theorem consumes_objectEnd : Consumes objectEnd [closingBrace] Anything depth () := by
  apply (consumes_peekToken rfl).seeing
  exact consumes_bump closingBrace

theorem consumes_moreItems_end (first : Bool) : Consumes (moreItems first) [] (StartsWith ']') depth false := by
  have seen : Consumes peekToken [] (StartsWith ']') depth (some ']') := consumes_peekToken rfl
  exact seen.bind (.pure false) fun rest follows => follows


/-! ### Strings -/

theorem hexDigit?_digitChar : ∀ digit < 16, hexDigit? digit.digitChar = some digit ∧ digit.digitChar.utf8Size = 1 := by
  decide

/-- Two zeros and the two digits of a number below 256. -/
theorem consumes_hexUnit {high low : Nat} (highDigit : high < 16) (lowDigit : low < 16) :
    Consumes hexUnit ['0', '0', high.digitChar, low.digitChar] Anything depth (16 * high + low) := by
  intro cursor rest start follows fits deep
  rcases hexDigit?_digitChar high highDigit with ⟨highValue, highSize⟩
  rcases hexDigit?_digitChar low lowDigit with ⟨lowValue, lowSize⟩
  have four : (cursor.rest.take 4).foldl (fun count character => count + character.utf8Size) 0 = 4 := by
    rw [start]
    simp [highSize, lowSize]
    decide
  have bumps : Consumes (do bump; bump; bump; bump; return 16 * high + low)
      ['0', '0', high.digitChar, low.digitChar] Anything depth (16 * high + low) :=
    (consumes_bump '0').andThen <| (consumes_bump '0').andThen <| (consumes_bump high.digitChar).andThen <|
      (consumes_bump low.digitChar).andThen (.pure _)
  rcases bumps cursor rest start follows fits deep with ⟨place, done⟩
  refine ⟨place, ?_⟩
  have zero : hexDigit? '0' = some 0 := rfl
  unfold hexUnit
  rw [runOn_get]
  dsimp only
  rw [four, if_neg (by decide), start]
  simp only [List.cons_append, List.nil_append, zero, highValue, lowValue]
  rw [show (((16 * 0 + 0) * 16 + high) * 16 + low) = 16 * high + low by omega]
  exact done

/-- What follows the backslash of an escape that is spelled with one letter. -/
theorem consumes_escaped_unit {high low : Nat} (highDigit : high < 2) (lowDigit : low < 16) :
    Consumes (escaped false) ['u', '0', '0', high.digitChar, low.digitChar] Anything depth
      (Char.ofNat (16 * high + low)) := by
  apply (consumes_peek 'u').seeing
  apply (consumes_bump 'u').andThen
  have unit : Consumes hexUnit ['0', '0', high.digitChar, low.digitChar] Anything depth (16 * high + low) :=
    consumes_hexUnit (by omega) lowDigit
  have notTrailing : (decide (0xDC00 ≤ 16 * high + low) && decide (16 * high + low ≤ 0xDFFF)) = false := by
    rw [decide_eq_false (by omega), Bool.false_and]
  have notLeading : (decide (0xD800 ≤ 16 * high + low) && decide (16 * high + low ≤ 0xDBFF)) = false := by
    rw [decide_eq_false (by omega), Bool.false_and]
  apply unit.lastly _ fun _ _ => trivial
  rw [if_neg Bool.false_ne_true, notTrailing, notLeading]
  exact .pure _

theorem toDigits_sixteen {number : Nat} (small : number < 256) (large : 16 ≤ number) :
    Nat.toDigits 16 number = [(number / 16).digitChar, (number % 16).digitChar] := by
  rw [Nat.toDigits_eq_if (by decide), if_neg (by omega), Nat.toDigits_of_lt_base (by omega)]
  rfl

/-- A character is written as itself, or as a backslash and what an escape consumes. -/
theorem escapeCharacter_cases (depth : Nat) (character : Char) :
    (escapeCharacter character = [character] ∧ 32 ≤ character.toNat ∧ character ≠ '"' ∧ character ≠ '\\') ∨
    ∃ tail, escapeCharacter character = '\\' :: tail ∧ Consumes (escaped false) tail Anything depth character := by
  have letter (shown : Char) (code : Nat) (same : character = Char.ofNat code)
      (escape : Consumes (escaped false) [shown] Anything depth (Char.ofNat code)) :
      ∃ tail, ['\\', shown] = '\\' :: tail ∧ Consumes (escaped false) tail Anything depth character :=
    ⟨[shown], rfl, same ▸ escape⟩
  have named {code : Nat} (same : character.toNat = code) : character = Char.ofNat code := by
    rw [← same, Char.ofNat_toNat]
  unfold escapeCharacter
  split
  · rename_i quote
    right
    subst quote
    exact ⟨['"'], rfl, (consumes_peek '"').seeing ((consumes_bump '"').andThen (.pure '"'))⟩
  split
  · rename_i backslash
    right
    subst backslash
    exact ⟨['\\'], rfl, (consumes_peek '\\').seeing ((consumes_bump '\\').andThen (.pure '\\'))⟩
  split
  · rename_i code
    right
    exact letter 'b' 8 (named code) ((consumes_peek 'b').seeing ((consumes_bump 'b').andThen (.pure _)))
  split
  · rename_i code
    right
    exact letter 't' 9 (named code) ((consumes_peek 't').seeing ((consumes_bump 't').andThen (.pure _)))
  split
  · rename_i code
    right
    exact letter 'n' 10 (named code) ((consumes_peek 'n').seeing ((consumes_bump 'n').andThen (.pure _)))
  split
  · rename_i code
    right
    exact letter 'f' 12 (named code) ((consumes_peek 'f').seeing ((consumes_bump 'f').andThen (.pure _)))
  split
  · rename_i code
    right
    exact letter 'r' 13 (named code) ((consumes_peek 'r').seeing ((consumes_bump 'r').andThen (.pure _)))
  split
  · rename_i small
    right
    refine ⟨['u', '0', '0', Nat.digitChar 0, character.toNat.digitChar], ?_, ?_⟩
    · rw [Nat.toDigits_of_lt_base small]
      rfl
    · have code : Char.ofNat (16 * 0 + character.toNat) = character := by
        rw [Nat.mul_zero, Nat.zero_add, Char.ofNat_toNat]
      have unit : Consumes (escaped false) ['u', '0', '0', Nat.digitChar 0, character.toNat.digitChar] Anything depth
          (Char.ofNat (16 * 0 + character.toNat)) := consumes_escaped_unit (by omega) small
      rw [code] at unit
      exact unit
  split
  · rename_i large small
    right
    refine ⟨['u', '0', '0', (character.toNat / 16).digitChar, (character.toNat % 16).digitChar], ?_, ?_⟩
    · rw [toDigits_sixteen (by omega) (by omega)]
      rfl
    · have code : Char.ofNat (16 * (character.toNat / 16) + character.toNat % 16) = character := by
        rw [Nat.div_add_mod, Char.ofNat_toNat]
      have unit : Consumes (escaped false)
          ['u', '0', '0', (character.toNat / 16).digitChar, (character.toNat % 16).digitChar] Anything depth
          (Char.ofNat (16 * (character.toNat / 16) + character.toNat % 16)) :=
        consumes_escaped_unit (by omega) (by omega)
      rw [code] at unit
      exact unit
  · rename_i quote backslash _ _ _ _ _ _ visible
    left
    exact ⟨rfl, by omega, quote, backslash⟩

theorem consumes_textBody (characters : List Char) {steps : Nat} (enough : characters.length < steps)
    (collected : List Char) :
    Consumes (textBody false steps collected) (characters.flatMap escapeCharacter ++ ['"']) Anything depth
      (String.ofList (collected.reverse ++ characters)) := by
  induction characters generalizing steps collected with
  | nil =>
      rcases Nat.exists_eq_succ_of_ne_zero (Nat.ne_of_gt enough) with ⟨fewer, rfl⟩
      rw [List.append_nil]
      exact (consumes_peek '"').seeing ((consumes_bump '"').andThen (.pure _))
  | cons character others ih =>
      rcases Nat.exists_eq_succ_of_ne_zero (Nat.ne_of_gt (Nat.lt_of_le_of_lt (Nat.zero_le _) enough)) with ⟨fewer, rfl⟩
      have rest := ih (Nat.lt_of_succ_lt_succ enough) (character :: collected)
      rw [List.reverse_cons, List.append_assoc, List.singleton_append] at rest
      rw [List.flatMap_cons, List.append_assoc]
      rcases escapeCharacter_cases depth character with ⟨plain, printable, noQuote, noBackslash⟩ | ⟨tail, escape, read⟩
      · rw [plain]
        apply (consumes_peek character).seeing
        split
        · contradiction
        · rename_i same
          exact absurd (Option.some.inj same) noQuote
        · rename_i same
          exact absurd (Option.some.inj same) noBackslash
        · rename_i same
          cases same
          rw [if_neg (by omega)]
          exact (consumes_bump character).andThen rest
      · rw [escape]
        apply (consumes_peek '\\').seeing
        exact (consumes_bump '\\').andThen (read.andThen rest)

theorem length_le_length_flatMap_escapeCharacter (characters : List Char) :
    characters.length ≤ (characters.flatMap escapeCharacter).length := by
  induction characters with
  | nil => exact Nat.le_refl 0
  | cons character others ih =>
      have some : 0 < (escapeCharacter character).length := by
        rcases escapeCharacter_cases 0 character with ⟨plain, -⟩ | ⟨tail, escape, -⟩
        · rw [plain]; exact Nat.one_pos
        · rw [escape]; exact Nat.succ_pos _
      rw [List.flatMap_cons, List.length_append, List.length_cons]
      omega

theorem consumes_textToken (value : String) : Consumes textToken (printText value) Anything depth value := by
  rw [printText, ← List.singleton_append]
  apply (consumes_bump '"').andThen
  apply Consumes.fuel
  intro steps enough
  have shorter := length_le_length_flatMap_escapeCharacter value.toList
  rw [List.length_append, List.length_singleton] at enough
  have body : Consumes (textBody false steps []) (value.toList.flatMap escapeCharacter ++ ['"']) Anything depth
      (String.ofList ([].reverse ++ value.toList)) := consumes_textBody value.toList (by omega) []
  rw [List.reverse_nil, List.nil_append, String.ofList_toList] at body
  exact body


/-! ### Numbers -/

/-- What follows does not go on with a number. -/
def Settled (rest : List Char) : Prop :=
  ∀ character ∈ rest.head?, character.isDigit = false ∧ character ≠ '.' ∧ character ≠ 'e' ∧ character ≠ 'E'

/-- A look at what follows. -/
theorem Consumes.looking {next : Option Char → Reading β} {result : β}
    (each : ∀ rest, follow rest → Consumes (next rest.head?) [] follow depth result) :
    Consumes (peek >>= next) [] follow depth result := by
  intro cursor rest start follows fits deep
  rcases each rest follows cursor rest start follows fits deep with ⟨place, done⟩
  refine ⟨place, ?_⟩
  rw [List.nil_append] at start
  subst start
  exact (runOn_bind rfl).trans done

theorem consumes_digits {digits : List Char} (decimal : ∀ character ∈ digits, character.isDigit = true) :
    Consumes Reading.digits digits Settled depth digits := by
  intro cursor rest start follows fits deep
  have run : cursor.rest.takeWhile Char.isDigit = digits := by
    rw [start, List.takeWhile_append_of_pos decimal]
    cases rest with
    | nil => exact List.append_nil _
    | cons first others => rw [List.takeWhile_cons_of_neg (by simp [(follows first rfl).1]), List.append_nil]
  refine ⟨⟨cursor.place.line, cursor.place.column + digits.length⟩, ?_⟩
  unfold Reading.digits
  rw [runOn_get, runOn_set, run, start, List.drop_left]
  rfl

theorem consumes_wantDigit {character : Char} (digit : character.isDigit = true) :
    Consumes (wantDigit false) [] (StartsWith character) depth () := by
  have look : Consumes peek [] (StartsWith character) depth (some character) := consumes_peek character
  apply look.lastly _ fun rest follows => follows
  dsimp only
  rw [if_pos digit]
  exact .pure ()

theorem consumes_fractionPart : Consumes (fractionPart false) [] Settled depth [] := by
  apply Consumes.looking
  intro rest settled
  split
  · rename_i point
    exact absurd rfl (settled '.' point).2.1
  · exact .pure []

theorem consumes_powerPart : Consumes (powerPart false) [] Settled depth none := by
  apply Consumes.looking
  intro rest settled
  split
  · rename_i power
    exact absurd rfl (settled 'e' power).2.2.1
  · rename_i power
    exact absurd rfl (settled 'E' power).2.2.2
  · exact .pure none

theorem consumes_wholePart (number : Nat) :
    Consumes (wholePart false) (Nat.toDigits 10 number) Settled depth (Nat.toDigits 10 number) := by
  have decimal : ∀ character ∈ Nat.toDigits 10 number, character.isDigit = true :=
    fun character member => Nat.isDigit_of_mem_toDigits (by decide) (by decide) member
  rcases toDigits_ten_cons number with ⟨first, others, digits, digit⟩
  rw [digits] at decimal ⊢
  apply (consumes_wantDigit digit).seeing
  apply (consumes_peek first).seeing
  split
  · rename_i zero
    cases zero
    have alone := toDigits_of_leading_zero digits
    subst alone
    apply (consumes_bump '0').andThen
    apply Consumes.looking
    intro rest settled
    split
    · rename_i character next
      rw [(settled character next).1]
      exact .pure _
    · exact .pure _
  · exact consumes_digits decimal

theorem consumes_signPart_of_digit {character : Char} (digit : character.isDigit = true) :
    Consumes signPart [] (StartsWith character) depth false := by
  have look : Consumes peek [] (StartsWith character) depth (some character) := consumes_peek character
  apply look.lastly _ fun rest follows => follows
  split
  · rename_i minus
    cases minus
    cases digit
  · exact .pure false

theorem consumes_spelling (negative : Bool) (number : Nat) :
    Consumes (spelling false) ((if negative then ['-'] else []) ++ Nat.toDigits 10 number) Settled depth
      ⟨negative, Nat.toDigits 10 number, [], none⟩ := by
  have parts : Consumes (do return ⟨negative, ← wholePart false, ← fractionPart false, ← powerPart false⟩)
      (Nat.toDigits 10 number) Settled depth (⟨negative, Nat.toDigits 10 number, [], none⟩ : Spelling) := by
    apply (consumes_wholePart number).lastly _ fun rest follows => follows
    apply consumes_fractionPart.lastly _ fun rest follows => follows
    apply consumes_powerPart.lastly _ fun rest follows => follows
    exact .pure _
  cases negative with
  | true =>
      have sign : Consumes signPart ['-'] Anything depth true :=
        (consumes_peek '-').seeing ((consumes_bump '-').andThen (.pure true))
      exact sign.andThen parts
  | false =>
      rcases toDigits_ten_cons number with ⟨first, others, digits, digit⟩
      rw [digits] at parts ⊢
      exact (consumes_signPart_of_digit digit).seeing parts

theorem print_integer (value : Int) :
    print (.integer value) = (if value < 0 then ['-'] else []) ++ Nat.toDigits 10 value.natAbs := by
  rw [print, Decimal.toList_toString]

theorem consumes_number (value : Int) (fits : fits64 value = true) :
    Consumes number (print (.integer value)) Settled depth (.integer value) := by
  have spelled : Consumes (spelling false) _ Settled depth _ := consumes_spelling (decide (value < 0)) value.natAbs
  simp only [decide_eq_true_eq] at spelled
  rw [print_integer]
  apply spelled.lastly _ fun rest follows => follows
  have magnitude : digitValue (Nat.toDigits 10 value.natAbs) = value.natAbs := Nat.ofDigitChars_ten_toDigits
  have bounds : Word.least64 ≤ value ∧ value ≤ Word.unsigned64 := by
    unfold fits64 at fits
    simpa only [Bool.and_eq_true, decide_eq_true_eq] using fits
  unfold numberOf
  dsimp only
  rw [magnitude]
  by_cases negative : value < 0
  · have inverse : -(value.natAbs : Int) = value := by omega
    rw [decide_eq_true negative, Bool.not_true, Bool.false_and, if_neg Bool.false_ne_true, inverse,
      decide_eq_true (show 0 < value.natAbs by omega), decide_eq_true bounds.1]
    exact .pure _
  · have same : (value.natAbs : Int) = value := by omega
    have small : value.natAbs < UInt64.size := by
      have upper := bounds.2
      unfold UInt64.size
      simp only [Word.unsigned64, UInt64.size] at upper
      omega
    rw [decide_eq_false negative, decide_eq_true small, same]
    exact .pure _

end

end LedgerService.Json.Reading
