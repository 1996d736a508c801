import LedgerService.Proofs.Json.Consumption
import Mathlib.Data.List.Forall2

/-!
# JSON text read back

The compact text of a value is read back as this value, provided that it is not nested too deeply and that its
numbers are integers of 64 bits (`parse_compact`). Lists and objects are followed item by item, so that the same
statements serve readings that give typed values.
-/

namespace LedgerService.Json

open Reading

/-- The text of a member. -/
def printMember (member : String × Json) : List Char := printText member.1 ++ ':' :: print member.2

theorem printItems_cons (item : Json) (others : List Json) :
    printItems (item :: others) = print item ++ others.flatMap fun other => ',' :: print other := by
  induction others generalizing item with
  | nil => exact (List.append_nil _).symm
  | cons next rest ih =>
      rw [List.flatMap_cons, printItems, ih next]
      · rfl
      · simp

theorem printMembers_cons (member : String × Json) (others : List (String × Json)) :
    printMembers (member :: others) = printMember member ++ others.flatMap fun other => ',' :: printMember other := by
  induction others generalizing member with
  | nil => exact (List.append_nil _).symm
  | cons next rest ih =>
      rcases member with ⟨key, value⟩
      rw [List.flatMap_cons, printMembers, ih next]
      · simp [printMember]
      · simp

/-- Nested at most so deeply, and all numbers are integers of 64 bits. -/
inductive Readable : Nat → Json → Prop where
  | null {depth : Nat} : Readable depth .null
  | boolean {depth : Nat} (value : Bool) : Readable depth (.boolean value)
  | integer {depth : Nat} {value : Int} (fits : fits64 value = true) : Readable depth (.integer value)
  | text {depth : Nat} (value : String) : Readable depth (.text value)
  | array {depth : Nat} {items : List Json} (inside : ∀ item ∈ items, Readable depth item) :
      Readable (depth + 1) (.array items)
  | object {depth : Nat} {members : List (String × Json)} (inside : ∀ member ∈ members, Readable depth member.2) :
      Readable (depth + 1) (.object members)

/-- The character can begin the text of the value. -/
structure Begins (character : Char) (json : Json) : Prop where
  visible : isBlank character = false
  not_listEnd : character ≠ ']'
  null : character = 'n' → json = .null

theorem ne_of_isDigit {character letter : Char} (digit : character.isDigit = true) (noDigit : letter.isDigit = false) :
    character ≠ letter := by
  rintro rfl
  rw [digit] at noDigit
  cases noDigit

theorem begins_of_digit {character : Char} (digit : character.isDigit = true) (json : Json) :
    Begins character json := by
  have other (letter : Char) (noDigit : letter.isDigit = false) : character ≠ letter := ne_of_isDigit digit noDigit
  refine ⟨?_, other ']' rfl, fun same => absurd same (other 'n' rfl)⟩
  unfold isBlank
  simp [other ' ' rfl, other '\n' rfl, other '\t' rfl, other '\r' rfl]

theorem print_integer_cons (value : Int) :
    ∃ first others, print (.integer value) = first :: others ∧ (first = '-' ∨ first.isDigit = true) := by
  rw [print_integer]
  split
  · exact ⟨'-', _, rfl, .inl rfl⟩
  · rcases Decimal.toDigits_ten_cons value.natAbs with ⟨first, others, digits, digit⟩
    exact ⟨first, others, digits, .inr digit⟩

theorem Readable.begins {depth : Nat} {json : Json} (readable : json.Readable depth) :
    ∃ first others, print json = first :: others ∧ Begins first json := by
  cases readable with
  | null => exact ⟨'n', _, rfl, rfl, by decide, fun _ => rfl⟩
  | boolean value =>
      cases value
      · exact ⟨'f', _, rfl, rfl, by decide, fun same => absurd same (by decide)⟩
      · exact ⟨'t', _, rfl, rfl, by decide, fun same => absurd same (by decide)⟩
  | @integer depth number fits =>
      rcases print_integer_cons number with ⟨first, others, text, rfl | digit⟩
      · exact ⟨'-', others, text, rfl, by decide, fun same => absurd same (by decide)⟩
      · exact ⟨first, others, text, begins_of_digit digit _⟩
  | text value => exact ⟨'"', _, rfl, rfl, by decide, fun same => absurd same (by decide)⟩
  | array inside => exact ⟨'[', _, rfl, rfl, by decide, fun same => absurd same (by decide)⟩
  | object inside => exact ⟨openingBrace, _, rfl, rfl, by decide, fun same => absurd same (by decide)⟩

namespace Reading

variable {α σ : Type} {depth : Nat}

theorem exists_eq_succ_of_lt {least steps : Nat} (enough : least < steps) : ∃ fewer, steps = fewer + 1 :=
  Nat.exists_eq_succ_of_ne_zero (Nat.ne_of_gt (Nat.lt_of_le_of_lt (Nat.zero_le least) enough))

/-! ### Lists -/

theorem consumes_moreItems_first {character : Char} {json : Json} (begins : Begins character json) :
    Consumes (moreItems true) [] (StartsWith character) depth true := by
  have seen : Consumes peekToken [] (StartsWith character) depth _ := consumes_peekToken begins.visible
  apply seen.lastly _ fun rest follows => follows
  split
  · contradiction
  · rename_i same
    exact absurd (Option.some.inj same) begins.not_listEnd
  · exact .pure true
  · exact .pure true

theorem consumes_moreItems_next {character : Char} {json : Json} (begins : Begins character json) :
    Consumes (moreItems false) [','] (StartsWith character) depth true := by
  have seen : Consumes peekToken [] (StartsWith character) depth _ := consumes_peekToken begins.visible
  apply (consumes_peekToken rfl).seeing
  apply Consumes.lastly (consumes_bump ',') _ fun _ _ => trivial
  apply seen.lastly _ fun rest follows => follows
  split
  · rename_i same
    exact absurd (Option.some.inj same) begins.not_listEnd
  · exact .pure true
  · contradiction

/-- Behind an item or a member there is a comma or the end, which do not go on with a number. -/
theorem settled_separated {γ : Type} {ending : Char}
    (stops : ending.isDigit = false ∧ ending ≠ '.' ∧ ending ≠ 'e' ∧ ending ≠ 'E') (others : List γ)
    (shown : γ → List Char) {rest : List Char} (follows : StartsWith ending rest) :
    Settled ((others.flatMap fun other => ',' :: shown other) ++ rest) := by
  intro character next
  cases others with
  | nil =>
      rw [List.flatMap_nil, List.nil_append, follows] at next
      cases next
      exact stops
  | cons other others =>
      cases next
      decide

theorem consumes_itemsWith_next {item : Reading α} {items : List Json} {values : List α}
    (begins : ∀ json ∈ items, ∃ first others, print json = first :: others ∧ Begins first json)
    (reads : List.Forall₂ (fun json value => Consumes item (print json) Settled depth value) items values)
    {steps : Nat} (enough : items.length < steps) :
    Consumes (itemsWith item steps false) (items.flatMap fun other => ',' :: print other) (StartsWith ']') depth
      values := by
  induction reads generalizing steps with
  | nil =>
      rcases exists_eq_succ_of_lt enough with ⟨fewer, rfl⟩
      exact (consumes_moreItems_end false).lastly (.pure []) fun rest follows => follows
  | @cons json value others values read reads ih =>
      rcases exists_eq_succ_of_lt enough with ⟨fewer, rfl⟩
      have rest := ih (fun json member => begins json (List.mem_cons_of_mem _ member)) (Nat.lt_of_succ_lt_succ enough)
      rcases begins json List.mem_cons_self with ⟨first, tail, text, first_begins⟩
      rw [List.flatMap_cons, List.cons_append, ← List.singleton_append]
      apply (consumes_moreItems_next first_begins).bind
      · rw [if_pos rfl]
        apply read.bind
        · exact rest.lastly (.pure _) fun rest follows => follows
        · intro rest follows
          exact settled_separated (by decide) others print follows
      · intro rest follows
        rw [text]
        rfl

theorem consumes_itemsWith {item : Reading α} {items : List Json} {values : List α}
    (begins : ∀ json ∈ items, ∃ first others, print json = first :: others ∧ Begins first json)
    (reads : List.Forall₂ (fun json value => Consumes item (print json) Settled depth value) items values)
    {steps : Nat} (enough : items.length < steps) :
    Consumes (itemsWith item steps true) (printItems items) (StartsWith ']') depth values := by
  rcases exists_eq_succ_of_lt enough with ⟨fewer, rfl⟩
  cases reads with
  | nil => exact (consumes_moreItems_end true).lastly (.pure []) fun rest follows => follows
  | @cons json value others values read reads =>
      have rest := consumes_itemsWith_next (fun json member => begins json (List.mem_cons_of_mem _ member)) reads
        (Nat.lt_of_succ_lt_succ enough)
      rcases begins json List.mem_cons_self with ⟨first, tail, text, first_begins⟩
      rw [printItems_cons, ← List.nil_append (print json ++ _)]
      apply (consumes_moreItems_first first_begins).bind
      · rw [if_pos rfl]
        apply read.bind
        · exact rest.lastly (.pure _) fun rest follows => follows
        · intro rest follows
          exact settled_separated (by decide) others print follows
      · intro rest follows
        rw [text]
        rfl

/-! ### Objects -/

theorem consumes_nextKey_end (first : Bool) : Consumes (nextKey first) [] (StartsWith closingBrace) depth none := by
  have seen : Consumes peekToken [] (StartsWith closingBrace) depth _ := consumes_peekToken rfl
  exact seen.lastly (.pure none) fun rest follows => follows

theorem consumes_nextKey_first (key : String) : Consumes (nextKey true) (printText key) Anything depth (some key) := by
  rw [printText]
  apply (consumes_peekToken rfl).seeing
  exact (consumes_textToken key).lastly (.pure _) fun _ _ => trivial

theorem consumes_nextKey_next (key : String) :
    Consumes (nextKey false) (',' :: printText key) Anything depth (some key) := by
  apply (consumes_peekToken rfl).seeing
  rw [← List.singleton_append]
  apply (consumes_bump ',').andThen
  rw [printText]
  apply (consumes_peekToken rfl).seeing
  exact (consumes_textToken key).lastly (.pure _) fun _ _ => trivial

/-- Members one after the other; `reached` is the state that the given members lead to. -/
theorem consumes_membersWith_next {member : σ → String → Reading σ} {members : List (String × Json)}
    (reached : List (String × Json) → σ)
    (reads : ∀ earlier one later, members = earlier ++ one :: later →
      Consumes (member (reached earlier) one.1) (':' :: print one.2) Settled depth (reached (earlier ++ [one])))
    {earlier later : List (String × Json)} (split : members = earlier ++ later) {steps : Nat}
    (enough : later.length < steps) :
    Consumes (membersWith member steps false (reached earlier)) (later.flatMap fun other => ',' :: printMember other)
      (StartsWith closingBrace) depth (reached members) := by
  induction later generalizing earlier steps with
  | nil =>
      rcases exists_eq_succ_of_lt enough with ⟨fewer, rfl⟩
      rw [List.append_nil] at split
      rw [split]
      exact (consumes_nextKey_end false).lastly (.pure _) fun rest follows => follows
  | cons one others ih =>
      rcases exists_eq_succ_of_lt enough with ⟨fewer, rfl⟩
      have read := reads earlier one others split
      rw [List.append_cons] at split
      have rest := ih split (Nat.lt_of_succ_lt_succ enough)
      rw [List.flatMap_cons, printMember, ← List.cons_append, List.append_assoc]
      apply (consumes_nextKey_next one.1).andThen
      apply read.bind rest
      intro rest follows
      exact settled_separated (by decide) others printMember follows

theorem consumes_membersWith {member : σ → String → Reading σ} {members : List (String × Json)}
    (reached : List (String × Json) → σ)
    (reads : ∀ earlier one later, members = earlier ++ one :: later →
      Consumes (member (reached earlier) one.1) (':' :: print one.2) Settled depth (reached (earlier ++ [one])))
    {steps : Nat} (enough : members.length < steps) :
    Consumes (membersWith member steps true (reached [])) (printMembers members) (StartsWith closingBrace) depth
      (reached members) := by
  rcases exists_eq_succ_of_lt enough with ⟨fewer, rfl⟩
  cases members with
  | nil => exact (consumes_nextKey_end true).lastly (.pure _) fun rest follows => follows
  | cons one others =>
      have read := reads [] one others rfl
      have rest := consumes_membersWith_next reached reads (List.append_cons [] one others)
        (Nat.lt_of_succ_lt_succ enough)
      rw [printMembers_cons, printMember, List.append_assoc]
      apply (consumes_nextKey_first one.1).andThen
      apply read.bind rest
      intro rest follows
      exact settled_separated (by decide) others printMember follows

/-! ### Values -/

theorem length_separated {γ : Type} (shown : γ → List Char) (others : List γ) :
    others.length ≤ (others.flatMap fun other => ',' :: shown other).length := by
  induction others with
  | nil => exact Nat.le_refl 0
  | cons other others ih =>
      rw [List.flatMap_cons, List.length_append, List.length_cons, List.length_cons]
      omega

theorem length_le_of_mem_separated {γ : Type} (shown : γ → List Char) {others : List γ} {one : γ}
    (member : one ∈ others) : (shown one).length ≤ (others.flatMap fun other => ',' :: shown other).length := by
  induction others with
  | nil => cases member
  | cons other others ih =>
      rw [List.flatMap_cons, List.length_append, List.length_cons]
      rcases List.mem_cons.mp member with rfl | later
      · omega
      · have inside := ih later
        omega

theorem length_printItems {items : List Json}
    (begins : ∀ json ∈ items, ∃ first others, print json = first :: others ∧ Begins first json) :
    items.length ≤ (printItems items).length := by
  cases items with
  | nil => exact Nat.le_refl 0
  | cons item others =>
      rcases begins item List.mem_cons_self with ⟨first, tail, text, -⟩
      have separated := length_separated print others
      rw [printItems_cons, text, List.length_append, List.length_cons, List.length_cons]
      omega

theorem length_le_of_mem_printItems {items : List Json} {item : Json} (member : item ∈ items) :
    (print item).length ≤ (printItems items).length := by
  cases items with
  | nil => cases member
  | cons first others =>
      rw [printItems_cons, List.length_append]
      rcases List.mem_cons.mp member with rfl | later
      · omega
      · have inside := length_le_of_mem_separated print later
        omega

theorem length_printMembers (members : List (String × Json)) : members.length ≤ (printMembers members).length := by
  cases members with
  | nil => exact Nat.le_refl 0
  | cons member others =>
      have separated := length_separated printMember others
      rw [printMembers_cons, printMember, printText, List.length_append, List.length_append, List.length_cons,
        List.length_cons, List.length_cons]
      omega

theorem length_le_of_mem_printMembers {members : List (String × Json)} {one : String × Json} (member : one ∈ members) :
    (print one.2).length ≤ (printMembers members).length := by
  have own : (print one.2).length ≤ (printMember one).length := by
    rw [printMember, List.length_append, List.length_cons]
    omega
  cases members with
  | nil => cases member
  | cons first others =>
      rw [printMembers_cons, List.length_append]
      rcases List.mem_cons.mp member with rfl | later
      · omega
      · have inside := length_le_of_mem_separated printMember later
        omega

theorem consumes_list {item : Reading α} {items : List Json} {values : List α}
    (begins : ∀ json ∈ items, ∃ first others, print json = first :: others ∧ Begins first json)
    (reads : List.Forall₂ (fun json value => Consumes item (print json) Settled depth value) items values) :
    Consumes (delimited (do itemsWith item (← fuel) true) listEnd) (print (.array items)) Anything (depth + 1)
      values := by
  have inner : Consumes (do itemsWith item (← fuel) true) (printItems items) (StartsWith ']') depth values := by
    apply Consumes.fuel
    intro steps enough
    exact consumes_itemsWith begins reads (Nat.lt_of_le_of_lt (length_printItems begins) enough)
  exact inner.delimited consumes_listEnd fun _ _ => rfl

theorem consumes_object {members : List (String × Json)} {body : Nat → Reading α} {value : α}
    (inner : ∀ steps, members.length < steps →
      Consumes (body steps) (printMembers members) (StartsWith closingBrace) depth value) :
    Consumes (delimited (fuel >>= body) objectEnd) (print (.object members)) Anything (depth + 1) value := by
  have fueled : Consumes (fuel >>= body) (printMembers members) (StartsWith closingBrace) depth value := by
    apply Consumes.fuel
    intro steps enough
    exact inner steps (Nat.lt_of_le_of_lt (length_printMembers members) enough)
  exact fueled.delimited consumes_objectEnd fun _ _ => rfl

theorem consumes_value {json : Json} (readable : json.Readable depth) {steps : Nat}
    (enough : (print json).length < steps) : Consumes (value steps) (print json) Settled depth json := by
  induction readable generalizing steps with
  | null =>
      rcases exists_eq_succ_of_lt enough with ⟨fewer, rfl⟩
      apply (consumes_peekToken rfl).seeing
      rw [← List.singleton_append]
      apply (consumes_bump 'n').andThen
      exact (consumes_word _).lastly (.pure _) fun _ _ => trivial
  | boolean value =>
      rcases exists_eq_succ_of_lt enough with ⟨fewer, rfl⟩
      cases value with
      | true =>
          apply (consumes_peekToken rfl).seeing
          rw [← List.singleton_append]
          apply (consumes_bump 't').andThen
          exact (consumes_word _).lastly (.pure _) fun _ _ => trivial
      | false =>
          apply (consumes_peekToken rfl).seeing
          rw [← List.singleton_append]
          apply (consumes_bump 'f').andThen
          exact (consumes_word _).lastly (.pure _) fun _ _ => trivial
  | @integer depth number fits =>
      rcases exists_eq_succ_of_lt enough with ⟨fewer, rfl⟩
      have read : Consumes Reading.number (print (.integer number)) Settled depth (.integer number) :=
        consumes_number number fits
      rcases print_integer_cons number with ⟨first, others, text, rfl | digit⟩
      · rw [text] at read ⊢
        exact (consumes_peekToken rfl).seeing read
      · rw [text] at read ⊢
        apply (consumes_peekToken (begins_of_digit digit .null).visible).seeing
        have other (letter : Char) (noDigit : letter.isDigit = false) : first ≠ letter := ne_of_isDigit digit noDigit
        split
        · contradiction
        · rename_i same
          exact absurd (Option.some.inj same) (other 'n' rfl)
        · rename_i same
          exact absurd (Option.some.inj same) (other 't' rfl)
        · rename_i same
          exact absurd (Option.some.inj same) (other 'f' rfl)
        · rename_i same
          exact absurd (Option.some.inj same) (other '"' rfl)
        · rename_i same
          exact absurd (Option.some.inj same) (other '[' rfl)
        · rename_i same
          rw [← Option.some.inj same, if_neg (other openingBrace rfl), digit, Bool.or_true]
          exact read
  | text value =>
      rcases exists_eq_succ_of_lt enough with ⟨fewer, rfl⟩
      apply (consumes_peekToken rfl).seeing
      exact (consumes_textToken value).lastly (.pure _) fun _ _ => trivial
  | @array depth items inside ih =>
      rcases exists_eq_succ_of_lt enough with ⟨fewer, rfl⟩
      apply (consumes_peekToken rfl).seeing
      have begins : ∀ json ∈ items, ∃ first others, print json = first :: others ∧ Begins first json :=
        fun json member => (inside json member).begins
      have reads : List.Forall₂ (fun json result => Consumes (value fewer) (print json) Settled depth result)
          items items := by
        apply List.forall₂_same.mpr
        intro json member
        apply ih json member
        have shorter := length_le_of_mem_printItems member
        rw [print, List.length_cons, List.length_append] at enough
        omega
      exact (consumes_list begins reads).lastly (.pure _) fun _ _ => trivial
  | @object depth members inside ih =>
      rcases exists_eq_succ_of_lt enough with ⟨fewer, rfl⟩
      apply (consumes_peekToken rfl).seeing
      have reads : ∀ earlier one later, members = earlier ++ one :: later →
          Consumes (do
              colon
              return (one.1, ← value fewer) :: earlier.reverse) (':' :: print one.2) Settled depth
            (earlier ++ [one]).reverse := by
        intro earlier one later split
        have member : one ∈ members := by simp [split]
        have shorter := length_le_of_mem_printMembers member
        have small : (print one.2).length < fewer := by
          rw [print, List.length_cons, List.length_append] at enough
          omega
        rw [← List.singleton_append, List.reverse_append]
        apply consumes_colon.andThen
        exact (ih one member small).lastly (.pure _) fun rest follows => follows
      have object : Consumes (delimited (do
          membersWith (fun members key => do
            colon
            return (key, ← value fewer) :: members) (← fuel) true []) objectEnd)
          (print (.object members)) Anything (depth + 1) members.reverse := by
        apply consumes_object
        intro steps room
        exact consumes_membersWith List.reverse reads room
      apply object.lastly _ fun _ _ => trivial
      rw [List.reverse_reverse]
      exact .pure _

theorem whole_of_consumes {reading : Reading α} {text : List Char} {value : α}
    (consumes : Consumes reading text Settled depth value) (shallow : depth < levelLimit) :
    whole reading (String.ofList text) = .ok value := by
  have start : (Cursor.start (String.ofList text)).rest = text ++ [] := by
    rw [Cursor.start, String.toList_ofList, List.append_nil]
  rcases consumes (Cursor.start (String.ofList text)) [] start (by intro character none; cases none) (Nat.le_refl _)
    shallow with ⟨place, done⟩
  have complete : runOn (do
      let result ← reading
      textEnd
      return result) (Cursor.start (String.ofList text)) =
        (.ok value, { Cursor.start (String.ofList text) with rest := [], place }) := runOn_bind done
  exact congrArg Prod.fst complete

end Reading

/-- What is written is what is read back. -/
theorem parse_compact {depth : Nat} {json : Json} (readable : json.Readable depth) (shallow : depth < levelLimit) :
    parse json.compact = .ok json := by
  have read : Consumes (do Reading.value (← fuel)) (print json) Settled depth json := by
    apply Consumes.fuel
    intro steps enough
    exact consumes_value readable enough
  exact whole_of_consumes read shallow

end LedgerService.Json
