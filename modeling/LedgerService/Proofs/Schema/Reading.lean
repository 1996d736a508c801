import LedgerService.Proofs.Schema.Decoding

/-!
# Reading what a schema describes

Reading typed text looks at one character at a time and never builds the JSON value, but on the text of a value that
describes a typed one it ends with that one (`Schema.consumes_read`). The induction is on the schema; the reader of an
object keeps the slots that the members read so far have filled (`Fields.consumes_readMember`).
-/

namespace LedgerService

open Json Json.Reading

namespace Schema

variable {α : Type} {depth : Nat}

theorem consumes_readText (wanted value : String) :
    Consumes (readText wanted) (printText value) Anything depth value := by
  rw [printText]
  apply (consumes_peekToken rfl).seeing
  exact consumes_textToken value

theorem consumes_readNamed {names : List String} {ofName : String → Option α} {name : String} {value : α}
    (known : ofName name = some value) (wanted : String) :
    Consumes (readNamed names ofName wanted) (printText name) Anything depth value := by
  apply (consumes_readText wanted name).lastly _ fun _ _ => trivial
  rw [known]
  exact .pure value

theorem consumes_readChoice {names : List String} {ofName : String → Option α} {name : String} {value : α}
    (known : ofName name = some value) : Consumes (readChoice names ofName) (printText name) Anything depth value := by
  have read : Consumes (readNamed names ofName identifierWanted) (printText name) Anything depth value :=
    consumes_readNamed known _
  rw [printText] at read ⊢
  exact (consumes_peekToken rfl).seeing read

theorem consumes_readBoolean (value : Bool) : Consumes readBoolean (print (.boolean value)) Anything depth value := by
  cases value with
  | true =>
      apply (consumes_peekToken rfl).seeing
      rw [← List.singleton_append]
      apply (consumes_bump 't').andThen
      exact (consumes_word _).lastly (.pure _) fun _ _ => trivial
  | false =>
      apply (consumes_peekToken rfl).seeing
      rw [← List.singleton_append]
      apply (consumes_bump 'f').andThen
      exact (consumes_word _).lastly (.pure _) fun _ _ => trivial

theorem consumes_readInteger {decode : Json → Except Fault α} {number : Int} {value : α} (fits : fits64 number = true)
    (decoded : decode (.integer number) = .ok value) (wanted : String) :
    Consumes (readInteger decode wanted) (print (.integer number)) Settled depth value := by
  rcases print_integer_cons number with ⟨first, others, text, leading⟩
  have visible : isBlank first = false := by
    rcases leading with rfl | digit
    · rfl
    · exact (begins_of_digit digit .null).visible
  have numeric : (first = '-' || first.isDigit) = true := by
    rcases leading with rfl | digit
    · rfl
    · rw [digit, Bool.or_true]
  rw [text]
  apply (consumes_peekToken visible).seeing
  dsimp only
  rw [if_pos numeric, ← text]
  apply (consumes_number number fits).lastly _ fun rest follows => follows
  rw [decoded]
  exact .pure value

theorem consumes_readTagged {name tag variant : String} {names : List String} {index : Nat}
    {members : List (String × Json)}
    (known : names.findIdx? (· == variant) = some index)
    (single : (members.filter fun member => member.1 == tag) = [(tag, .text variant)])
    (readable : ∀ member ∈ members, member.2.Readable depth) :
    Consumes (readTagged name tag names) (print (.object members)) Anything (depth + 1)
      (index, .members (members.filter fun member => member.1 != tag)) := by
  apply (consumes_peekToken rfl).seeing
  apply Consumes.locate
  apply consumes_object
  intro steps enough
  let reached (earlier : List (String × Json)) : Option Nat × List (String × Json) :=
    (if earlier.any fun member => member.1 == tag then some index else none,
      (earlier.filter fun member => member.1 != tag).reverse)
  have present : (members.any fun member => member.1 == tag) = true := Fields.any_key_eq_true single
  refine (consumes_membersWith reached ?reads enough).lastly ?finish fun rest follows => follows
  case finish =>
    simp only [reached, present, if_true, List.reverse_reverse]
    exact .pure _
  case reads =>
    intro earlier one later split
    rw [← List.singleton_append]
    by_cases same : one.1 = tag
    · rcases alone_of_split split same single with ⟨rfl, first⟩
      have now : reached (earlier ++ [(tag, .text variant)]) =
          (some index, (earlier.filter fun member => member.1 != tag).reverse) := by
        simp [reached]
      have before : (reached earlier).1 = none := by
        simp [reached, first]
      rw [if_pos rfl, before, now]
      apply consumes_colon.andThen
      apply (consumes_readNamed known identifierWanted).lastly _ fun _ _ => trivial
      exact .pure _
    · have apart : (one.1 == tag) = false := beq_eq_false_iff_ne.mpr same
      have now : reached (earlier ++ [one]) = ((reached earlier).1, one :: (reached earlier).2) := by
        simp only [reached, any_key_concat apart, filter_key_concat apart, List.reverse_append, List.reverse_singleton,
          List.singleton_append]
      have inside : one ∈ members := by simp [split]
      have read : Consumes (do
          return ((reached earlier).1, (one.1, ← Reading.value (← fuel)) :: (reached earlier).2)) (print one.2) Settled
          depth (reached (earlier ++ [one])) := by
        apply Consumes.fuel
        intro steps enough
        rw [now]
        exact (consumes_value (readable one inside) enough).lastly (.pure _) fun rest follows => follows
      rw [if_neg same]
      exact consumes_colon.andThen read

end Schema

namespace Fields

variable {α β : Type} {key : String} {presence : Presence α} {schema : Schema α} {rest : Fields β}

theorem readMember_own (others : rest.Slots) :
    (field key presence schema rest).readMember (slot key presence schema Option.none others) key = (do
      colon
      return slot key presence schema (some (← schema.read)) others) :=
  if_pos rfl

theorem readMember_other {name : String} (different : key ≠ name) (first : Option α) (others : rest.Slots) :
    (field key presence schema rest).readMember (slot key presence schema first others) name = (do
      return slot key presence schema first (← rest.readMember others name)) :=
  if_neg different

end Fields

mutual

theorem Schema.consumes_read : {α : Type} → (schema : Schema α) → schema.Lossless → {json : Json} → {value : α} →
    schema.Describes json value → Consumes schema.read (print json) Settled schema.depth value
  | _, .word32, lossless, _, value, described => by
      have decoded := Schema.decode_of_describes lossless described
      have readable := Schema.readable_of_describes _ described
      rw [Schema.Describes] at described
      rw [described] at decoded readable ⊢
      cases readable with
      | integer fits => exact Schema.consumes_readInteger fits decoded "u32"
  | _, .word64, lossless, _, value, described => by
      have decoded := Schema.decode_of_describes lossless described
      have readable := Schema.readable_of_describes _ described
      rw [Schema.Describes] at described
      rw [described] at decoded readable ⊢
      cases readable with
      | integer fits => exact Schema.consumes_readInteger fits decoded "u64"
  | _, .signed64, lossless, _, value, described => by
      have decoded := Schema.decode_of_describes lossless described
      have readable := Schema.readable_of_describes _ described
      rw [Schema.Describes] at described
      rw [described] at decoded readable ⊢
      cases readable with
      | integer fits => exact Schema.consumes_readInteger fits decoded "i64"
  | _, .boolean, _, _, value, described => by
      rw [Schema.Describes] at described
      rw [described, Schema.read]
      exact (Schema.consumes_readBoolean value).mono (fun _ _ => trivial) (Nat.le_refl _)
  | _, .text, _, _, value, described => by
      rw [Schema.Describes] at described
      rw [described, Schema.read]
      exact (Schema.consumes_readText _ value).mono (fun _ _ => trivial) (Nat.le_refl _)
  | _, .optional inner, lossless, _, none, described => by
      rw [Schema.Describes] at described
      rw [described, Schema.read]
      apply (consumes_peekToken rfl).seeing
      rw [← List.singleton_append]
      apply (consumes_bump 'n').andThen
      exact (consumes_word _).lastly (.pure _) fun _ _ => trivial
  | _, .optional inner, lossless, json, some present, described => by
      have readable := Schema.readable_of_describes _ described
      rw [Schema.Describes] at described
      have read : Consumes (do return some (← inner.read)) (print json) Settled inner.depth (some present) :=
        (inner.consumes_read lossless.1 described.2).lastly (.pure _) fun rest follows => follows
      rcases readable.begins with ⟨first, others, text, begins⟩
      rw [Schema.read, Schema.depth, text]
      rw [text] at read
      apply (consumes_peekToken begins.visible).seeing
      split
      · rename_i same
        exact absurd (begins.null (Option.some.inj same)) described.1
      · exact read
  | _, .list inner, lossless, json, values, described => by
      have readable := Schema.readable_of_describes _ described
      rw [Schema.Describes] at described
      rcases described with ⟨items, rfl, each⟩
      rw [Schema.read, Schema.depth]
      apply (consumes_peekToken rfl).seeing
      apply Consumes.locate
      have begins : ∀ json ∈ items, ∃ first others, print json = first :: others ∧ Begins first json := by
        cases readable with
        | array inside => exact fun json member => (inside json member).begins
      have reads : List.Forall₂ (fun json value => Consumes inner.read (print json) Settled inner.depth value)
          items values :=
        each.imp fun json value described => inner.consumes_read lossless described
      exact (consumes_list begins reads).mono (fun _ _ => trivial) (Nat.le_refl _)
  | _, .record _ fields build split, lossless, _, value, described => by
      rw [Schema.Describes] at described
      rcases described with ⟨members, rfl, each⟩
      rw [Schema.read, Schema.depth]
      apply (consumes_peekToken rfl).seeing
      refine Consumes.mono (Consumes.locate (consumes_object ?_)) (fun _ _ => trivial) (Nat.le_refl _)
      intro steps enough
      rw [← fields.filled_nil (split value)]
      have read := fields.consumes_readMember lossless.1 each
      apply (consumes_membersWith (fields.filled (split value)) read enough).lastly _ fun rest follows => follows
      rw [fields.complete_filled each]
      dsimp only
      rw [lossless.2 value]
      exact .pure value
  | _, .choice names ofName toName, lossless, _, value, described => by
      rw [Schema.Describes] at described
      rw [described, Schema.read]
      exact (Schema.consumes_readChoice (lossless value)).mono (fun _ _ => trivial) (Nat.le_refl _)
  | _, .tagged name tag variants build split, lossless, _, value, described => by
      rw [Schema.Describes] at described
      rcases described with ⟨members, rfl, each⟩
      rcases variants.decode_of_describes name tag lossless.1 each with ⟨index, variant, single, place, decoded⟩
      rw [Schema.read, Schema.depth]
      have readable := variants.readable_of_describes each
      apply (Schema.consumes_readTagged (findIdx?_of_nodup lossless.2.1 place) single readable).lastly _
        fun _ _ => trivial
      dsimp only
      rw [decoded]
      dsimp only
      rw [lossless.2.2 value]
      exact .pure value

theorem Fields.consumes_readMember : {α : Type} → (fields : Fields α) → fields.Lossless →
    {members : List (String × Json)} → {values : α} → fields.Describes members values →
    ∀ earlier one later, members = earlier ++ one :: later →
      Consumes (fields.readMember (fields.filled values earlier) one.1) (':' :: print one.2) Settled fields.depth
        (fields.filled values (earlier ++ [one]))
  | _, .done, _, _, _, described, earlier, one, later, split => by
      rw [Fields.Describes, split] at described
      simp at described
  | _, .field key presence schema rest, lossless, members, values, described, earlier, one, later, split => by
      rw [Fields.Describes] at described
      rcases described with ⟨own, others⟩
      rw [Fields.depth]
      by_cases same : one.1 = key
      · rcases own with ⟨absent, -⟩ | ⟨json, alone, ofValue⟩
        · have present := any_key_of_split split same
          rw [Fields.any_key_eq_false absent] at present
          cases present
        · rcases alone_of_split split same alone with ⟨rfl, first⟩
          have read := (schema.consumes_read lossless.2.2.1 ofValue).mono (fun _ follows => follows)
            (Nat.le_max_left schema.depth rest.depth)
          rw [Fields.filled_concat_own (beq_self_eq_true key), Fields.filled_field, first, if_neg Bool.false_ne_true,
            Fields.readMember_own, ← List.singleton_append]
          apply consumes_colon.andThen
          exact read.lastly (.pure _) fun rest follows => follows
      · have apart : (one.1 == key) = false := beq_eq_false_iff_ne.mpr same
        have read := (rest.consumes_readMember lossless.2.2.2 others
          (earlier.filter fun member => member.1 != key) one (later.filter fun member => member.1 != key)
          (by rw [split]; simp [apart, bne])).mono (fun _ follows => follows) (Nat.le_max_right schema.depth rest.depth)
        rw [Fields.filled_concat_other apart, Fields.filled_field, Fields.readMember_other (Ne.symm same)]
        exact read.lastly (.pure _) fun rest follows => follows

end

theorem Schema.parse_of_describes {α : Type} {schema : Schema α} (lossless : schema.Lossless)
    (shallow : schema.depth < levelLimit) {json : Json} {value : α} (described : schema.Describes json value) :
    schema.parse json.compact = .ok value :=
  whole_of_consumes (schema.consumes_read lossless described) shallow

end LedgerService
