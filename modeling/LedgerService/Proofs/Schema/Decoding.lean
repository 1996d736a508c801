import LedgerService.Proofs.Schema.Description
import Mathlib.Data.List.Nodup

/-!
# Decoding what was written

A value that describes a typed one under a lossless schema is decoded to it (`Schema.decode_of_describes`). The
members of an object may be visited in any order: after some of them, the fields read are those that these members
give (`Fields.storeWith_of_describes`).
-/

namespace LedgerService

theorem findIdx?_of_nodup {names : List String} (distinct : names.Nodup) {index : Nat} {name : String}
    (found : names[index]? = some name) : names.findIdx? (· == name) = some index := by
  rw [List.findIdx?_eq_some_iff_getElem]
  rcases List.getElem?_eq_some_iff.mp found with ⟨inside, same⟩
  refine ⟨inside, by simp [same], ?_⟩
  intro earlier less
  rw [beq_iff_eq]
  intro again
  have equal := (List.Nodup.getElem_inj_iff distinct).mp (again.trans same.symm)
  omega

theorem any_key_of_split {members earlier later : List (String × Json)} {one : String × Json} {key : String}
    (split : members = earlier ++ one :: later) (same : one.1 = key) :
    (members.any fun member => member.1 == key) = true := by
  rw [split, List.any_append, List.any_cons, beq_iff_eq.mpr same, Bool.true_or, Bool.or_true]

theorem alone_of_split {members earlier later : List (String × Json)} {one : String × Json} {key : String} {json : Json}
    (split : members = earlier ++ one :: later) (same : one.1 = key)
    (alone : (members.filter fun member => member.1 == key) = [(key, json)]) :
    one = (key, json) ∧ (earlier.any fun member => member.1 == key) = false := by
  rw [split, List.filter_append, List.filter_cons, if_pos (beq_iff_eq.mpr same)] at alone
  rcases List.append_eq_singleton_iff.mp alone with ⟨first, only⟩ | ⟨-, none⟩
  · exact ⟨(List.cons.inj only).1, Fields.any_key_eq_false first⟩
  · cases none

theorem any_key_concat {earlier : List (String × Json)} {one : String × Json} {key : String}
    (other : (one.1 == key) = false) :
    ((earlier ++ [one]).any fun member => member.1 == key) = earlier.any fun member => member.1 == key := by
  rw [List.any_append, List.any_cons, other, List.any_nil, Bool.or_false, Bool.or_false]

theorem filter_key_concat {earlier : List (String × Json)} {one : String × Json} {key : String}
    (other : (one.1 == key) = false) :
    ((earlier ++ [one]).filter fun member => member.1 != key) =
      (earlier.filter fun member => member.1 != key) ++ [one] := by
  rw [List.filter_append, List.filter_cons, bne, other]
  rfl

namespace Fields

variable {α β : Type} {key : String} {presence : Presence α} {schema : Schema α} {rest : Fields β} {values : α × β}
  {earlier : List (String × Json)} {one : String × Json}

/-- The first field, if it has been read, and the others. -/
def slot (key : String) (presence : Presence α) (schema : Schema α) (first : Option α) (others : rest.Slots) :
    (field key presence schema rest).Slots :=
  (first, others)

theorem filled_field (members : List (String × Json)) :
    (field key presence schema rest).filled values members =
      slot key presence schema (if members.any fun member => member.1 == key then some values.1 else Option.none)
        (rest.filled values.2 (members.filter fun member => member.1 != key)) := by
  rw [filled]
  rfl

theorem filled_concat_own (own : (one.1 == key) = true) :
    (field key presence schema rest).filled values (earlier ++ [one]) =
      slot key presence schema (some values.1)
        (rest.filled values.2 (earlier.filter fun member => member.1 != key)) := by
  rw [filled_field, List.any_append, List.filter_append]
  simp [own, bne]

theorem filled_concat_other (other : (one.1 == key) = false) :
    (field key presence schema rest).filled values (earlier ++ [one]) =
      slot key presence schema (if earlier.any fun member => member.1 == key then some values.1 else Option.none)
        (rest.filled values.2 ((earlier.filter fun member => member.1 != key) ++ [one])) := by
  rw [filled_field, any_key_concat other, filter_key_concat other]

theorem storeWith_own {buffered : Bool} {others : rest.Slots} {json : Json} {value : α}
    (decoded : schema.decodeWith buffered json = .ok value) :
    (field key presence schema rest).storeWith buffered (slot key presence schema Option.none others) key json =
      .ok (slot key presence schema (some value) others) := by
  have unfolded : (field key presence schema rest).storeWith buffered
      (slot key presence schema Option.none others) key json = (do
      let value ← schema.decodeWith buffered json
      return slot key presence schema (some value) others) := if_pos rfl
  rw [unfolded, decoded]
  rfl

theorem storeWith_other {buffered : Bool} {first : Option α} {others more : rest.Slots} {json : Json} {name : String}
    (different : key ≠ name) (stored : rest.storeWith buffered others name json = .ok more) :
    (field key presence schema rest).storeWith buffered (slot key presence schema first others) name json =
      .ok (slot key presence schema first more) := by
  have unfolded : (field key presence schema rest).storeWith buffered
      (slot key presence schema first others) name json = (do
      let more ← rest.storeWith buffered others name json
      return slot key presence schema first more) := if_neg different
  rw [unfolded, stored]
  rfl

end Fields

theorem foldlM_filled {σ : Type} (members : List (String × Json)) (reached : List (String × Json) → σ)
  (store : σ → String × Json → Except Json.Fault σ)
  (stores : ∀ earlier one later, members = earlier ++ one :: later →
      store (reached earlier) one = .ok (reached (earlier ++ [one]))) :
   members.foldlM store (reached []) = .ok (reached members) := by
  have onward : ∀ earlier later, members = earlier ++ later →
      later.foldlM store (reached earlier) = .ok (reached members) := by
    intro earlier later
    induction later generalizing earlier with
    | nil =>
      intro split
      rw [split, List.append_nil]; rfl
    | cons one others ih =>
      intro split
      rw [List.foldlM_cons, stores earlier one others split]
      exact ih (earlier ++ [one]) (by rw [split, List.append_assoc]; rfl)
  exact onward [] members rfl

theorem Schema.decodeInteger_eq_ok {α : Type} {wanted : String} {lower upper value : Int} {ofInt : Int → α}
    (lowest : lower ≤ value) (greatest : value ≤ upper) :
    decodeInteger wanted lower upper ofInt (.integer value) = .ok (ofInt value) := by
  rw [decodeInteger, decide_eq_true lowest, decide_eq_true greatest]
  rfl

theorem toNat_le_unsigned32 (value : UInt32) : (value.toNat : Int) ≤ Word.unsigned32 :=
  Int.ofNat_le.mpr (Nat.le_of_lt_succ value.toNat_lt)

theorem toNat_le_unsigned64 (value : UInt64) : (value.toNat : Int) ≤ Word.unsigned64 :=
  Int.ofNat_le.mpr (Nat.le_of_lt_succ value.toNat_lt)

theorem least64_le_toInt (value : Int64) : Word.least64 ≤ value.toInt := value.le_toInt

theorem toInt_le_most64 (value : Int64) : value.toInt ≤ Word.most64 := Int.le_of_lt_add_one value.toInt_lt

mutual

theorem Schema.decodeWith_of_describes (buffered : Bool) : {α : Type} → (schema : Schema α) → schema.Lossless →
    {json : Json} → {value : α} → schema.Describes json value → schema.decodeWith buffered json = .ok value
  | _, .word32, _, _, value, described => by
      rw [Schema.Describes] at described
      rw [described, Schema.decodeWith, Schema.decodeInteger_eq_ok (Int.natCast_nonneg _) (toNat_le_unsigned32 value)]
      exact congrArg Except.ok UInt32.ofNat_toNat
  | _, .word64, _, _, value, described => by
      rw [Schema.Describes] at described
      rw [described, Schema.decodeWith, Schema.decodeInteger_eq_ok (Int.natCast_nonneg _) (toNat_le_unsigned64 value)]
      exact congrArg Except.ok UInt64.ofNat_toNat
  | _, .signed64, _, _, value, described => by
      rw [Schema.Describes] at described
      rw [described, Schema.decodeWith, Schema.decodeInteger_eq_ok (least64_le_toInt value) (toInt_le_most64 value)]
      exact congrArg Except.ok (Int64.ofInt_toInt value)
  | _, .boolean, _, _, value, described => by
      rw [Schema.Describes] at described
      rw [described, Schema.decodeWith]
  | _, .text, _, _, value, described => by
      rw [Schema.Describes] at described
      rw [described, Schema.decodeWith]
  | _, .optional inner, lossless, json, value, described => by
      cases value with
      | none =>
          rw [Schema.Describes] at described
          rw [described, Schema.decodeWith]
      | some present =>
          rw [Schema.Describes] at described
          rw [Schema.decodeWith]
          · rw [inner.decodeWith_of_describes buffered lossless.1 described.2]
            rfl
          · exact described.1
  | _, .list inner, lossless, _, values, described => by
      rw [Schema.Describes] at described
      rcases described with ⟨items, rfl, each⟩
      rw [Schema.decodeWith]
      induction each with
      | nil => rfl
      | cons first others ih =>
          rw [List.mapM_cons, inner.decodeWith_of_describes buffered lossless first, ih]
          rfl
  | _, .record _ fields build split, lossless, _, value, described => by
      rw [Schema.Describes] at described
      rcases described with ⟨members, rfl, each⟩
      rw [Schema.decodeWith, ← fields.filled_nil (split value)]
      rw [foldlM_filled members (fields.filled (split value)) _
        (fields.storeWith_of_describes buffered lossless.1 each)]
      dsimp only [bind, Except.bind]
      rw [fields.complete_filled each]
      exact congrArg Except.ok (lossless.2 value)
  | _, .choice names ofName toName, lossless, _, value, described => by
      rw [Schema.Describes] at described
      rw [described, Schema.decodeWith, Schema.decodeChoice, Schema.decodeChoice.named, lossless value]
  | _, .tagged name tag variants build split, lossless, _, value, described => by
      rw [Schema.Describes] at described
      rcases described with ⟨members, rfl, each⟩
      rcases variants.decode_of_describes name tag lossless.1 each with ⟨index, variant, single, place, decoded⟩
      have tagged : Schema.splitTag buffered name tag variants.names (.object members) =
          .ok (index, .members (members.filter fun member => member.1 != tag)) := by
        rw [Schema.splitTag, single]
        dsimp only
        rw [Schema.decodeTag, findIdx?_of_nodup lossless.2.1 place]
        rfl
      rw [Schema.decodeWith, tagged]
      dsimp only [bind, Except.bind]
      rw [decoded]
      exact congrArg Except.ok (lossless.2.2 value)

theorem Fields.storeWith_of_describes (buffered : Bool) : {α : Type} → (fields : Fields α) → fields.Lossless →
    {members : List (String × Json)} → {values : α} → fields.Describes members values →
    ∀ earlier one later, members = earlier ++ one :: later →
      fields.storeWith buffered (fields.filled values earlier) one.1 one.2 =
        .ok (fields.filled values (earlier ++ [one]))
  | _, .done, _, _, _, described, earlier, one, later, split => by
      rw [Fields.Describes, split] at described
      simp at described
  | _, .field key presence schema rest, lossless, members, values, described, earlier, one, later, split => by
      rw [Fields.Describes] at described
      rcases described with ⟨own, others⟩
      by_cases same : one.1 = key
      · rcases own with ⟨absent, -⟩ | ⟨json, alone, ofValue⟩
        · have present := any_key_of_split split same
          rw [Fields.any_key_eq_false absent] at present
          cases present
        · rcases alone_of_split split same alone with ⟨rfl, first⟩
          rw [Fields.filled_concat_own (beq_self_eq_true key), Fields.filled_field, first, if_neg Bool.false_ne_true]
          exact Fields.storeWith_own (schema.decodeWith_of_describes buffered lossless.2.2.1 ofValue)
      · have apart : (one.1 == key) = false := beq_eq_false_iff_ne.mpr same
        have stored := rest.storeWith_of_describes buffered lossless.2.2.2 others
          (earlier.filter fun member => member.1 != key) one (later.filter fun member => member.1 != key)
          (by rw [split]; simp [apart, bne])
        rw [Fields.filled_concat_other apart, Fields.filled_field]
        exact Fields.storeWith_other (Ne.symm same) stored

theorem Variants.decode_of_describes (union tag : String) : {α : Type} → (variants : Variants α) →
    variants.Lossless tag →
    {members : List (String × Json)} → {value : α} → variants.Describes tag members value →
    ∃ index name, (members.filter fun member => member.1 == tag) = [(tag, .text name)] ∧
      variants.names[index]? = some name ∧
      variants.decode union index (.members (members.filter fun member => member.1 != tag)) = .ok value
  | _, .done, _, _, value, _ => nomatch value
  | _, .bare name rest, lossless, members, .inl (), described => by
      rw [Variants.Describes] at described
      refine ⟨0, name, ?_, rfl, rfl⟩
      rw [described]
      simp
  | _, .bare name rest, lossless, members, .inr other, described => by
      rw [Variants.Describes] at described
      rcases rest.decode_of_describes union tag lossless described with ⟨index, found, single, place, decoded⟩
      refine ⟨index + 1, found, single, place, ?_⟩
      rw [Variants.decode, decoded]
      rfl
  | _, .fields name label fields rest, lossless, members, .inl values, described => by
      rw [Variants.Describes] at described
      rcases described with ⟨single, each⟩
      refine ⟨0, name, single, rfl, ?_⟩
      rw [Variants.decode, ← fields.filled_nil values,
        foldlM_filled _ (fields.filled values) _ (fields.storeWith_of_describes true lossless.2.1 each)]
      dsimp only [bind, Except.bind]
      rw [fields.complete_filled each]
      rfl
  | _, .fields name label fields rest, lossless, members, .inr other, described => by
      rw [Variants.Describes] at described
      rcases rest.decode_of_describes union tag lossless.2.2 described with ⟨index, found, single, place, decoded⟩
      refine ⟨index + 1, found, single, place, ?_⟩
      rw [Variants.decode, decoded]
      rfl

end

theorem Schema.decode_of_describes {α : Type} {schema : Schema α} (lossless : schema.Lossless) {json : Json} {value : α}
    (described : schema.Describes json value) : schema.decode json = .ok value :=
  schema.decodeWith_of_describes false lossless described

end LedgerService
